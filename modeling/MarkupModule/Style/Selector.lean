import MarkupModule.Style.Value

/-! Selectors: which elements a rule is for. A selector is a row of parts, with a combinator between
those that speak of different elements. -/

namespace MarkupModule.Style

open MarkupModule.Text

/-- How two elements of a selector are related. -/
inductive Combinator
  | descendant
  | child
  | next
  | later
  deriving DecidableEq, Repr, Inhabited

/-- A comparison with the value of an attribute; `flag` says how case counts. -/
structure AttributeTest where
  operator : Token
  value : String
  flag : Option String
  deriving DecidableEq, Repr, Inhabited

/-- A part of a selector. Names behind a colon are `double` when they are written with two. -/
inductive Part
  | combinator (c : Combinator)
  | universal
  | element (name : String)
  | id (name : String)
  | className (name : String)
  | attributed (name : String) (test : Option AttributeTest)
  | nesting
  | pseudo (double : Bool) (name : String)
  | nth (name : String) (step offset : Int) (among : List (List Part))
  | within (double : Bool) (name : String) (selectors : List (List Part))
  | call (double : Bool) (name : String) (arguments : List Piece)
  deriving Inhabited, BEq

abbrev Selector := List Part

/-! ### Names -/

/-- Parts of elements that may be written with one colon. -/
def singleColonElements : List String := ["before", "after", "first-line", "first-letter"]

def pseudoClasses : List String := [
  "hover", "active", "focus", "focus-visible", "focus-within", "fullscreen", "popover-open", "any-link",
  "link", "visited", "target", "enabled", "disabled", "read-only", "read-write", "placeholder-shown",
  "default", "checked", "indeterminate", "valid", "invalid", "in-range", "out-of-range", "required",
  "optional", "autofill", "root", "empty", "scope", "host", "first-child", "last-child", "only-child",
  "first-of-type", "last-of-type", "only-of-type", "modal", "open", "picture-in-picture"]

/-- States that no known program supports, so that rules with them stay by themselves. -/
def rarePseudoClasses : List String := [
  "current", "past", "future", "playing", "paused", "seeking", "buffering", "stalled", "muted",
  "volume-locked", "defined", "local-link", "target-within", "blank", "user-valid", "user-invalid"]

/-- States that are told by selectors in brackets. -/
def selectorClasses : List String := ["not", "is", "where", "has", "host", "host-context", "any", "matches"]

def countedClasses : List String := [
  "nth-child", "nth-last-child", "nth-of-type", "nth-last-of-type", "nth-col", "nth-last-col"]

def pseudoElements : List String := singleColonElements ++ [
  "selection", "placeholder", "marker", "backdrop", "file-selector-button", "cue", "cue-region",
  "-webkit-scrollbar", "-webkit-scrollbar-button", "-webkit-scrollbar-track",
  "-webkit-scrollbar-track-piece", "-webkit-scrollbar-thumb", "-webkit-scrollbar-corner", "-webkit-resizer"]

/-! ### Writing -/

/-- A count as `step * n + offset` in its shortest form. -/
def countText (step offset : Int) : List Char :=
  let signed (n : Int) : List Char :=
    if n < 0 then (toString n).toList else '+' :: (toString n).toList
  if step = 2 && offset = 1 then "odd".toList
  else if step = 0 then (toString offset).toList
  else
    let front :=
      if step = 1 then ['n'] else if step = -1 then "-n".toList else (toString step).toList ++ ['n']
    if offset = 0 then front else front ++ signed offset

def colons (double : Bool) : List Char := if double then [':', ':'] else [':']

def Combinator.text : Combinator → List Char
  | descendant => [' ']
  | child => ['>']
  | next => ['+']
  | later => ['~']

def AttributeTest.text (t : AttributeTest) : List Char :=
  t.operator.spelling ++ Spelling.nameOrQuoted t.value.toList ++
    match t.flag with
    | some flag => ' ' :: flag.toList
    | none => []

mutual

def Part.text : Part → List Char
  | .combinator c => c.text
  | .universal => ['*']
  | .element name => Spelling.identifier name.toList
  | .id name => '#' :: Spelling.identifier name.toList
  | .className name => '.' :: Spelling.identifier name.toList
  | .attributed name none => '[' :: Spelling.identifier name.toList ++ [']']
  | .attributed name (some test) => '[' :: Spelling.identifier name.toList ++ test.text ++ [']']
  | .nesting => ['&']
  | .pseudo double name => colons double ++ Spelling.identifier name.toList
  | .nth name step offset [] => ':' :: name.toList ++ '(' :: countText step offset ++ [')']
  | .nth name step offset among =>
    ':' :: name.toList ++ '(' :: countText step offset ++ " of ".toList ++ Part.listText among ++ [')']
  | .within double name selectors =>
    colons double ++ name.toList ++ '(' :: Part.listText selectors ++ [')']
  | .call double name arguments =>
    colons double ++ Spelling.identifier name.toList ++ '(' :: Piece.texts arguments ++ [')']

def Part.rowText : List Part → List Char
  | [] => []
  | p :: rest => p.text ++ Part.rowText rest

/-- Selectors as they are written, with commas between them. -/
def Part.listText : List (List Part) → List Char
  | [] => []
  | [row] => Part.rowText row
  | row :: rest => Part.rowText row ++ ',' :: Part.listText rest

end

/-! ### Properties of selectors -/

mutual

/-- Whether a part speaks of the rule around it. -/
def Part.hasNesting : Part → Bool
  | .nesting => true
  | .nth _ _ _ among => Part.anyNesting among
  | .within _ _ selectors => Part.anyNesting selectors
  | _ => false

/-- Whether a part of a selector speaks of the rule around it. -/
def Part.rowNesting : List Part → Bool
  | [] => false
  | p :: rest => p.hasNesting || Part.rowNesting rest

/-- Whether some selector speaks of the rule around it. -/
def Part.anyNesting : List (List Part) → Bool
  | [] => false
  | row :: rest => Part.rowNesting row || Part.anyNesting rest

end

mutual

/-- Whether every program that reads style sheets knows a part. -/
def Part.isCommon : Part → Bool
  | .pseudo false name => pseudoClasses.contains name || singleColonElements.contains name
  | .pseudo true name => pseudoElements.contains name
  | .nth _ _ _ among => Part.allCommon among
  | .within _ _ selectors => Part.allCommon selectors
  | .call _ name _ => ["lang", "dir", "part"].contains name
  | _ => true

/-- Whether all parts of a selector are common. -/
def Part.rowCommon : List Part → Bool
  | [] => true
  | p :: rest => p.isCommon && Part.rowCommon rest

/-- Whether all parts of selectors are common. -/
def Part.allCommon : List (List Part) → Bool
  | [] => true
  | row :: rest => Part.rowCommon row && Part.allCommon rest

end

end MarkupModule.Style
