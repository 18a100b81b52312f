import MarkupModule.Style.Grammar

/-! Media queries: for which devices rules hold. Bounds are written as comparisons. -/

namespace MarkupModule.Style

open MarkupModule.Text

/-- How a property of a device compares with a value. -/
inductive Comparison
  | equal
  | less
  | atMost
  | more
  | atLeast
  deriving DecidableEq, Repr, Inhabited

/-- A condition on a device. -/
inductive Condition
  | has (name : String)
  | is (name : String) (value : List Term)
  | compares (name : String) (c : Comparison) (value : List Term)
  | between (low : List Term) (c : Comparison) (name : String) (d : Comparison) (high : List Term)
  | negation (c : Condition)
  | all (conditions : List Condition)
  | any (conditions : List Condition)
  deriving Inhabited, BEq

/-- A query: a kind of device, which may be excluded, and a condition. -/
structure MediaQuery where
  qualifier : Option String
  kind : String
  condition : Option Condition
  deriving Inhabited, BEq

namespace Comparison

/-- The same comparison with its sides exchanged. -/
def flipped : Comparison → Comparison
  | equal => equal
  | less => more
  | atMost => atLeast
  | more => less
  | atLeast => atMost

def text : Comparison → List Char
  | equal => ['=']
  | less => ['<']
  | atMost => "<=".toList
  | more => ['>']
  | atLeast => ">=".toList

/-- The comparison at the start of some words, and the words behind it. -/
def read? : List Component → Option (Comparison × List Component)
  | c :: d :: rest =>
    match c.first, d.first with
    | .delim '<', .delim '=' => some (atMost, rest)
    | .delim '>', .delim '=' => some (atLeast, rest)
    | .delim '<', _ => some (less, d :: rest)
    | .delim '>', _ => some (more, d :: rest)
    | .delim '=', _ => some (equal, d :: rest)
    | _, _ => none
  | _ => none

end Comparison

namespace Condition

/-- The properties of devices that can be compared. -/
def orderedNames : List String := [
  "width", "height", "device-width", "device-height", "aspect-ratio", "device-aspect-ratio", "color",
  "color-index", "monochrome", "resolution"]

/-- The property and the comparison that a name with a bound stands for. -/
def bound? (name : String) : Option (String × Comparison) :=
  let ordered (rest : List Char) (c : Comparison) : Option (String × Comparison) :=
    if orderedNames.contains (String.ofList rest) then some (String.ofList rest, c) else none
  match dropPrefix? "min-".toList name.toList, dropPrefix? "max-".toList name.toList with
  | some rest, _ => ordered rest .atLeast
  | none, some rest => ordered rest .atMost
  | none, none => none

def word : Grammar.Word := fun c =>
  match Grammar.ident? c with
  | some name => some (.word name)
  | none => Grammar.lengthOr (fun _ => true) c

def isComparison (c : Component) : Bool :=
  c.isToken (.delim '<') || c.isToken (.delim '>') || c.isToken (.delim '=')

/-- A value: a word, or two numbers as a ratio. -/
def value? : List Component → Option (List Term)
  | [c] => (word c).map fun t => [t]
  | [c, d, e] =>
    if Grammar.isSlash d then do some [← Grammar.number c, .slash, ← Grammar.number e] else none
  | _ => none

def feature? (words : List Component) : Option Condition :=
  match words with
  | [] => none
  | c :: rest =>
    match Grammar.ident? c, rest with
    | some name, [] => some (.has name)
    | some name, d :: more =>
      if d.isToken .colon then
        match value? more, bound? name with
        | some value, some (ordered, comparison) => some (.compares ordered comparison value)
        | some value, none => some (.is name value)
        | none, _ => none
      else
        match Comparison.read? rest with
        | some (comparison, behind) => (value? behind).map fun value => .compares name comparison value
        | none => none
    | none, _ => do
      let low ← value? (words.takeWhile (!isComparison ·))
      let (first, behind) ← Comparison.read? (words.dropWhile (!isComparison ·))
      match behind with
      | [] => none
      | n :: more =>
        let name ← Grammar.ident? n
        if more.isEmpty then some (.compares name first.flipped low)
        else
          let (second, last) ← Comparison.read? more
          some (.between low first name second (← value? last))

def joined (operator : Option String) (conditions : List Condition) : Option Condition :=
  match conditions, operator with
  | [c], none => some c
  | _, some "and" => some (.all conditions)
  | _, some "or" => some (.any conditions)
  | _, _ => none

mutual

def ofBlock? : Component → Option Condition
  | .block _ (.bracket .round) inner _ =>
    feature? (inner.filter (!·.isSpace)) <|> operand? none [] inner
  | _ => none
termination_by c => (sizeOf c, 0)

/-- Reads on where a condition has to follow. -/
def operand? (operator : Option String) (before : List Condition) : List Component → Option Condition
  | [] => none
  | c :: rest =>
    if c.isSpace then operand? operator before rest
    else if Grammar.ident? c == some "not" && before.isEmpty then
      (operand? none [] rest).map .negation
    else
      match ofBlock? c with
      | some condition => operator? operator (before ++ [condition]) rest
      | none => none
termination_by items => (sizeOf items, 1)

def operator? (operator : Option String) (before : List Condition) : List Component → Option Condition
  | [] => joined operator before
  | c :: rest =>
    if c.isSpace then operator? operator before rest
    else
      match Grammar.ident? c, operator with
      | some name, none =>
        if name == "and" || name == "or" then operand? (some name) before rest else none
      | some name, some same => if name == same then operand? (some name) before rest else none
      | none, _ => none
termination_by items => (sizeOf items, 1)

end

/-- A text in round brackets, if it needs them. -/
def bracketed (needed : Bool) (s : List Char) : List Char :=
  if needed then '(' :: s ++ [')'] else s

mutual

/-- A condition as it is written, in brackets where it stands within another and needs them. -/
def text (inner : Bool) : Condition → List Char
  | has name => '(' :: name.toList ++ [')']
  | is name value => '(' :: name.toList ++ ':' :: Term.line value ++ [')']
  | compares name c value => '(' :: name.toList ++ c.text ++ Term.line value ++ [')']
  | between low c name d high =>
    '(' :: Term.line low ++ c.text ++ name.toList ++ d.text ++ Term.line high ++ [')']
  | negation c => bracketed inner ("not ".toList ++ c.text true)
  | all conditions => bracketed inner (joinedText " and ".toList conditions)
  | any conditions => bracketed inner (joinedText " or ".toList conditions)

def joinedText (word : List Char) : List Condition → List Char
  | [] => []
  | [c] => c.text true
  | c :: rest => c.text true ++ word ++ joinedText word rest

end

end Condition

namespace MediaQuery

def isTrivial (q : MediaQuery) : Bool :=
  q.qualifier.isNone && q.kind == "all" && q.condition.isNone

def isVoid (q : MediaQuery) : Bool :=
  q.qualifier == some "not" && q.kind == "all" && q.condition.isNone

def readCondition (s : Stretch) : Except Problem Condition :=
  match Condition.operand? none [] s.items with
  | some condition => .ok condition
  | none => .error ⟨.badMediaQuery, s.here⟩

def behindKind (qualifier : Option String) (kind : String) (s : Stretch) :
    Except Problem MediaQuery :=
  match s.skipSpace.items with
  | [] => .ok ⟨qualifier, kind, none⟩
  | c :: _ =>
    if Grammar.ident? c == some "and" then
      (readCondition s.skipSpace.rest).map fun condition => ⟨qualifier, kind, some condition⟩
    else .error (s.unexpected c)

def read (s : Stretch) : Except Problem MediaQuery := do
  let c ← s.require
  let behind := s.skipSpace.rest
  let unqualified := (readCondition s).map fun condition => MediaQuery.mk none "all" (some condition)
  match Grammar.ident? c with
  | none => unqualified
  | some name =>
    if name == "only" || name == "not" then
      let d ← behind.require
      match Grammar.ident? d with
      | some kind => behindKind (some name) kind behind.skipSpace.rest
      | none => unqualified
    else behindKind none name behind

/-- A query as it is written. All kinds of devices go without saying before a condition. -/
def text (q : MediaQuery) : List Char :=
  let qualified := match q.qualifier with
    | some word => word.toList ++ [' ']
    | none => []
  let named := q.qualifier.isSome || q.condition.isNone || q.kind != "all"
  let condition := match q.condition with
    | none => []
    | some c =>
      if named then
        " and ".toList ++ match c with
          | .any _ => c.text true
          | _ => c.text false
      else c.text false
  qualified ++ (if named then q.kind.toList else []) ++ condition

/-- Reads a list of queries, which may be empty. -/
def list (s : Stretch) : Except Problem (List MediaQuery) :=
  if s.isBare then .ok [] else s.splitOnComma.mapM read

def listText (queries : List MediaQuery) : List Char :=
  List.intercalate [','] (queries.map text)

end MediaQuery

end MarkupModule.Style
