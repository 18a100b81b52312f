import MarkupModule.Style.Arrangement
import MarkupModule.Style.Media
import MarkupModule.Style.Selector

/-! Rules of style sheets and how they are written. -/

namespace MarkupModule.Style

/-- A step of an animation: when it is reached, and what holds then. -/
structure Frame where
  moments : List (List Char)
  block : Block
  deriving Inhabited, BEq

/-- A rule. `loose` holds declarations that stand behind a rule within another; `grouped` holds rules
under a condition that is kept as it is; `described` is a rule of a given name that holds declarations;
`other` is a rule that nothing is known about. -/
inductive Rule
  | style (selectors : List Selector) (block : Block) (inner : List Rule)
  | loose (block : Block)
  | media (queries : List MediaQuery) (rules : List Rule)
  | grouped (name : String) (condition : List Piece) (rules : List Rule)
  | sheet (address : String) (modifiers : List Piece) (queries : List MediaQuery)
  | animation (name : String) (label : List Piece) (frames : List Frame)
  | described (name : String) (head : List Piece) (block : Block)
  | other (name : String) (head : List Piece) (body : Option (List Piece))
  deriving Inhabited

/-- A style sheet: the notices at its head and its rules. -/
structure Sheet where
  notices : List String
  rules : List Rule
  deriving Inhabited

def inBraces (s : List Char) : List Char :=
  '\x7b' :: s ++ ['\x7d']

def behindSpace (pieces : List Piece) : List Char :=
  if pieces.isEmpty then [] else ' ' :: Piece.texts pieces

def Frame.text (f : Frame) : List Char :=
  List.intercalate [','] f.moments ++ inBraces f.block.text

mutual

def Rule.text : Rule → List Char
  | .style selectors block inner =>
    let declarations := block.text
    let between := if declarations.isEmpty || inner.isEmpty then [] else [';']
    Part.listText selectors ++ inBraces (declarations ++ between ++ Rule.texts inner)
  | .loose block => block.text
  | .media queries rules =>
    if queries.all MediaQuery.isTrivial then Rule.texts rules
    else "@media ".toList ++ MediaQuery.listText queries ++ inBraces (Rule.texts rules)
  | .grouped name condition rules =>
    '@' :: name.toList ++ behindSpace condition ++ inBraces (Rule.texts rules)
  | .sheet address modifiers queries =>
    "@import ".toList ++ Spelling.quoted address.toList ++ behindSpace modifiers ++
      (if queries.isEmpty then [] else ' ' :: MediaQuery.listText queries) ++ [';']
  | .animation name label frames =>
    '@' :: name.toList ++ behindSpace label ++ inBraces (frames.flatMap Frame.text)
  | .described name head block => '@' :: name.toList ++ behindSpace head ++ inBraces block.text
  | .other name head body =>
    '@' :: name.toList ++ behindSpace head ++
      match body with
      | some pieces => inBraces (Piece.texts pieces)
      | none => [';']

/-- Rules as they are written. A semicolon ends declarations that another rule follows. -/
def Rule.texts : List Rule → List Char
  | [] => []
  | [rule] => rule.text
  | .loose block :: rest => block.text ++ ';' :: Rule.texts rest
  | rule :: rest => rule.text ++ Rule.texts rest

end

def Sheet.text (s : Sheet) : String :=
  String.ofList ((s.notices.flatMap fun notice => "/*".toList ++ notice.toList ++ "*/\n".toList) ++
    Rule.texts s.rules)

end MarkupModule.Style
