import MarkupModule.Style.Property

/-! Declarations: a property, its value, and whether it is important. -/

namespace MarkupModule.Style

open MarkupModule.Text

/-- A property with a value. -/
structure Declaration where
  property : String
  value : Value
  deriving Inhabited, BEq

/-- Declarations that belong together, the important ones apart. -/
structure Block where
  normal : List Declaration
  important : List Declaration
  deriving Inhabited, BEq

def Block.empty : Block := ⟨[], []⟩

def Block.isEmpty (b : Block) : Bool := b.normal.isEmpty && b.important.isEmpty

def Block.add (b : Block) (isImportant : Bool) (d : Declaration) : Block :=
  if isImportant then { b with important := b.important ++ [d] }
  else { b with normal := b.normal ++ [d] }

/-- The declarations of two blocks, one behind the other. -/
def Block.append (a b : Block) : Block :=
  ⟨a.normal ++ b.normal, a.important ++ b.important⟩

/-- Whether a property is one of the author's own. -/
def isOwnProperty (name : String) : Bool :=
  startsWith "--".toList name.toList

namespace Declaration

/-- The declaration of a property for a value. A value that the grammar of the property reads is written
as the grammar says, and any other one as it is. -/
def ofStretch (name : String) (s : Stretch) : Except Problem Declaration := do
  let known := lowerName name
  match shapeOf? known with
  | none => .ok ⟨name, .raw (← Piece.ofStretch s)⟩
  | some shape =>
    match shape s.words with
    | some layers => .ok ⟨known, .typed layers⟩
    | none => .ok ⟨known, .raw (← Piece.ofStretch s)⟩

/-- Whether a component ends the value of a property. Curly brackets do not end values of the author's
own properties. -/
def endsValue (name : String) (c : Component) : Bool :=
  c.isToken (.delim '!') || (c.isCurly && !isOwnProperty name)

/-- What is left of a declaration behind `!important`, if that stands at its start. -/
def important? (s : Stretch) : Option Stretch :=
  if (s.items.head?.map Component.first) == some (.delim '!') then
    let word := s.rest.skipSpace
    match word.items.head?.map Component.first with
    | some (.ident name) => if sameIgnoringCase name "important" then some word.rest else none
    | _ => none
  else none

def finish (s : Stretch) : Except Problem Unit :=
  match s.skipSpace.items with
  | [] => .ok ()
  | c :: _ => .error (s.unexpected c)

/-- Reads the declaration of a property from what follows its name, and whether it is important. -/
def read (name : String) (s : Stretch) : Except Problem (Bool × Declaration) := do
  let c ← s.require
  if c.isToken .colon then
    let body := s.skipSpace.rest
    let declaration ← ofStretch name (body.before (endsValue name))
    let rest := body.onward (endsValue name)
    match important? rest with
    | some after => do
      finish after
      .ok (true, declaration)
    | none => do
      finish rest
      .ok (false, declaration)
  else .error (s.unexpected c)

def text (isImportant : Bool) (d : Declaration) : List Char :=
  Spelling.identifier d.property.toList ++ ':' :: d.value.text ++
    (if isImportant then "!important".toList else [])

end Declaration

/-- The declarations of a block as they are written, important ones last, with semicolons between. -/
def Block.text (b : Block) : List Char :=
  List.intercalate [';'] (b.normal.map (Declaration.text false) ++ b.important.map (Declaration.text true))

end MarkupModule.Style
