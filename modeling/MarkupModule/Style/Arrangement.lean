import MarkupModule.Style.Declaration

/-! Declarations of one block, brought together. A later declaration of a property takes the place of an
earlier one; declarations of all sides of a property become one; and some properties are written behind
all others, in a fixed order. -/

namespace MarkupModule.Style

open MarkupModule.Text

/-- Declarations while they are brought together: those whose place is fixed, and those that are held
back, at most one of each property. -/
structure Arrangement where
  placed : List Declaration
  held : List Declaration
  deriving Inhabited

namespace Arrangement

/-- Declarations in which one takes the place of an earlier one of its property, or the last place. -/
def put (d : Declaration) : List Declaration → List Declaration
  | [] => [d]
  | e :: rest => if e.property == d.property then d :: rest else e :: put d rest

/-- Whether a property sets another of its group: the name of the other begins with its name. -/
def covers (property other : String) : Bool :=
  startsWith (property.toList ++ ['-']) other.toList

/-- The family that a property is the shorthand of. -/
def familyOf? (property : String) : Option Family :=
  families.find? (·.shorthand == property)

/-- Whether a declaration has a value that nothing is known about. -/
def isOpaque (d : Declaration) : Bool :=
  match d.value with
  | .raw _ => !unreadProperties.contains d.property
  | .typed _ => false

/-- The single layer of a value that was understood. -/
def layer? : Value → Option (List Term)
  | .typed [terms] => some terms
  | _ => none

/-- All sides of a family as one declaration, where all are held back. -/
def joinFamily (held : List Declaration) (f : Family) : List Declaration :=
  let parts := f.longhands.mapM fun name =>
    (held.find? (·.property == name)).bind fun d => layer? d.value
  match parts.bind f.join with
  | some terms =>
    ⟨f.shorthand, .typed [terms]⟩ :: held.filter fun d => !f.longhands.contains d.property
  | none => held

/-- The declarations that are held back in the order of writing, sides joined where possible. -/
def settled (held : List Declaration) : List Declaration :=
  let joined := families.foldl joinFamily held
  lateProperties.flatMap fun name => joined.filter (·.property == name)

/-- Fixes the places of the declarations of a group that are held back. -/
def release (group : List String) (a : Arrangement) : Arrangement :=
  let (out, stay) := a.held.partition fun d => group.contains d.property
  ⟨a.placed ++ settled out, stay⟩

/-- Holds back a declaration of a group, instead of those that it sets. -/
def hold (group : List String) (a : Arrangement) (d : Declaration) : Arrangement :=
  match familyOf? d.property, layer? d.value with
  | some f, some terms =>
    let sides := List.zipWith (fun name part => Declaration.mk name (.typed [part])) f.longhands
      (f.split terms)
    { a with held := sides.foldl (fun held side => put side held) a.held }
  | _, _ =>
    let others := a.held.filter fun e => !(group.contains e.property && covers d.property e.property)
    { a with held := put d others }

/-- Adds a declaration. A value that nothing is known about fixes the places of its group when it may set
others of it. -/
def add (a : Arrangement) (d : Declaration) : Arrangement :=
  match lateGroups.find? (·.contains d.property) with
  | none => { a with placed := put d a.placed }
  | some group =>
    let setsOthers := (familyOf? d.property).isSome || group.any (covers d.property) || group.length == 1
    if isOpaque d && setsOthers then
      let released := a.release group
      { released with placed := released.placed ++ [d] }
    else a.hold group d

def arrange (declarations : List Declaration) : List Declaration :=
  let a := declarations.foldl add ⟨[], []⟩
  a.placed ++ settled a.held

end Arrangement

/-- A block whose declarations are brought together, important ones apart. -/
def Block.arranged (b : Block) : Block :=
  ⟨Arrangement.arrange b.normal, Arrangement.arrange b.important⟩

end MarkupModule.Style
