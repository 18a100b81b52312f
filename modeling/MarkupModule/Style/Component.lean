import MarkupModule.Style.Lexer

/-! Tokens with their brackets matched. A block holds what stands between two brackets; a bracket that
closes nothing stays a token, and blocks that are left open end with the text. Every place in the text is
told by how many characters are left from there. -/

namespace MarkupModule.Style

/-- What opens a block: a bracket, or a function with its bracket. -/
inductive Opening
  | bracket (b : Bracket)
  | function (name : String)
  deriving DecidableEq, Repr, Inhabited

/-- A token or a block, with its place. `close` is the place of the bracket that ends the block. -/
inductive Component
  | token (left : Nat) (content : Token)
  | block (left : Nat) (opening : Opening) (inner : List Component) (close : Nat)
  deriving Inhabited

def Opening.closedBy : Opening → Bracket
  | bracket b => b
  | function _ => .round

def Opening.token : Opening → Token
  | bracket b => .opening b
  | function name => .function name

def Token.opening? : Token → Option Opening
  | .opening b => some (.bracket b)
  | .function name => some (.function name)
  | _ => none

namespace Component

def left : Component → Nat
  | token left _ => left
  | block left _ _ _ => left

def first : Component → Token
  | token _ content => content
  | block _ opening _ _ => opening.token

/-- Whether a component is space or a comment. -/
def isSpace (c : Component) : Bool := c.first.isSpace

/-- Whether a component is a block in curly brackets. -/
def isCurly (c : Component) : Bool := c.first == .opening .curly

def isToken (t : Token) (c : Component) : Bool := c.first == t

/-- Leaving out the first components leaves less. -/
theorem sizeOf_dropWhile_le (test : Component → Bool) (items : List Component) :
    sizeOf (items.dropWhile test) ≤ sizeOf items := by
  induction items with
  | nil => simp
  | cons c rest ih =>
    rw [List.dropWhile_cons]
    split
    · simp only [List.cons.sizeOf_spec]
      omega
    · exact Nat.le_refl _

/-- What follows the first component that passes a test is less than all components. -/
theorem sizeOf_lt_of_dropWhile_eq_cons {test : Component → Bool} {items rest : List Component}
    {c : Component} (h : items.dropWhile test = c :: rest) : sizeOf rest < sizeOf items := by
  have := sizeOf_dropWhile_le test items
  rw [h, List.cons.sizeOf_spec] at this
  omega

/-- A block that is open: where it began, and what stands before it, last component first. -/
structure Level where
  left : Nat
  opening : Opening
  before : List Component

/-- Closes a block: its contents, last component first, become one component behind what stands before
it. -/
def Level.closed (level : Level) (close : Nat) (inner : List Component) : List Component :=
  block level.left level.opening inner.reverse close :: level.before

/-- Matches the brackets among tokens, given the blocks that are open and the components of the innermost
one, last component first. -/
def nest (levels : List Level) (here : List Component) : List (Nat × Token) → List Component
  | [] => (levels.foldl (fun inner level => level.closed 0 inner) here).reverse
  | (left, content) :: rest =>
    match content.opening?, content, levels with
    | some opening, _, _ => nest (⟨left, opening, here⟩ :: levels) [] rest
    | none, .closing b, level :: outer =>
      if level.opening.closedBy = b then nest outer (level.closed left here) rest
      else nest levels (token left content :: here) rest
    | none, _, _ => nest levels (token left content :: here) rest

end Component

/-- Consecutive components and the place where they end. -/
structure Stretch where
  items : List Component
  stop : Nat
  deriving Inhabited

namespace Stretch

def ofText (css : List Char) : Stretch :=
  ⟨Component.nest [] [] (Lexer.tokens css), 0⟩

def here (s : Stretch) : Nat :=
  match s.items with
  | [] => s.stop
  | c :: _ => c.left

/-- A stretch without the space at its start. -/
def skipSpace (s : Stretch) : Stretch :=
  ⟨s.items.dropWhile Component.isSpace, s.stop⟩

/-- The components before the first that passes a test. -/
def before (test : Component → Bool) (s : Stretch) : Stretch :=
  let rest := s.items.dropWhile (!test ·)
  ⟨s.items.takeWhile (!test ·), (Stretch.mk rest s.stop).here⟩

/-- The components from the first that passes a test on. -/
def onward (test : Component → Bool) (s : Stretch) : Stretch :=
  ⟨s.items.dropWhile (!test ·), s.stop⟩

def rest (s : Stretch) : Stretch := ⟨s.items.drop 1, s.stop⟩

def words (s : Stretch) : List Component :=
  s.items.filter (!·.isSpace)

def isBare (s : Stretch) : Bool := s.items.all Component.isSpace

/-- The parts between separators; there is always at least one. -/
def splitOn (test : Component → Bool) : List Component → Nat → List Stretch
  | [], stop => [⟨[], stop⟩]
  | c :: cs, stop =>
    let parts := splitOn test cs stop
    if test c then ⟨[], c.left⟩ :: parts
    else
      match parts with
      | part :: more => ⟨c :: part.items, part.stop⟩ :: more
      | [] => [⟨[c], stop⟩]

def splitOnComma (s : Stretch) : List Stretch :=
  splitOn (Component.isToken .comma) s.items s.stop

end Stretch

end MarkupModule.Style
