import MarkupModule.Style.Selector.Count

/-! Reading selectors. The reader passes over the components once, from one compound of parts to the next;
commas part the selectors of a list. -/

namespace MarkupModule.Style

open MarkupModule.Text

/-- A list of selectors while it is read: the selectors before the last comma and the parts since, both
last first, and whether a part of an element was named, behind which little may follow. -/
structure SelectorState where
  done : List Selector
  parts : List Part
  behindElement : Bool
  deriving Inhabited

namespace SelectorState

def initial : SelectorState := ⟨[], [], false⟩

def push (s : SelectorState) (p : Part) : SelectorState := { s with parts := p :: s.parts }

def next (s : SelectorState) : SelectorState := ⟨s.parts.reverse :: s.done, [], false⟩

def all (s : SelectorState) : List Selector := s.next.done.reverse

def missing (s : SelectorState) : Cause :=
  if s.parts.isEmpty then .emptySelector else .danglingCombinator

end SelectorState

def Combinator.ofToken? : Token → Option Combinator
  | .delim '>' => some .child
  | .delim '+' => some .next
  | .delim '~' => some .later
  | _ => none

/-- A part named behind a colon without brackets. -/
def Part.named (double : Bool) (written : String) : Part :=
  let name := lowerName written
  if singleColonElements.contains name then .pseudo false name
  else
    let known := if double then pseudoElements else pseudoClasses ++ rarePseudoClasses
    .pseudo double (if known.contains name then name else written)

/-- Whether a name behind colons is that of a part of an element, behind which little may follow. -/
def endsCompound (double : Bool) (written : String) : Bool :=
  let name := lowerName written
  singleColonElements.contains name || (double && pseudoElements.contains name)

def attributeOperator? : Token → Bool
  | .delim '=' | .includes | .dashes | .begins | .ends | .holds => true
  | _ => false

def attributeFlag (s : Stretch) : Except Problem (Option String) :=
  match s.skipSpace.items with
  | [] => .ok none
  | c :: _ =>
    match c.first with
    | .ident name =>
      let flag := lowerName name
      if flag == "i" || flag == "s" then
        match s.skipSpace.rest.skipSpace.items with
        | [] => .ok (some flag)
        | d :: _ => .error (s.skipSpace.rest.unexpected d)
      else .error (s.unexpected c)
    | _ => .error (s.unexpected c)

def attributePart (s : Stretch) : Except Problem Part := do
  let c ← s.require
  match c.first with
  | .ident name =>
    let behind := s.skipSpace.rest
    match behind.skipSpace.items with
    | [] => .ok (.attributed name none)
    | op :: _ =>
      if attributeOperator? op.first then
        let tail := behind.skipSpace.rest
        let v ← tail.require
        let value ← match v.first with
          | .ident value | .text value => .ok value
          | t => .error ⟨.attributeValue t, tail.here⟩
        let flag ← attributeFlag tail.skipSpace.rest
        .ok (.attributed name (some ⟨op.first, value, flag⟩))
      else .error ⟨.attributeOperator op.first, behind.here⟩
  | t => .error ⟨.attributeName t, s.here⟩

/-- Whether a component is the word before the selectors of a count. -/
def isOf (c : Component) : Bool :=
  match c.first with
  | .ident name => sameIgnoringCase name "of"
  | _ => false

mutual

/-- Reads from the start of a compound, where an element may be named. `relative` says that a combinator
may stand there. -/
def readCompound (relative : Bool) (stop : Nat) (s : SelectorState) :
    List Component → Except Problem (List Selector)
  | [] => .error ⟨if relative && s.parts.isEmpty then .endOfInput else s.missing, stop⟩
  | c :: rest =>
    if c.isSpace then readCompound relative stop s rest
    else
      match c.first, Combinator.ofToken? c.first with
      | .ident name, _ => readParts relative stop false (s.push (.element name)) rest
      | .delim '*', _ => readParts relative stop false (s.push .universal) rest
      | _, some combinator =>
        if relative && s.parts.isEmpty then
          readCompound relative stop ((s.push .nesting).push (.combinator combinator)) rest
        else .error ⟨s.missing, c.left⟩
      | _, none => readParts relative stop true s (c :: rest)
termination_by items => (sizeOf items, 1)

/-- Reads the further parts of a compound, which is empty so far or not. -/
def readParts (relative : Bool) (stop : Nat) (empty : Bool) (s : SelectorState) :
    List Component → Except Problem (List Selector)
  | [] => if empty then .error ⟨s.missing, stop⟩ else .ok s.all
  | .token left (.hash name true) :: rest =>
    if s.behindElement then .error ⟨.afterPseudoElement (.hash name true), left⟩
    else readParts relative stop false (s.push (.id name)) rest
  | .token left (.delim '.') :: rest =>
    if s.behindElement then .error ⟨.afterPseudoElement (.delim '.'), left⟩
    else
      match rest with
      | [] => .error ⟨.endOfInput, stop⟩
      | .token _ (.ident name) :: more => readParts relative stop false (s.push (.className name)) more
      | c :: _ => .error ⟨.className c.first, c.left⟩
  | .block left (.bracket .square) inner close :: rest =>
    if s.behindElement then .error ⟨.afterPseudoElement (.opening .square), left⟩
    else
      match attributePart ⟨inner, close⟩ with
      | .error problem => .error problem
      | .ok part => readParts relative stop false (s.push part) rest
  | .token _ .colon :: .token _ .colon :: rest => readNamed relative stop true s rest
  | .token _ .colon :: rest => readNamed relative stop false s rest
  | .token _ (.delim '&') :: rest => readParts relative stop false (s.push .nesting) rest
  | c :: rest =>
    if empty then .error ⟨s.missing, c.left⟩
    else if c.isToken .comma then readCompound relative stop s.next rest
    else if s.behindElement then
      match (c :: rest).dropWhile Component.isSpace with
      | [] => .ok s.all
      | d :: _ =>
        if d.isToken .comma then readGap relative stop s rest
        else .error ⟨.afterPseudoElement d.first, c.left⟩
    else if c.isSpace then readGap relative stop s rest
    else
      match Combinator.ofToken? c.first with
      | some combinator => readCompound relative stop (s.push (.combinator combinator)) rest
      | none => .error ⟨.unexpected c.first, c.left⟩
termination_by items => (sizeOf items, 0)

/-- Reads from space behind a compound on: a combinator, or another compound within. -/
def readGap (relative : Bool) (stop : Nat) (s : SelectorState) :
    List Component → Except Problem (List Selector)
  | [] => .ok s.all
  | c :: rest =>
    if c.isSpace then readGap relative stop s rest
    else if c.isToken .comma then readCompound relative stop s.next rest
    else
      match Combinator.ofToken? c.first with
      | some combinator => readCompound relative stop (s.push (.combinator combinator)) rest
      | none => readCompound relative stop (s.push (.combinator .descendant)) (c :: rest)
termination_by items => (sizeOf items, 2)

def readNamed (relative : Bool) (stop : Nat) (double : Bool) (s : SelectorState) :
    List Component → Except Problem (List Selector)
  | [] => .error ⟨.endOfInput, stop⟩
  | .token _ (.ident name) :: rest =>
    let pushed := s.push (Part.named double name)
    readParts relative stop false { pushed with behindElement := s.behindElement || endsCompound double name } rest
  | .block _ (.function written) inner close :: rest =>
    let name := lowerName written
    if !double && countedClasses.contains name then
      match readCount name inner close with
      | .error problem => .error problem
      | .ok part => readParts relative stop false (s.push part) rest
    else if (!double && selectorClasses.contains name) || (double && name == "slotted") then
      match readCompound (name == "has") close .initial inner with
      | .error problem => .error problem
      | .ok selectors => readParts relative stop false (s.push (.within double name selectors)) rest
    else
      match Piece.ofStretch ⟨inner, close⟩ with
      | .error problem => .error problem
      | .ok pieces => readParts relative stop false (s.push (.call double written pieces)) rest
  | c :: rest => .error ⟨.pseudoName c.first, (Stretch.mk rest stop).here⟩
termination_by items => (sizeOf items, 0)

/-- Reads a count and the selectors that it is among. -/
def readCount (name : String) (inner : List Component) (close : Nat) : Except Problem Part :=
  match h : inner.dropWhile (!isOf ·) with
  | [] =>
    match Count.ofTokens? (inner.map Component.first) with
    | some count => .ok (Count.part name count [])
    | none =>
      match (Stretch.mk inner close).require with
      | .error problem => .error problem
      | .ok c => .error ⟨.unexpected c.first, c.left⟩
  | ofWord :: rest =>
    match Count.ofTokens? ((inner.takeWhile (!isOf ·)).map Component.first) with
    | none => .error ⟨.unexpected ofWord.first, ofWord.left⟩
    | some count =>
      have : sizeOf rest < sizeOf inner := Component.sizeOf_lt_of_dropWhile_eq_cons h
      match readCompound false close .initial rest with
      | .error problem => .error problem
      | .ok among => .ok (Count.part name count among)
termination_by (sizeOf inner, 0)

end

end MarkupModule.Style
