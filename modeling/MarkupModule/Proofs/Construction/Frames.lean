import MarkupModule.Markup.Construction.Builder
import Mathlib.Data.List.Basic

/-! The open elements of a tree under construction, each with what stands before it. As long as nothing
is moved, every open element is the last child of the one around it, so the tree is the children of the
innermost one, put into the frames one after the other. Serial numbers grow on the way in; so the number
of an open element leads to that element and changes nothing else. -/

namespace MarkupModule.Markup.Construction

/-- An open element with the branches that stand before it. -/
structure Frame where
  before : List Branch
  serial : Nat
  name : ElementName
  attributes : List Attribute

/-- The entry of a frame in the list of open elements. -/
def Frame.opened (f : Frame) : OpenElement :=
  ⟨f.serial, f.name⟩

/-- The branches that a frame adds to the element around it once it is closed. -/
def Frame.closed (f : Frame) (children : List Branch) : List Branch :=
  f.before ++ [.element f.serial f.name f.attributes children]

/-- The tree around the children of the innermost open element. -/
def plug : List Frame → List Branch → List Branch
  | [], children => children
  | f :: around, children => plug around (f.closed children)

namespace Branch

mutual

def serials : Branch → List Nat
  | element k _ _ children => k :: serialsIn children
  | contents children => serialsIn children
  | text _ => []
  | comment _ => []
  | doctype _ _ _ => []

/-- The serial numbers in a list of branches. -/
def serialsIn : List Branch → List Nat
  | [] => []
  | b :: bs => b.serials ++ serialsIn bs

end

/-- The serial numbers in a list of branches are below a number. -/
def Below (n : Nat) (bs : List Branch) : Prop :=
  ∀ s ∈ serialsIn bs, s < n

theorem serialsIn_append (first second : List Branch) :
    serialsIn (first ++ second) = serialsIn first ++ serialsIn second := by
  induction first with
  | nil => rfl
  | cons b bs ih => rw [List.cons_append, serialsIn, serialsIn, ih, List.append_assoc]

theorem below_append_iff {n : Nat} {first second : List Branch} :
    Below n (first ++ second) ↔ Below n first ∧ Below n second := by
  rw [Below, serialsIn_append, List.forall_mem_append]
  rfl

theorem below_element_iff {n k : Nat} {name : ElementName} {attributes : List Attribute}
    {children : List Branch} :
    Below n [element k name attributes children] ↔ k < n ∧ Below n children := by
  rw [Below, serialsIn, serials, serialsIn, List.append_nil, List.forall_mem_cons]
  rfl

theorem below_nil (n : Nat) : Below n [] := by
  intro s hs
  cases hs

theorem below_text (n : Nat) (content : String) : Below n [text content] := by
  intro s hs
  cases hs

theorem Below.mono {n m : Nat} {bs : List Branch} (h : Below n bs) (hle : n ≤ m) : Below m bs :=
  fun s hs => Nat.lt_of_lt_of_le (h s hs) hle

mutual

theorem adjust_of_not_mem {serial : Nat} {change : List Branch → List Branch} :
    (b : Branch) → serial ∉ b.serials → b.adjust serial change = b
  | element k name attributes children, h => by
      rw [serials, List.mem_cons, not_or] at h
      rw [adjust, if_neg (Ne.symm h.1), adjustAll_of_not_mem children h.2]
  | contents children, h => by
      rw [adjust, adjustAll_of_not_mem children h]
  | text _, _ => rfl
  | comment _, _ => rfl
  | doctype _ _ _, _ => rfl

theorem adjustAll_of_not_mem {serial : Nat} {change : List Branch → List Branch} :
    (bs : List Branch) → serial ∉ serialsIn bs → adjustAll serial change bs = bs
  | [], _ => rfl
  | b :: bs, h => by
      rw [serialsIn, List.mem_append, not_or] at h
      rw [adjustAll, adjust_of_not_mem b h.1, adjustAll_of_not_mem bs h.2]

end

theorem adjustAll_of_below {serial : Nat} {bs : List Branch} (h : Below serial bs)
    (change : List Branch → List Branch) : adjustAll serial change bs = bs :=
  adjustAll_of_not_mem bs fun hmem => Nat.lt_irrefl serial (h serial hmem)

theorem adjustAll_append (serial : Nat) (change : List Branch → List Branch)
    (first second : List Branch) :
    adjustAll serial change (first ++ second) =
      adjustAll serial change first ++ adjustAll serial change second := by
  induction first with
  | nil => rfl
  | cons b bs ih => rw [List.cons_append, adjustAll, adjustAll, ih, List.cons_append]

theorem append_element (serial : Nat) (name : ElementName) (attributes : List Attribute)
    (children bs : List Branch) :
    append (element serial name attributes children) bs =
      bs ++ [element serial name attributes children] := by
  fun_induction append (element serial name attributes children) bs with
  | case1 => rfl
  | case2 => rename_i heq; cases heq
  | case3 => rfl
  | case4 b bs _ ih => rw [ih, List.cons_append]

theorem toNodes_append (first second : List Branch) :
    toNodes (first ++ second) = toNodes first ++ toNodes second := by
  induction first with
  | nil => rfl
  | cons b bs ih => rw [List.cons_append, toNodes, toNodes, ih, List.cons_append]

end Branch

/-- Frames whose serial numbers grow on the way in and stay below a number. -/
inductive Growing : Nat → List Frame → Prop where
  | nil {n : Nat} : Growing n []
  | cons {n : Nat} {f : Frame} {around : List Frame} (hserial : f.serial < n)
      (hbefore : Branch.Below f.serial f.before) (haround : Growing f.serial around) :
      Growing n (f :: around)

theorem Growing.mono {n m : Nat} {frames : List Frame} (h : Growing n frames) (hle : n ≤ m) :
    Growing m frames := by
  cases h with
  | nil => exact .nil
  | cons hserial hbefore haround => exact .cons (Nat.lt_of_lt_of_le hserial hle) hbefore haround

/-- A number that no frame has leads to the children of the innermost one. -/
theorem adjustAll_plug {n : Nat} {frames : List Frame} (h : Growing n frames)
    (change : List Branch → List Branch) (children : List Branch) :
    Branch.adjustAll n change (plug frames children) =
      plug frames (Branch.adjustAll n change children) := by
  induction frames generalizing children with
  | nil => rfl
  | cons f around ih =>
      cases h with
      | cons hserial hbefore haround =>
          rw [plug, ih (haround.mono (Nat.le_of_lt hserial)), Frame.closed, Branch.adjustAll_append,
            Branch.adjustAll_of_below (hbefore.mono (Nat.le_of_lt hserial)), Branch.adjustAll,
            Branch.adjust, if_neg (Nat.ne_of_lt hserial)]
          rfl

/-- The number of the innermost open element leads to it. -/
theorem adjustAll_plug_cons {n : Nat} {f : Frame} {around : List Frame} (h : Growing n (f :: around))
    (change : List Branch → List Branch) (children : List Branch) :
    Branch.adjustAll f.serial change (plug (f :: around) children) =
      plug (f :: around) (change children) := by
  cases h with
  | cons hserial hbefore haround =>
      rw [plug, adjustAll_plug haround, Frame.closed, Branch.adjustAll_append,
        Branch.adjustAll_of_below hbefore, Branch.adjustAll, Branch.adjust, if_pos rfl]
      rfl

namespace Builder

/-- The state with these frames open around the children of the innermost one. -/
def within (b : Builder) (frames : List Frame) (children : List Branch) : Builder :=
  { b with branches := plug frames children, openElements := frames.map Frame.opened }

/-- The state with the next serial number used. -/
def numbered (b : Builder) : Builder :=
  { b with nextSerial := b.nextSerial + 1 }

section

variable {b : Builder} {n : Nat} {f : Frame} {around : List Frame} {children : List Branch}

theorem insert_within (h : Growing n (f :: around)) (hfoster : b.fosterParenting = false)
    (hname : isHtml "template" f.name = false) (new : Branch) :
    (b.within (f :: around) children).insert new =
      b.within (f :: around) (Branch.append new children) := by
  have hplace : (b.within (f :: around) children).place = .within f.serial := by
    change (if b.fosterParenting && _ then _ else placeIn f.opened) = _
    rw [hfoster, Bool.false_and, if_neg Bool.false_ne_true, placeIn]
    change (if isHtml "template" f.name = true then _ else _) = _
    rw [hname]
    rfl
  rw [insert, hplace, insertAt]
  change { b with
    branches := Branch.adjustAll f.serial _ (plug (f :: around) children)
    openElements := (f :: around).map Frame.opened } = _
  rw [adjustAll_plug_cons h]
  rfl

theorem newBranch_of_ne {name : ElementName} (h : isHtml "template" name = false) (serial : Nat)
    (attributes : List Attribute) : newBranch serial name attributes = .element serial name attributes [] := by
  rw [newBranch, h]
  rfl

theorem insertClosed_within (h : Growing n (f :: around)) (hfoster : b.fosterParenting = false)
    (hname : isHtml "template" f.name = false) {name : ElementName}
    (hnew : isHtml "template" name = false) (attributes : List Attribute) :
    (b.within (f :: around) children).insertClosed name attributes =
      b.numbered.within (f :: around) (children ++ [.element b.nextSerial name attributes []]) := by
  rw [insertClosed, newBranch_of_ne hnew]
  change (b.numbered.within (f :: around) children).insert _ = _
  rw [insert_within (b := b.numbered) h hfoster hname, Branch.append_element]
  rfl

theorem insertOpen_within (h : Growing n (f :: around)) (hfoster : b.fosterParenting = false)
    (hname : isHtml "template" f.name = false) {name : ElementName}
    (hnew : isHtml "template" name = false) (attributes : List Attribute) :
    (b.within (f :: around) children).insertOpen name attributes =
      b.numbered.within (⟨children, b.nextSerial, name, attributes⟩ :: f :: around) [] := by
  rw [insertOpen, insertClosed_within h hfoster hname hnew]
  rfl

end

end Builder

end MarkupModule.Markup.Construction
