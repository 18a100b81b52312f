import MarkupModule.Proofs.Construction.Frames

/-! The open elements of a tree under construction, templates among them, whose children stand in the
contents of the template. As with frames alone, the tree is the children of the innermost element put into
the frames one after the other; new branches go behind these children, and closing an element makes it the
last child of the one around it. -/

namespace MarkupModule.Markup.Construction

/-- What an element holds directly: its children, or the contents that they stand in. -/
def held (name : ElementName) (children : List Branch) : List Branch :=
  if isHtml "template" name then [.contents children] else children

/-- The branches that a frame adds to the element around it once it is closed. -/
def Frame.filled (f : Frame) (children : List Branch) : List Branch :=
  f.closed (held f.name children)

/-- The tree around the children of the innermost open element. -/
def nest : List Frame → List Branch → List Branch
  | [], children => children
  | f :: around, children => nest around (f.filled children)

theorem held_of_template {name : ElementName} (h : isHtml "template" name = true)
    (children : List Branch) : held name children = [.contents children] :=
  if_pos h

theorem held_of_ne {name : ElementName} (h : isHtml "template" name = false) (children : List Branch) :
    held name children = children := by
  rw [held, h]
  rfl

namespace Branch

theorem serialsIn_held (name : ElementName) (children : List Branch) :
    serialsIn (held name children) = serialsIn children := by
  rw [held]
  split
  · rw [serialsIn, serials, serialsIn, List.append_nil]
  · rfl

theorem adjustAll_held (serial : Nat) (change : List Branch → List Branch) (name : ElementName)
    (children : List Branch) :
    adjustAll serial change (held name children) = held name (adjustAll serial change children) := by
  rw [held, held]
  split
  · rfl
  · rfl

theorem below_filled {n : Nat} {f : Frame} (hserial : f.serial < n) (hbefore : Below f.serial f.before)
    {children : List Branch} (h : Below n children) : Below n (f.filled children) := by
  refine below_append_iff.mpr ⟨hbefore.mono (Nat.le_of_lt hserial), below_element_iff.mpr ⟨hserial, ?_⟩⟩
  rw [Below, serialsIn_held]
  exact h

theorem below_comment (n : Nat) (content : String) : Below n [comment content] := by
  intro s hs
  cases hs

/-! ### Branches behind others -/

def isText : Branch → Bool
  | text _ => true
  | _ => false

/-- Whether a list of branches ends in a text, which takes up a text behind it. -/
def endsInText (bs : List Branch) : Bool :=
  bs.getLast?.any isText

theorem endsInText_append (bs : List Branch) (b : Branch) : endsInText (bs ++ [b]) = b.isText := by
  rw [endsInText, List.getLast?_append, List.getLast?_singleton]
  rfl

theorem append_cons_of_ne_nil (new b : Branch) {bs : List Branch} (h : bs ≠ []) :
    append new (b :: bs) = b :: append new bs := by
  cases bs with
  | nil => exact absurd rfl h
  | cons c cs => cases b <;> rfl

theorem append_eq {new : Branch} {bs : List Branch} (h : new.isText = false ∨ endsInText bs = false) :
    append new bs = bs ++ [new] := by
  induction bs with
  | nil => rfl
  | cons b bs ih =>
      cases bs with
      | nil =>
          cases b with
          | text content =>
              rcases h with h | h
              · cases new with
                | text more => cases h
                | element | comment | doctype | contents => rfl
              · cases h
          | element | comment | doctype | contents => rfl
      | cons c cs =>
          rw [endsInText, List.getLast?_cons_cons] at h
          rw [append_cons_of_ne_nil _ _ (List.cons_ne_nil c cs), ih h]
          rfl

/-- A text behind a text joins it. -/
theorem append_text_text (s t : String) (bs : List Branch) :
    append (.text t) (bs ++ [.text s]) = bs ++ [.text (s ++ t)] := by
  induction bs with
  | nil => rfl
  | cons b bs ih =>
      rw [List.cons_append, append_cons_of_ne_nil _ _ (List.append_ne_nil_of_right_ne_nil bs (by simp)), ih,
        List.cons_append]

theorem below_append {n : Nat} {new : Branch} {bs : List Branch} (hnew : Below n [new])
    (h : Below n bs) : Below n (append new bs) := by
  induction bs with
  | nil => exact hnew
  | cons b bs ih =>
      obtain ⟨hb, hbs⟩ := below_append_iff.mp (show Below n ([b] ++ bs) from h)
      cases bs with
      | nil =>
          cases b with
          | text content =>
              cases new with
              | text more => exact below_text n _
              | element | comment | doctype | contents => exact below_append_iff.mpr ⟨hb, hnew⟩
          | element | comment | doctype | contents => exact below_append_iff.mpr ⟨hb, hnew⟩
      | cons c cs =>
          rw [append_cons_of_ne_nil _ _ (List.cons_ne_nil c cs)]
          exact below_append_iff.mpr ⟨hb, ih hbs⟩

end Branch

/-! ### Changes to the innermost element -/

/-- A number that no frame has leads to the children of the innermost one. -/
theorem adjustAll_nest {n : Nat} {frames : List Frame} (h : Growing n frames)
    (change : List Branch → List Branch) (children : List Branch) :
    Branch.adjustAll n change (nest frames children) =
      nest frames (Branch.adjustAll n change children) := by
  induction frames generalizing children with
  | nil => rfl
  | cons f around ih =>
      cases h with
      | cons hserial hbefore haround =>
          rw [nest, ih (haround.mono (Nat.le_of_lt hserial)), Frame.filled, Frame.closed,
            Branch.adjustAll_append, Branch.adjustAll_of_below (hbefore.mono (Nat.le_of_lt hserial)),
            Branch.adjustAll, Branch.adjust, if_neg (Nat.ne_of_lt hserial), Branch.adjustAll_held]
          rfl

/-- The number of the innermost open element leads to what it holds. -/
theorem adjustAll_nest_cons {n : Nat} {f : Frame} {around : List Frame} (h : Growing n (f :: around))
    (change : List Branch → List Branch) (children : List Branch) :
    Branch.adjustAll f.serial change (nest (f :: around) children) =
      nest around (f.closed (change (held f.name children))) := by
  cases h with
  | cons hserial hbefore haround =>
      rw [nest, adjustAll_nest haround, Frame.filled, Frame.closed, Branch.adjustAll_append,
        Branch.adjustAll_of_below hbefore, Branch.adjustAll, Branch.adjust, if_pos rfl]
      rfl

namespace Builder

/-- A state whose open elements are given by frames, around the children of the innermost one. -/
structure Tree (frames : List Frame) (children : List Branch) (b : Builder) : Prop where
  branches : b.branches = nest frames children
  opened : b.openElements = frames.map Frame.opened
  growing : Growing b.nextSerial frames
  below : Branch.Below b.nextSerial children

namespace Tree

variable {b b' : Builder} {f : Frame} {around frames : List Frame} {children : List Branch}

/-- What is inserted goes behind the children of the innermost element, unless a table sends it away. -/
theorem insert_eq (h : Tree (f :: around) children b)
    (hfoster : (b.fosterParenting && htmlIn ["table", "tbody", "tfoot", "thead", "tr"] f.name) = false)
    (new : Branch) :
    b.insert new = { b with branches := nest (f :: around) (Branch.append new children) } := by
  have hplace : b.place = placeIn f.opened := by
    rw [place, h.opened]
    change (if (b.fosterParenting && htmlIn ["table", "tbody", "tfoot", "thead", "tr"] f.name) = true then _
      else _) = _
    rw [hfoster]
    rfl
  have hadjust := fun change => adjustAll_nest_cons h.growing change children
  rw [insert, hplace, placeIn, nest, Frame.filled]
  change insertAt b new (if isHtml "template" f.name = true then _ else _) = _
  cases htemplate : isHtml "template" f.name with
  | true =>
      rw [if_pos rfl, insertAt, h.branches]
      change { b with branches := Branch.adjustAll f.serial _ _ } = _
      rw [hadjust, held_of_template htemplate, held_of_template htemplate]
      rfl
  | false =>
      rw [if_neg Bool.false_ne_true, insertAt, h.branches]
      change { b with branches := Branch.adjustAll f.serial _ _ } = _
      rw [hadjust, held_of_ne htemplate, held_of_ne htemplate]

theorem insertClosed_eq (h : Tree (f :: around) children b)
    (hfoster : (b.fosterParenting && htmlIn ["table", "tbody", "tfoot", "thead", "tr"] f.name) = false)
    (name : ElementName) (attributes : List Attribute) :
    b.insertClosed name attributes =
      { b with
        nextSerial := b.nextSerial + 1
        branches := nest (f :: around)
          (children ++ [.element b.nextSerial name attributes (held name [])]) } := by
  have hnumbered : Tree (f :: around) children { b with nextSerial := b.nextSerial + 1 } :=
    ⟨h.branches, h.opened, h.growing.mono (Nat.le_succ _), h.below.mono (Nat.le_succ _)⟩
  have hnew : newBranch b.nextSerial name attributes =
      .element b.nextSerial name attributes (held name []) := rfl
  rw [insertClosed, hnew, hnumbered.insert_eq hfoster, Branch.append_element]

theorem insertOpen_eq (h : Tree (f :: around) children b)
    (hfoster : (b.fosterParenting && htmlIn ["table", "tbody", "tfoot", "thead", "tr"] f.name) = false)
    (name : ElementName) (attributes : List Attribute) :
    b.insertOpen name attributes =
      { b with
        nextSerial := b.nextSerial + 1
        openElements := b.upcoming name :: b.openElements
        branches := nest (⟨children, b.nextSerial, name, attributes⟩ :: f :: around) [] } := by
  rw [insertOpen, h.insertClosed_eq hfoster]
  rfl

/-- The tree with an element opened. -/
theorem push (h : Tree frames children b) (name : ElementName) (attributes : List Attribute)
    (hbranches : b'.branches = nest (⟨children, b.nextSerial, name, attributes⟩ :: frames) [])
    (hopened : b'.openElements = b.upcoming name :: b.openElements)
    (hserial : b'.nextSerial = b.nextSerial + 1) :
    Tree (⟨children, b.nextSerial, name, attributes⟩ :: frames) [] b' where
  branches := hbranches
  opened := by
    rw [hopened, h.opened]
    rfl
  growing := by
    rw [hserial]
    exact .cons (Nat.lt_succ_self _) h.below h.growing
  below := Branch.below_nil _

/-- The tree with the innermost element closed. -/
theorem pop (h : Tree (f :: around) children b) (hbranches : b'.branches = b.branches)
    (hopened : b'.openElements = around.map Frame.opened) (hserial : b'.nextSerial = b.nextSerial) :
    Tree around (f.filled children) b' := by
  cases h.growing with
  | cons hlt hbefore haround =>
      refine ⟨hbranches.trans h.branches, hopened, ?_, ?_⟩
      · rw [hserial]
        exact haround.mono (Nat.le_of_lt hlt)
      · rw [hserial]
        exact Branch.below_filled hlt hbefore h.below

end Tree

end Builder

end MarkupModule.Markup.Construction
