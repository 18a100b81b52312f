import MarkupModule.Proofs.Minification.Markup

/-! Why a node cannot be written. The only step of writing that may fail is the minification of a style,
and the writer takes the styles of a node in document order: those in the attributes of an element before
its style sheet, and both before all that stands below the element. So a node fails exactly when one of
these styles is refused, and with the failure of the first that is. Which styles there are is said of the
tree alone: a node is written when nothing on the way to it is left out and markup may stand in all that is
above it. -/

namespace MarkupModule

open Markup

/-- The failure of a result, if it is one. -/
def failure? {ε α : Type} : Except ε α → Option ε
  | .ok _ => none
  | .error e => some e

section Failure

variable {ε δ α β : Type}

theorem failure?_eq_some_iff {x : Except ε α} {e : ε} : failure? x = some e ↔ x = .error e := by
  cases x <;> simp [failure?]

theorem failure?_eq_none_iff {x : Except ε α} : failure? x = none ↔ ∃ a, x = .ok a := by
  cases x <;> simp [failure?]

theorem failure?_map (f : α → β) (x : Except ε α) : failure? (x.map f) = failure? x := by
  cases x <;> rfl

theorem failure?_mapError (f : ε → δ) (x : Except ε α) :
    failure? (x.mapError f) = (failure? x).map f := by
  cases x <;> rfl

/-- A step that comes second fails in place of the first one only if that does not fail. -/
theorem failure?_bind {f : α → Except ε β} {second : Option ε} (h : ∀ a, failure? (f a) = second)
    (x : Except ε α) : failure? (x.bind f) = (failure? x).or second := by
  cases x with
  | ok a => exact h a
  | error e => rfl

/-- A second step that does not fail leaves the failure to the first one. -/
theorem failure?_bind_ok (f : α → β) (x : Except ε α) :
    failure? (x.bind fun a => .ok (f a)) = failure? x := by
  cases x <;> rfl

theorem failure?_mapM (f : α → Except ε β) (items : List α) :
    failure? (items.mapM f) = items.findSome? fun item => failure? (f item) := by
  induction items with
  | nil => rfl
  | cons item rest ih =>
      have hrest : ∀ b, failure? ((rest.mapM f).bind fun bs => Except.ok (b :: bs)) =
          rest.findSome? fun item => failure? (f item) := by
        intro b
        rw [failure?_bind_ok, ih]
      rw [List.mapM_cons, List.findSome?_cons]
      refine (failure?_bind hrest (f item)).trans ?_
      cases f item <;> rfl

/-- An item of a list is the first one that an operation fails on, and with which failure. -/
def FailsFirstAt (run : α → Except ε β) (items : List α) (item : α) (failure : ε) : Prop :=
  ∃ before after, items = before ++ item :: after ∧ (∀ other ∈ before, ∃ result, run other = .ok result) ∧
    run item = .error failure

theorem findSome?_failure?_eq_some_iff {run : α → Except ε β} {items : List α} {failure : ε} :
    (items.findSome? fun item => failure? (run item)) = some failure ↔
      ∃ item, FailsFirstAt run items item failure := by
  simp only [List.findSome?_eq_some_iff, failure?_eq_some_iff, failure?_eq_none_iff, FailsFirstAt]
  constructor
  · rintro ⟨before, item, after, hitems, hfails, hbefore⟩
    exact ⟨item, before, after, hitems, hbefore, hfails⟩
  · rintro ⟨item, before, after, hitems, hbefore, hfails⟩
    exact ⟨before, item, after, hitems, hfails, hbefore⟩

namespace FailsFirstAt

variable {run : α → Except ε β} {items : List α} {item : α} {failure : ε}

theorem mem (h : FailsFirstAt run items item failure) : item ∈ items := by
  obtain ⟨before, after, rfl, -, -⟩ := h
  exact List.mem_append_right _ List.mem_cons_self

theorem run_eq (h : FailsFirstAt run items item failure) : run item = .error failure := by
  obtain ⟨before, after, -, -, hfails⟩ := h
  exact hfails

/-- A list on which an operation fails has an item that it fails on first. -/
theorem exists_of_mem (hitem : item ∈ items) (h : run item = .error failure) :
    ∃ first cause, FailsFirstAt run items first cause := by
  have hsome : (items.findSome? fun item => failure? (run item)).isSome = true := by
    rw [List.findSome?_isSome_iff]
    exact ⟨item, hitem, by rw [h]; rfl⟩
  obtain ⟨cause, hcause⟩ := Option.isSome_iff_exists.mp hsome
  obtain ⟨first, hfirst⟩ := findSome?_failure?_eq_some_iff.mp hcause
  exact ⟨first, cause, hfirst⟩

end FailsFirstAt

end Failure

namespace Markup

/-! ### The styles of a node -/

/-- A style that an element carries: the declarations of an attribute, or the style sheet that it holds. -/
inductive Styling where
  | declarations (css : String)
  | sheet (css : String)
  deriving DecidableEq, Repr

def Styling.css : Styling → String
  | declarations css => css
  | sheet css => css

/-- Minifies a style of either kind. -/
def StyleEngine.minify (engine : StyleEngine) : Styling → Except Failure String
  | .declarations css => engine.minifyDeclarations css
  | .sheet css => engine.minifyStylesheet css

/-- A refusal says what was being minified, and why it is refused. Blank styles are not refused. -/
theorem StyleEngine.of_minify_eq_error {engine : StyleEngine} {styling : Styling} {failure : Failure}
    (h : engine.minify styling = .error failure) :
    Text.isBlank styling.css.toList = false ∧
      ∃ operation cause, failure = ⟨.minify, "", operation, some cause⟩ := by
  have hstyle : ∀ {Step : Type} {engine : String → Except (Step × String) String}
      {operation : Step → String}, minifyStyle engine operation styling.css = .error failure →
        Text.isBlank styling.css.toList = false ∧
          ∃ operation cause, failure = ⟨.minify, "", operation, some cause⟩ := by
    intro Step engine operation h
    rw [minifyStyle] at h
    split at h
    · cases h
    · rename_i hblank
      refine ⟨Bool.eq_false_iff.mpr hblank, ?_⟩
      split at h
      · cases h
      · exact ⟨_, _, (Except.error.inj h).symm⟩
  cases styling with
  | declarations css => exact hstyle h
  | sheet css => exact hstyle h

/-- A style with the place of its element. -/
structure PlacedStyling where
  address : Address
  styling : Styling
  deriving DecidableEq, Repr

/-- The styles among attributes, in order. A value with a binding is no style. -/
def declarationsIn (attributes : List Attribute) : List Styling :=
  (attributes.filter fun a => a.name == "style" && !hasBinding a.value).map fun a => .declarations a.value

/-- Whether markup may stand in a node. It may not in an element without an end tag or one that holds text
only. -/
def Node.holdsMarkup (node : Node) : Bool :=
  !(node.tag?.any fun name => voidNames.contains name || rawTextNames.contains name)

namespace Writer

variable (w : Writer)

/-- Whether a writer that begins at a root writes a node. -/
def Writes (root located : Located) : Prop :=
  ∀ other ∈ subtree root.address root.node, other.address <+: located.address →
    w.skips other.address = false ∧ (other.address = located.address ∨ other.node.holdsMarkup = true)

instance (root located : Located) : Decidable (w.Writes root located) :=
  inferInstanceAs (Decidable (∀ other ∈ subtree root.address root.node,
    other.address <+: located.address →
      w.skips other.address = false ∧ (other.address = located.address ∨ other.node.holdsMarkup = true)))

/-- The texts directly in an element that are not left out. -/
def sheetText (located : Located) : List Char :=
  textOf ((located.children.filter fun child => !w.skips child.address).map Located.node)

/-- The styles of a node itself: those of its attributes, and behind them its style sheet. -/
def stylings (located : Located) : List Styling :=
  declarationsIn located.node.attributes ++
    if located.node.tag? = some "style" then [Styling.sheet (String.ofList (w.sheetText located))] else []

/-- The styles of a node itself that are minified, if any are. -/
def ownStyles (located : Located) : List PlacedStyling :=
  if w.minification.minifyStyle then (w.stylings located).map (PlacedStyling.mk located.address) else []

/-- The styles that a writer minifies when it begins at a root, in document order. -/
def styles (root : Located) : List PlacedStyling :=
  ((subtree root.address root.node).filter fun located => w.Writes root located).flatMap w.ownStyles

end Writer

theorem forest_eq_flatMap (address : Address) (start : Nat) (nodes : List Node) :
    forest address start nodes =
      (locate address start nodes).flatMap fun child => subtree child.address child.node := by
  induction nodes generalizing start with
  | nil => rfl
  | cons node rest ih => rw [forest, locate, List.flatMap_cons, ih]

theorem mem_subtree_self (root : Located) : root ∈ subtree root.address root.node := by
  rw [subtree_eq]
  exact List.mem_cons_self

/-- A node and what is below it, child by child. -/
theorem subtree_eq_flatMap (root : Located) :
    subtree root.address root.node =
      root :: root.children.flatMap fun child => subtree child.address child.node := by
  rw [subtree_eq, forest_eq_flatMap]
  rfl

namespace Writer

variable {w : Writer} {root child located : Located}

theorem writes_self_iff : w.Writes root root ↔ w.skips root.address = false := by
  constructor
  · intro h
    exact (h root (mem_subtree_self root) (List.prefix_refl _)).1
  · intro hskips other hother hleads
    obtain ⟨below, haddress, -⟩ := mem_subtree.mp hother
    have hself : other.address = root.address :=
      hleads.eq_of_length_le (by rw [haddress, List.length_append]; omega)
    exact ⟨by rw [hself]; exact hskips, Or.inl hself⟩

/-- A node below a child is written when the child is come to and the node is written from there. -/
theorem writes_child_iff (hchild : child ∈ root.children)
    (hlocated : located ∈ subtree child.address child.node) :
    w.Writes root located ↔
      (w.skips root.address = false ∧ root.node.holdsMarkup = true) ∧ w.Writes child located := by
  obtain ⟨i, hi, hnode⟩ := mem_children.mp hchild
  obtain ⟨below, hbelow, -⟩ := mem_subtree.mp hlocated
  rw [hi, List.append_assoc, List.singleton_append] at hbelow
  constructor
  · intro h
    have hroot := h root (mem_subtree_self root) ⟨_, hbelow.symm⟩
    refine ⟨⟨hroot.1, hroot.2.resolve_left fun hself => ?_⟩, ?_⟩
    · simp [hbelow] at hself
    · intro other hother
      refine h other ?_
      rw [subtree_eq_flatMap]
      exact List.mem_cons_of_mem _ (List.mem_flatMap_of_mem hchild hother)
  · rintro ⟨hroot, h⟩ other hother hleads
    rw [subtree_eq_flatMap, List.mem_cons, List.mem_flatMap] at hother
    rcases hother with rfl | ⟨child', hchild', hother⟩
    · exact ⟨hroot.1, Or.inr hroot.2⟩
    · -- both children stand on the way to the node, so they are the same
      obtain ⟨j, hj, hnode'⟩ := mem_children.mp hchild'
      obtain ⟨below', hbelow', -⟩ := mem_subtree.mp hother
      have hfirst := hleads
      rw [hbelow', hbelow, hj, List.append_assoc, List.prefix_append_right_inj, List.singleton_append,
        List.cons_prefix_cons] at hfirst
      obtain ⟨rfl, -⟩ := hfirst
      obtain rfl : child' = child := by
        cases child
        cases child'
        simp_all
      exact h other hother hleads

/-- Only elements have styles of their own. -/
theorem ownStyles_of_tag?_eq_none (h : located.node.tag? = none) : w.ownStyles located = [] := by
  have hattributes : located.node.attributes = [] := by
    cases hnode : located.node with
    | element => simp [hnode, Node.tag?] at h
    | text | comment | doctype | contents => rfl
  simp [ownStyles, stylings, hattributes, h, declarationsIn]

/-- The styles of a node are its own, and behind them those of its children where markup may stand. -/
theorem styles_of_not_skips (h : w.skips root.address = false) :
    w.styles root =
      w.ownStyles root ++ if root.node.holdsMarkup then root.children.flatMap w.styles else [] := by
  rw [styles, subtree_eq_flatMap, List.filter_cons_of_pos (by simpa using writes_self_iff.mpr h),
    List.flatMap_cons, List.filter_flatMap, List.flatMap_assoc]
  congr 1
  cases hmarkup : root.node.holdsMarkup with
  | true =>
      refine List.flatMap_congr fun child hchild => ?_
      rw [styles]
      congr 1
      refine List.filter_congr fun located hlocated => ?_
      simp [writes_child_iff hchild hlocated, h, hmarkup]
  | false =>
      refine List.flatMap_eq_nil_iff.mpr fun child hchild => ?_
      have hnone : ((subtree child.address child.node).filter fun located => w.Writes root located) = [] := by
        refine List.filter_eq_nil_iff.mpr fun located hlocated => ?_
        simp [writes_child_iff hchild hlocated, hmarkup]
      rw [hnone, List.flatMap_nil]

theorem address_isPrefix_of_mem_subtree (h : located ∈ subtree root.address root.node) :
    root.address <+: located.address := by
  obtain ⟨below, haddress, -⟩ := mem_subtree.mp h
  exact ⟨below, haddress.symm⟩

theorem styles_of_skips (h : w.skips root.address = true) : w.styles root = [] := by
  have hnone : ((subtree root.address root.node).filter fun located => w.Writes root located) = [] := by
    refine List.filter_eq_nil_iff.mpr fun located hlocated => ?_
    rw [decide_eq_true_iff]
    intro hwrites
    have hroot := hwrites root (mem_subtree_self root) (address_isPrefix_of_mem_subtree hlocated)
    rw [h] at hroot
    cases hroot.1
  rw [styles, hnone, List.flatMap_nil]

section Members

variable {style : PlacedStyling}

theorem mem_styles :
    style ∈ w.styles root ↔ ∃ located ∈ subtree root.address root.node,
      w.Writes root located ∧ style ∈ w.ownStyles located := by
  rw [styles, List.mem_flatMap]
  simp only [List.mem_filter, decide_eq_true_eq, and_assoc]

theorem address_of_mem_ownStyles {located : Located} (h : style ∈ w.ownStyles located) :
    style.address = located.address := by
  rw [ownStyles] at h
  split at h
  · obtain ⟨styling, -, rfl⟩ := List.mem_map.mp h
    rfl
  · cases h

/-- A value with a binding is not among the declarations of a node. -/
theorem hasBinding_of_mem_styles {css : String} (h : style ∈ w.styles root)
    (hstyle : style.styling = .declarations css) : hasBinding css = false := by
  obtain ⟨located, -, -, h⟩ := mem_styles.mp h
  rw [ownStyles] at h
  split at h
  · obtain ⟨styling, hstyling, rfl⟩ := List.mem_map.mp h
    obtain rfl : styling = .declarations css := hstyle
    rw [stylings, declarationsIn, List.mem_append, List.mem_map] at hstyling
    rcases hstyling with ⟨a, ha, hvalue⟩ | hsheet
    · obtain rfl := Styling.declarations.inj hvalue
      rw [List.mem_filter, Bool.and_eq_true, Bool.not_eq_true'] at ha
      exact ha.2.2
    · split at hsheet
      · simp at hsheet
      · cases hsheet
  · cases h

/-- The styles of a node are in document order. -/
theorem pairwise_styles (w : Writer) (root : Located) :
    (w.styles root).Pairwise fun first second =>
      first.address = second.address ∨ first.address < second.address := by
  rw [styles, List.pairwise_flatMap]
  constructor
  · intro located _
    refine List.pairwise_of_forall_mem_list fun first hfirst second hsecond => ?_
    exact Or.inl ((address_of_mem_ownStyles hfirst).trans (address_of_mem_ownStyles hsecond).symm)
  · refine ((pairwise_subtree root.address root.node).filter _).imp fun hbefore first hfirst second hsecond => ?_
    rw [address_of_mem_ownStyles hfirst, address_of_mem_ownStyles hsecond]
    exact Or.inr hbefore

end Members

/-! ### The failures of a writer -/

/-- The failure of a style that is refused. -/
def refusal? (w : Writer) (style : PlacedStyling) : Option Failure :=
  failure? (w.engine.minify style.styling)

theorem failure?_attributeValue (a : Attribute) :
    failure? (w.attributeValue a) =
      if w.minification.minifyStyle then
        if a.name == "style" && !hasBinding a.value then failure? (w.engine.minify (.declarations a.value))
        else none
      else none := by
  rw [attributeValue, Bool.and_right_comm, Bool.and_comm]
  cases w.minification.minifyStyle with
  | false =>
      rw [Bool.false_and, if_neg Bool.false_ne_true, if_neg Bool.false_ne_true]
      split <;> rfl
  | true =>
      rw [Bool.true_and, if_pos rfl]
      split
      · rfl
      · split <;> rfl

theorem failure?_writeAttributes (out : List Char) (attributes : List Attribute) :
    failure? (w.writeAttributes out attributes) =
      if w.minification.minifyStyle then
        (declarationsIn attributes).findSome? fun styling => failure? (w.engine.minify styling)
      else none := by
  rw [writeAttributes_eq, failure?_map, failure?_mapM]
  simp only [minifiedAttribute_eq, failure?_map, failure?_attributeValue]
  cases w.minification.minifyStyle with
  | false => simp
  | true =>
      rw [if_pos rfl, declarationsIn, List.findSome?_map]
      induction attributes with
      | nil => rfl
      | cons a rest ih =>
          rw [List.findSome?_cons, ih, List.filter_cons]
          cases a.name == "style" && !hasBinding a.value <;> rfl

theorem rawText_eq_textOf (address : Address) (start : Nat) (nodes : List Node) :
    w.rawText address start nodes =
      textOf (((locate address start nodes).filter fun child => !w.skips child.address).map
        Located.node) := by
  induction nodes generalizing start with
  | nil => rfl
  | cons node rest ih =>
      have hcons : textOf (((locate address start (node :: rest)).filter fun child =>
          !w.skips child.address).map Located.node) =
          (if w.skips (address ++ [start]) then [] else (node.text?.getD "").toList) ++
            w.rawText address (start + 1) rest := by
        rw [locate, List.filter_cons, ih]
        cases w.skips (address ++ [start]) <;> rfl
      rw [hcons]
      cases node with
      | text content => rw [rawText]; rfl
      | element | comment | doctype | contents => rw [rawText] <;> simp [Node.text?]

/-- The text of an element that holds no markup is refused when it is a style sheet that is. -/
theorem failure?_rawBody (tag : String) (raw : List Char) :
    failure? (w.rawBody tag raw) =
      if w.minification.minifyStyle then
        if tag = "style" then failure? (w.engine.minify (.sheet (String.ofList raw))) else none
      else none := by
  rw [rawBody, Bool.and_comm]
  cases w.minification.minifyStyle with
  | false => rfl
  | true =>
      simp only [Bool.true_and, beq_iff_eq, if_true]
      split
      · exact failure?_map _ _
      · rfl

theorem failure?_writeNodes_of_writeNode {nodes : List Node}
    (h : ∀ node ∈ nodes, ∀ preserve address out, failure? (w.writeNode preserve address out node) =
      (w.styles ⟨address, node⟩).findSome? w.refusal?)
    (preserve : Bool) (address : Address) (start : Nat) (out : List Char) :
    failure? (w.writeNodes preserve address start out nodes) =
      ((locate address start nodes).flatMap w.styles).findSome? w.refusal? := by
  induction nodes generalizing start out with
  | nil => rfl
  | cons node rest ih =>
      rw [List.forall_mem_cons] at h
      rw [writeNodes_cons, failure?_bind fun out' => ih h.2 (start + 1) out', h.1, locate,
        List.flatMap_cons, List.findSome?_append]

theorem findSome?_ownStyles (located : Located) :
    (w.ownStyles located).findSome? w.refusal? =
      if w.minification.minifyStyle then
        ((declarationsIn located.node.attributes).findSome? fun styling =>
          failure? (w.engine.minify styling)).or
          (if located.node.tag? = some "style" then
            failure? (w.engine.minify (.sheet (String.ofList (w.sheetText located)))) else none)
      else none := by
  rw [ownStyles]
  split
  · rw [List.findSome?_map, stylings, List.findSome?_append]
    congr 1
    split
    · rw [List.findSome?_singleton, Function.comp_apply, refusal?]
    · rfl
  · rfl

theorem ne_style_of_voidNames {tag : String} (h : voidNames.contains tag = true) : tag ≠ "style" := by
  rintro rfl
  exact absurd h (by decide)

theorem ne_style_of_not_rawTextNames {tag : String} (h : rawTextNames.contains tag = false) :
    tag ≠ "style" := by
  rintro rfl
  exact absurd h (by decide)

section Element

variable {address : Address} {name : ElementName} {attributes : List Attribute} {children : List Node}
  (hchildren : ∀ preserve out, failure? (w.writeNodes preserve address 0 out children) =
    ((locate address 0 children).flatMap w.styles).findSome? w.refusal?)
include hchildren

/-- What an element holds is refused with its style sheet or, where markup may stand, with the styles of
its children. -/
theorem failure?_writeInside (preserve : Bool) (tag : String) (out : List Char) :
    failure? (w.writeInside preserve address tag out children) =
      if rawTextNames.contains tag then
        failure? (w.rawBody tag (textOf (((locate address 0 children).filter fun child =>
          !w.skips child.address).map Located.node)))
      else ((locate address 0 children).flatMap w.styles).findSome? w.refusal? := by
  rw [writeInside, rawText_eq_textOf]
  split
  · exact failure?_map _ _
  · exact hchildren _ out

theorem failure?_writeNode_element (hskips : w.skips address = false) (preserve : Bool) (out : List Char) :
    failure? (w.writeNode preserve address out (.element name attributes children)) =
      (w.styles ⟨address, .element name attributes children⟩).findSome? w.refusal? := by
  have hinside : ∀ opened, failure? (if voidNames.contains name.name then Except.ok (put ['>'] opened)
      else (w.writeInside preserve address name.name (put ['>'] opened) children).map
        (put ("</".toList ++ name.name.toList ++ ['>']))) =
      if voidNames.contains name.name then none
      else failure? (w.writeInside preserve address name.name [] children) := by
    intro opened
    split
    · rfl
    · rw [failure?_map, failure?_writeInside hchildren, failure?_writeInside hchildren]
  rw [writeNode_element, hskips, if_neg Bool.false_ne_true, failure?_bind hinside,
    failure?_writeAttributes, failure?_writeInside hchildren, failure?_rawBody,
    styles_of_not_skips hskips, List.findSome?_append, findSome?_ownStyles, Node.holdsMarkup]
  simp only [Node.tag?, Node.attributes, Option.any_some, Option.some.injEq]
  rcases Bool.eq_false_or_eq_true (voidNames.contains name.name) with hvoid | hvoid
  · simp only [hvoid, if_true, Bool.true_or, Bool.not_true, if_neg (ne_style_of_voidNames hvoid),
      Bool.false_eq_true, if_false, List.findSome?_nil, Option.or_none]
  · rcases Bool.eq_false_or_eq_true (rawTextNames.contains name.name) with hraw | hraw
    · simp only [hvoid, hraw, if_true, Bool.or_true, Bool.not_true, Bool.false_eq_true, if_false,
        List.findSome?_nil, Option.or_none]
      cases w.minification.minifyStyle <;> rfl
    · simp only [hvoid, hraw, if_true, Bool.or_false, Bool.not_false, Bool.false_eq_true, if_false,
        if_neg (ne_style_of_not_rawTextNames hraw), Option.or_none]
      rfl

end Element

/-- A node fails with the first of its styles that is refused. -/
theorem failure?_writeNode (preserve : Bool) (address : Address) (out : List Char) (node : Node) :
    failure? (w.writeNode preserve address out node) =
      (w.styles ⟨address, node⟩).findSome? w.refusal? := by
  induction node using Node.childInduction generalizing preserve address out with
  | step node ih =>
      have hchildren := failure?_writeNodes_of_writeNode ih
      cases hskips : w.skips address with
      | true =>
          rw [writeNode_of_skips hskips, styles_of_skips hskips]
          rfl
      | false =>
          cases node with
          | element name attributes children =>
              exact failure?_writeNode_element (fun preserve => hchildren preserve address 0) hskips preserve
                out
          | text | comment | doctype =>
              rw [writeNode, styles_of_not_skips hskips, ownStyles_of_tag?_eq_none rfl]
              rfl
          | contents children =>
              rw [writeNode, hskips, if_neg Bool.false_ne_true, styles_of_not_skips hskips,
                ownStyles_of_tag?_eq_none rfl]
              exact hchildren preserve address 0 out

theorem failure?_write (root : Located) :
    failure? (w.write root) = (w.styles root).findSome? w.refusal? := by
  rw [write, failure?_map, failure?_writeNode]

theorem write_eq_error_iff {failure : Failure} :
    w.write root = .error failure ↔
      ∃ style, FailsFirstAt (fun style => w.engine.minify style.styling) (w.styles root) style failure := by
  rw [← failure?_eq_some_iff, failure?_write]
  exact findSome?_failure?_eq_some_iff

theorem exists_write_eq_ok_of_not_minifyStyle (h : w.minification.minifyStyle = false) (root : Located) :
    ∃ markup, w.write root = .ok markup := by
  rw [← failure?_eq_none_iff, failure?_write, List.findSome?_eq_none_iff]
  intro style hstyle
  obtain ⟨located, -, -, hown⟩ := mem_styles.mp hstyle
  rw [ownStyles, h, if_neg Bool.false_ne_true] at hown
  cases hown

end Writer

end Markup

end MarkupModule
