import MarkupModule.Proofs.Document.Order
import Mathlib.Data.List.Infix

/-! The top-level nodes as a cut through the tree of a document. On the way from the document to one of its
nodes, the document elements that the source does not spell out are stepped through, and the first other
node is a top-level node. So every way that leaves these elements passes exactly one top-level node, and no
way inside them passes any. -/

namespace MarkupModule

open Markup

/-- An element named `html`, `head` or `body` that the source does not spell out. -/
inductive Markup.Node.IsUnspelled (roots : RootTags) : Node → Prop where
  | html {space attributes children} (h : roots.html = false) :
      IsUnspelled roots (.element ⟨space, "html"⟩ attributes children)
  | head {space attributes children} (h : roots.head = false) :
      IsUnspelled roots (.element ⟨space, "head"⟩ attributes children)
  | body {space attributes children} (h : roots.body = false) :
      IsUnspelled roots (.element ⟨space, "body"⟩ attributes children)

/-- The names that are looked up when a document is cut are those of the elements not spelled out. -/
theorem Markup.Node.isUnspelled_iff {roots : RootTags} {node : Node} :
    node.IsUnspelled roots ↔ node.tag?.any roots.isImplied = true := by
  constructor
  · rintro (h | h | h) <;> simp [tag?, RootTags.isImplied, h]
  · intro h
    cases node with
    | element name attributes children =>
        obtain ⟨space, name⟩ := name
        simp only [tag?, Option.any_some, RootTags.isImplied, Bool.or_eq_true, Bool.and_eq_true,
          beq_iff_eq, Bool.not_eq_true'] at h
        rcases h with (⟨rfl, h⟩ | ⟨rfl, h⟩) | ⟨rfl, h⟩
        · exact .html h
        · exact .head h
        · exact .body h
    | text | comment | doctype | contents => cases h

instance {roots : RootTags} {node : Node} : Decidable (node.IsUnspelled roots) :=
  decidable_of_iff' _ Node.isUnspelled_iff

namespace Document

variable {document : Document} {located top other : Located} {address : Address}

/-- A place in a document that is stepped through: an element that the source does not spell out, and so is
every element on the way to it. -/
def IsElided (document : Document) (address : Address) : Prop :=
  address ≠ [] ∧ ∀ above, above <+: address → above ≠ [] →
    ∃ node, document.node? above = some node ∧ node.IsUnspelled document.roots

/-- Whether there is a node at an address; the empty address is the place of the document itself. -/
def HasPlace (document : Document) (address : Address) : Prop :=
  address = [] ∨ ∃ node, document.node? address = some node

/-- What a place in a document can be with regard to its top-level nodes. -/
inductive Standing where
  | document
  | elided
  | within (top : Located)

def StandsAs (document : Document) (address : Address) : Standing → Prop
  | .document => address = []
  | .elided => document.IsElided address
  | .within top => top ∈ document.topLevel ∧ top.address <+: address

/-- What it means that the top-level nodes cut the tree of a document. -/
structure IsCut (document : Document) : Prop where
  nodup : document.topLevel.Nodup
  inOrder : document.topLevel.Sublist document.inOrder
  not_isPrefix : ∀ top ∈ document.topLevel, ∀ other ∈ document.topLevel,
    top.address <+: other.address → top = other
  standing : ∀ address, document.HasPlace address → ∃! standing, document.StandsAs address standing

/-! ### Which nodes are at the top level -/

theorem topLevelOf_eq (roots : RootTags) (address : Address) (node : Node) :
    topLevelOf roots address node =
      if node.IsUnspelled roots then topLevelIn roots address 0 node.children else [⟨address, node⟩] := by
  simp only [Node.isUnspelled_iff]
  cases node <;> rfl

/-- A node is the first one on the way to it from another one that is not stepped through. -/
def ReachedFrom (roots : RootTags) (located : Located) (node : Node) (below : Address) : Prop :=
  node.at? below = some located.node ∧ ¬located.node.IsUnspelled roots ∧
    ∀ above, above <+: below → above ≠ below →
      ∃ between, node.at? above = some between ∧ between.IsUnspelled roots

theorem reachedFrom_nil {roots : RootTags} {node : Node} :
    ReachedFrom roots located node [] ↔ located.node = node ∧ ¬node.IsUnspelled roots := by
  rw [ReachedFrom, Node.at?, Option.some.injEq]
  constructor
  · rintro ⟨rfl, hspelled, -⟩
    exact ⟨rfl, hspelled⟩
  · rintro ⟨rfl, hspelled⟩
    exact ⟨rfl, hspelled, fun above habove hne => absurd (List.prefix_nil.mp habove) hne⟩

theorem reachedFrom_cons {roots : RootTags} {node : Node} {i : Nat} {below : Address} :
    ReachedFrom roots located node (i :: below) ↔
      node.IsUnspelled roots ∧
        ∃ child, node.children[i]? = some child ∧ ReachedFrom roots located child below := by
  constructor
  · rintro ⟨hfound, hspelled, habove⟩
    rw [Node.at?, Option.bind_eq_some_iff] at hfound
    obtain ⟨child, hchild, hfound⟩ := hfound
    obtain ⟨self, hself, hroot⟩ := habove [] List.nil_prefix (List.cons_ne_nil i below).symm
    obtain rfl := Option.some.inj hself
    refine ⟨hroot, child, hchild, hfound, hspelled, ?_⟩
    intro above hprefix hne
    obtain ⟨between, hbetween, h⟩ := habove (i :: above) (List.prefix_cons_inj i |>.mpr hprefix)
      fun heq => hne (List.cons.inj heq).2
    rw [Node.at?, hchild, Option.bind_some] at hbetween
    exact ⟨between, hbetween, h⟩
  · rintro ⟨hroot, child, hchild, hfound, hspelled, habove⟩
    refine ⟨by rw [Node.at?, hchild, Option.bind_some, hfound], hspelled, ?_⟩
    intro above hprefix hne
    cases above with
    | nil => exact ⟨node, rfl, hroot⟩
    | cons j above =>
        obtain ⟨rfl, hrest⟩ := List.cons_prefix_cons.mp hprefix
        obtain ⟨between, hbetween, h⟩ := habove above hrest fun heq => hne (by rw [heq])
        exact ⟨between, by rw [Node.at?, hchild, Option.bind_some, hbetween], h⟩

theorem mem_topLevelIn_of_topLevelOf {roots : RootTags} {nodes : List Node}
    (h : ∀ node ∈ nodes, ∀ {address : Address}, located ∈ topLevelOf roots address node ↔
      ∃ below, located.address = address ++ below ∧ ReachedFrom roots located node below)
    {start : Nat} :
    located ∈ topLevelIn roots address start nodes ↔
      ∃ i node below, located.address = address ++ (start + i) :: below ∧ nodes[i]? = some node ∧
        ReachedFrom roots located node below := by
  induction nodes generalizing start with
  | nil => simp [topLevelIn]
  | cons node rest ih =>
      rw [topLevelIn, List.mem_append, h node List.mem_cons_self,
        ih fun node hnode => h node (List.mem_cons_of_mem _ hnode)]
      constructor
      · rintro (⟨below, haddress, hreached⟩ | ⟨i, found, below, haddress, hfound, hreached⟩)
        · exact ⟨0, node, below, by simpa using haddress, rfl, hreached⟩
        · refine ⟨i + 1, found, below, ?_, by simpa using hfound, hreached⟩
          rw [haddress, Nat.add_right_comm, Nat.add_assoc]
      · rintro ⟨i, found, below, haddress, hfound, hreached⟩
        cases i with
        | zero =>
            obtain rfl : node = found := by simpa using hfound
            exact Or.inl ⟨below, by simpa using haddress, hreached⟩
        | succ i =>
            refine Or.inr ⟨i, found, below, ?_, by simpa using hfound, hreached⟩
            rw [haddress, show start + (i + 1) = start + 1 + i by omega]

theorem mem_topLevelOf {roots : RootTags} {node : Node} :
    located ∈ topLevelOf roots address node ↔
      ∃ below, located.address = address ++ below ∧ ReachedFrom roots located node below := by
  induction node using Node.childInduction generalizing address with
  | step node ih =>
      rw [topLevelOf_eq]
      by_cases hunspelled : node.IsUnspelled roots
      · rw [if_pos hunspelled, mem_topLevelIn_of_topLevelOf ih]
        constructor
        · rintro ⟨i, child, below, haddress, hchild, hreached⟩
          exact ⟨i :: below, by simpa using haddress,
            reachedFrom_cons.mpr ⟨hunspelled, child, hchild, hreached⟩⟩
        · rintro ⟨below, haddress, hreached⟩
          cases below with
          | nil => exact absurd hunspelled (reachedFrom_nil.mp hreached).2
          | cons i below =>
              obtain ⟨-, child, hchild, hreached⟩ := reachedFrom_cons.mp hreached
              exact ⟨i, child, below, by simpa using haddress, hchild, hreached⟩
      · rw [if_neg hunspelled, List.mem_singleton]
        constructor
        · rintro rfl
          exact ⟨[], (List.append_nil _).symm, reachedFrom_nil.mpr ⟨rfl, hunspelled⟩⟩
        · rintro ⟨below, haddress, hreached⟩
          cases below with
          | nil =>
              obtain ⟨hnode, -⟩ := reachedFrom_nil.mp hreached
              rw [List.append_nil] at haddress
              cases located
              simp_all
          | cons i below => exact absurd (reachedFrom_cons.mp hreached).1 hunspelled

/-- The top-level nodes are those that are not stepped through themselves, while every node around them
is. -/
theorem mem_topLevel :
    located ∈ document.topLevel ↔
      document.node? located.address = some located.node ∧
        ¬located.node.IsUnspelled document.roots ∧
        ∀ above, above <+: located.address → above ≠ located.address → above ≠ [] →
          ∃ node, document.node? above = some node ∧ node.IsUnspelled document.roots := by
  rw [topLevel, mem_topLevelIn_of_topLevelOf fun _ _ _ => mem_topLevelOf]
  constructor
  · rintro ⟨i, root, below, haddress, hroot, hfound, hspelled, habove⟩
    rw [Nat.zero_add, List.nil_append] at haddress
    rw [haddress]
    refine ⟨by rw [node?, hroot, Option.bind_some, hfound], hspelled, ?_⟩
    intro above hprefix hne hnil
    cases above with
    | nil => exact absurd rfl hnil
    | cons j above =>
        obtain ⟨rfl, hrest⟩ := List.cons_prefix_cons.mp hprefix
        obtain ⟨between, hbetween, h⟩ := habove above hrest fun heq => hne (by rw [heq])
        exact ⟨between, by rw [node?, hroot, Option.bind_some, hbetween], h⟩
  · rintro ⟨hfound, hspelled, habove⟩
    cases haddress : located.address with
    | nil => simp [haddress, node?] at hfound
    | cons i below =>
        rw [haddress] at hfound habove
        rw [node?, Option.bind_eq_some_iff] at hfound
        obtain ⟨root, hroot, hfound⟩ := hfound
        refine ⟨i, root, below, by rw [Nat.zero_add, List.nil_append], hroot, hfound, hspelled, ?_⟩
        intro above hprefix hne
        obtain ⟨between, hbetween, h⟩ := habove (i :: above) (List.prefix_cons_inj i |>.mpr hprefix)
          (fun heq => hne (List.cons.inj heq).2) (List.cons_ne_nil i above)
        rw [node?, hroot, Option.bind_some] at hbetween
        exact ⟨between, hbetween, h⟩

/-! ### Ways from the document to a node -/

theorem not_isUnspelled_of_node? {node : Node} (htop : top ∈ document.topLevel)
    (hnode : document.node? top.address = some node) : ¬node.IsUnspelled document.roots := by
  obtain ⟨hfound, hspelled, -⟩ := mem_topLevel.mp htop
  rw [hfound] at hnode
  rwa [← Option.some.inj hnode]

theorem address_ne_nil (htop : top ∈ document.topLevel) : top.address ≠ [] := by
  intro hnil
  have hfound := (mem_topLevel.mp htop).1
  rw [hnil] at hfound
  cases hfound

/-- No way within the elements that are stepped through passes a top-level node. -/
theorem not_isElided_of_isPrefix (htop : top ∈ document.topLevel) (h : top.address <+: address) :
    ¬document.IsElided address := by
  rintro ⟨-, helided⟩
  obtain ⟨node, hnode, hunspelled⟩ := helided _ h (address_ne_nil htop)
  exact not_isUnspelled_of_node? htop hnode hunspelled

theorem eq_of_isPrefix_topLevel (htop : top ∈ document.topLevel) (hother : other ∈ document.topLevel)
    (h : top.address <+: other.address) : top = other := by
  obtain ⟨hfound, -⟩ := mem_topLevel.mp htop
  obtain ⟨hfound', -, habove⟩ := mem_topLevel.mp hother
  have haddress : top.address = other.address := by
    by_contra hne
    obtain ⟨node, hnode, hunspelled⟩ := habove _ h hne (address_ne_nil htop)
    exact not_isUnspelled_of_node? htop hnode hunspelled
  rw [haddress, hfound'] at hfound
  cases top
  cases other
  simp_all

/-- A way passes one top-level node at most, since of two nodes on it one stands before the other. -/
theorem eq_of_isPrefix_of_isPrefix (htop : top ∈ document.topLevel) (hother : other ∈ document.topLevel)
    (h : top.address <+: address) (h' : other.address <+: address) : top = other := by
  rcases List.prefix_or_prefix_of_prefix h h' with hprefix | hprefix
  · exact eq_of_isPrefix_topLevel htop hother hprefix
  · exact (eq_of_isPrefix_topLevel hother htop hprefix).symm

theorem hasPlace_of_append {above below : Address} (h : document.HasPlace (above ++ below)) :
    document.HasPlace above := by
  rcases h with h | ⟨node, h⟩
  · exact Or.inl (List.append_eq_nil_iff.mp h).1
  · cases above with
    | nil => exact Or.inl rfl
    | cons i rest =>
        rw [List.cons_append, node?, Option.bind_eq_some_iff] at h
        obtain ⟨root, hroot, hat⟩ := h
        rw [Node.at?_append, Option.bind_eq_some_iff] at hat
        obtain ⟨found, hfound, -⟩ := hat
        exact Or.inr ⟨found, by rw [node?, hroot, Option.bind_some, hfound]⟩

/-- Along the way to a node, a step out of the elements that are stepped through leads to a top-level
node. -/
theorem exists_standsAs (h : document.HasPlace address) :
    ∃ standing, document.StandsAs address standing := by
  induction address using List.reverseRecOn with
  | nil => exact ⟨.document, rfl⟩
  | append_singleton above i ih =>
      obtain ⟨standing, hstanding⟩ := ih (hasPlace_of_append h)
      have habove : (∃ top, document.StandsAs above (.within top)) ∨
          ∀ passed, passed <+: above → passed ≠ [] →
            ∃ node, document.node? passed = some node ∧ node.IsUnspelled document.roots := by
        cases standing with
        | document =>
            obtain rfl : above = [] := hstanding
            exact Or.inr fun passed hpassed hnil => absurd (List.prefix_nil.mp hpassed) hnil
        | elided => exact Or.inr hstanding.2
        | within top => exact Or.inl ⟨top, hstanding⟩
      rcases habove with ⟨top, htop, hprefix⟩ | habove
      · exact ⟨.within top, htop, hprefix.trans (List.prefix_append above [i])⟩
      · obtain ⟨node, hnode⟩ : ∃ node, document.node? (above ++ [i]) = some node :=
          h.resolve_left (List.append_ne_nil_of_right_ne_nil above (List.cons_ne_nil i []))
        by_cases hunspelled : node.IsUnspelled document.roots
        · refine ⟨.elided, List.append_ne_nil_of_right_ne_nil above (List.cons_ne_nil i []), ?_⟩
          intro passed hpassed hnil
          rcases List.prefix_concat_iff.mp hpassed with rfl | hpassed
          · exact ⟨node, hnode, hunspelled⟩
          · exact habove passed hpassed hnil
        · refine ⟨.within ⟨above ++ [i], node⟩, mem_topLevel.mpr ⟨hnode, hunspelled, ?_⟩,
            List.prefix_rfl⟩
          intro passed hpassed hne hnil
          rcases List.prefix_concat_iff.mp hpassed with rfl | hpassed
          · exact absurd rfl hne
          · exact habove passed hpassed hnil

theorem standsAs_unique {standing standing' : Standing} (h : document.StandsAs address standing)
    (h' : document.StandsAs address standing') : standing = standing' := by
  have hroot : ∀ {top : Located}, top ∈ document.topLevel → ¬top.address <+: [] := fun htop hprefix =>
    address_ne_nil htop (List.prefix_nil.mp hprefix)
  cases standing with
  | document =>
      obtain rfl : address = [] := h
      cases standing' with
      | document => rfl
      | elided => exact absurd rfl h'.1
      | within top => exact absurd h'.2 (hroot h'.1)
  | elided =>
      cases standing' with
      | document => exact absurd h' h.1
      | elided => rfl
      | within top => exact absurd h (not_isElided_of_isPrefix h'.1 h'.2)
  | within top =>
      cases standing' with
      | document =>
          obtain rfl : address = [] := h'
          exact absurd h.2 (hroot h.1)
      | elided => exact absurd h' (not_isElided_of_isPrefix h.1 h.2)
      | within other => rw [eq_of_isPrefix_of_isPrefix h.1 h'.1 h.2 h'.2]

/-- The top-level nodes of a document cut its tree. No two of them are the same or stand in one another,
they are in document order, and every place is either the document, or stepped through, or at or below one
top-level node. -/
theorem isCut (document : Document) : document.IsCut where
  nodup := (document.pairwise_inOrder.sublist document.topLevel_sublist_inOrder).nodup
  inOrder := document.topLevel_sublist_inOrder
  not_isPrefix _ htop _ hother h := eq_of_isPrefix_topLevel htop hother h
  standing address h := by
    obtain ⟨standing, hstanding⟩ := exists_standsAs h
    exact ⟨standing, hstanding, fun _ h => standsAs_unique h hstanding⟩

end Document

end MarkupModule
