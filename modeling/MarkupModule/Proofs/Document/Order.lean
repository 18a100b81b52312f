import MarkupModule.Document
import Mathlib.Data.List.Sort

/-! The nodes of a document in document order. An address is less than another one when it leads to an
earlier node, so a list of located nodes is in document order when their addresses increase. All nodes of
a document are listed in that order, each with the address that finds it, and the top-level nodes with
what is below them are a part of that list. -/

namespace MarkupModule

open Markup

namespace Markup

/-- A fact holds of every node when it holds of a node whose children it holds of. -/
@[elab_as_elim]
theorem Node.childInduction {motive : Node → Prop}
    (step : ∀ node : Node, (∀ child ∈ node.children, motive child) → motive node)
    (node : Node) : motive node := by
  apply step
  intro child hchild
  exact Node.childInduction step child
termination_by sizeOf node
decreasing_by
  cases node with
  | element name attributes children =>
      have := List.sizeOf_lt_of_mem (show child ∈ children from hchild)
      simp only [Node.element.sizeOf_spec]
      omega
  | contents children =>
      have := List.sizeOf_lt_of_mem (show child ∈ children from hchild)
      simp only [Node.contents.sizeOf_spec]
      omega
  | text => simp [Node.children] at hchild
  | comment => simp [Node.children] at hchild
  | doctype => simp [Node.children] at hchild

mutual

/-- A node and all nodes below it, in document order. -/
def subtree (address : Address) : Node → List Located
  | .element name attributes children =>
    ⟨address, .element name attributes children⟩ :: forest address 0 children
  | .text content => [⟨address, .text content⟩]
  | .comment content => [⟨address, .comment content⟩]
  | .doctype name publicId systemId => [⟨address, .doctype name publicId systemId⟩]
  | .contents children => ⟨address, .contents children⟩ :: forest address 0 children

/-- The nodes of a list that stand below `address` from position `start` on, and all nodes below them,
in document order. -/
def forest (address : Address) (start : Nat) : List Node → List Located
  | [] => []
  | node :: rest => subtree (address ++ [start]) node ++ forest address (start + 1) rest

end

theorem subtree_eq (address : Address) (node : Node) :
    subtree address node = ⟨address, node⟩ :: forest address 0 node.children := by
  cases node <;> simp [subtree, forest, Node.children]

theorem mem_forest_of_subtree {located : Located} {nodes : List Node} {address : Address} {start : Nat}
    (h : ∀ node ∈ nodes, ∀ {address : Address}, located ∈ subtree address node ↔
      ∃ below, located.address = address ++ below ∧ node.at? below = some located.node) :
    located ∈ forest address start nodes ↔
      ∃ i below, located.address = address ++ (start + i) :: below ∧
        (nodes[i]?).bind (fun node => node.at? below) = some located.node := by
  induction nodes generalizing start with
  | nil => simp [forest]
  | cons node rest ih =>
      rw [forest, List.mem_append, h node List.mem_cons_self,
        ih (fun node hnode => h node (List.mem_cons_of_mem _ hnode))]
      constructor
      · rintro (⟨below, haddress, hat⟩ | ⟨i, below, haddress, hat⟩)
        · exact ⟨0, below, by simpa using haddress, by simpa using hat⟩
        · exact ⟨i + 1, below, by rw [haddress, Nat.add_right_comm, Nat.add_assoc], by simpa using hat⟩
      · rintro ⟨i, below, haddress, hat⟩
        cases i with
        | zero => exact Or.inl ⟨below, by simpa using haddress, by simpa using hat⟩
        | succ i =>
            refine Or.inr ⟨i, below, ?_, by simpa using hat⟩
            rw [haddress, show start + (i + 1) = start + 1 + i by omega]

/-- The addresses within a subtree extend that of its root, and lead to the nodes listed with them. -/
theorem mem_subtree {located : Located} {address : Address} {node : Node} :
    located ∈ subtree address node ↔
      ∃ below, located.address = address ++ below ∧ node.at? below = some located.node := by
  induction node using Node.childInduction generalizing address with
  | step node ih =>
      rw [subtree_eq, List.mem_cons, mem_forest_of_subtree ih]
      constructor
      · rintro (rfl | ⟨i, below, haddress, hat⟩)
        · exact ⟨[], by simp, rfl⟩
        · exact ⟨i :: below, by simpa using haddress, by simpa [Node.at?] using hat⟩
      · rintro ⟨below, haddress, hat⟩
        cases below with
        | nil =>
            rw [Node.at?, Option.some.injEq] at hat
            left
            cases located
            simp_all
        | cons i below =>
            right
            exact ⟨i, below, by simpa using haddress, by simpa [Node.at?] using hat⟩

theorem mem_forest {located : Located} {address : Address} {start : Nat} {nodes : List Node} :
    located ∈ forest address start nodes ↔
      ∃ i below, located.address = address ++ (start + i) :: below ∧
        (nodes[i]?).bind (fun node => node.at? below) = some located.node :=
  mem_forest_of_subtree fun _ _ => mem_subtree

/-! ### Conditions on whole trees -/

/-- Whether a condition holds of a node and of all nodes below it. -/
def Node.Everywhere (P : Node → Prop) (node : Node) : Prop :=
  ∀ located ∈ subtree [] node, P located.node

instance {P : Node → Prop} [DecidablePred P] (node : Node) : Decidable (node.Everywhere P) :=
  inferInstanceAs (Decidable (∀ located ∈ subtree [] node, P located.node))

theorem Node.everywhere_iff_at? {P : Node → Prop} {node : Node} :
    node.Everywhere P ↔ ∀ below found, node.at? below = some found → P found := by
  constructor
  · intro h below found hfound
    exact h ⟨below, found⟩ (mem_subtree.mpr ⟨below, rfl, hfound⟩)
  · intro h located hlocated
    obtain ⟨below, _, hfound⟩ := mem_subtree.mp hlocated
    exact h below located.node hfound

/-- A condition holds everywhere when it holds of the node and everywhere in its children. -/
theorem Node.everywhere_iff {P : Node → Prop} {node : Node} :
    node.Everywhere P ↔ P node ∧ ∀ child ∈ node.children, child.Everywhere P := by
  simp only [everywhere_iff_at?]
  constructor
  · intro h
    refine ⟨h [] node rfl, ?_⟩
    intro child hchild below found hfound
    obtain ⟨i, hi⟩ := List.mem_iff_getElem?.mp hchild
    exact h (i :: below) found (by rw [at?, hi]; exact hfound)
  · rintro ⟨hnode, hchildren⟩ below found hfound
    cases below with
    | nil =>
        obtain rfl := Option.some.inj hfound
        exact hnode
    | cons i below =>
        obtain ⟨child, hi, hfound⟩ := Option.bind_eq_some_iff.mp hfound
        exact hchildren child (List.mem_of_getElem? hi) below found hfound

/-! ### Document order -/

/-- The first node stands before the second one. -/
def Located.Before (first second : Located) : Prop :=
  first.address < second.address

instance : Std.Irrefl Located.Before where
  irrefl located := List.lt_irrefl located.address

instance : Std.Antisymm Located.Before where
  antisymm _ _ h h' := absurd h' (List.lt_asymm h)

theorem pairwise_forest_of_subtree {nodes : List Node}
    (h : ∀ node ∈ nodes, ∀ address, (subtree address node).Pairwise Located.Before)
    (address : Address) (start : Nat) : (forest address start nodes).Pairwise Located.Before := by
  induction nodes generalizing start with
  | nil => simp [forest]
  | cons node rest ih =>
      rw [forest, List.pairwise_append]
      refine ⟨h node List.mem_cons_self _, ih (fun node hnode => h node (List.mem_cons_of_mem _ hnode)) _, ?_⟩
      intro first hfirst second hsecond
      obtain ⟨below, hbelow, _⟩ := mem_subtree.mp hfirst
      obtain ⟨i, later, hlater, _⟩ := mem_forest.mp hsecond
      rw [Located.Before, hbelow, hlater, List.append_assoc]
      apply List.append_left_lt
      rw [List.singleton_append, List.cons_lt_cons_iff]
      left
      omega

theorem pairwise_subtree (address : Address) (node : Node) :
    (subtree address node).Pairwise Located.Before := by
  induction node using Node.childInduction generalizing address with
  | step node ih =>
      rw [subtree_eq, List.pairwise_cons]
      refine ⟨?_, pairwise_forest_of_subtree ih address 0⟩
      intro located hlocated
      obtain ⟨i, below, haddress, _⟩ := mem_forest.mp hlocated
      rw [Located.Before, haddress]
      nth_rewrite 1 [← List.append_nil address]
      exact List.append_left_lt (List.nil_lt_cons _ _)

/-- All nodes below an address stand in document order. -/
theorem pairwise_forest (address : Address) (start : Nat) (nodes : List Node) :
    (forest address start nodes).Pairwise Located.Before :=
  pairwise_forest_of_subtree (fun node _ address => pairwise_subtree address node) address start

/-- Lists in document order with the same members are the same. -/
theorem eq_of_mem_iff_of_before {first second : List Located}
    (hfirst : first.Pairwise Located.Before) (hsecond : second.Pairwise Located.Before)
    (h : ∀ located, located ∈ first ↔ located ∈ second) : first = second :=
  hfirst.eq_of_mem_iff hsecond h

theorem mem_locate {located : Located} {address : Address} {start : Nat} {nodes : List Node} :
    located ∈ locate address start nodes ↔
      ∃ i, located.address = address ++ [start + i] ∧ nodes[i]? = some located.node := by
  induction nodes generalizing start with
  | nil => simp [locate]
  | cons node rest ih =>
      rw [locate, List.mem_cons, ih]
      constructor
      · rintro (rfl | ⟨i, haddress, hnode⟩)
        · exact ⟨0, rfl, rfl⟩
        · exact ⟨i + 1, by rw [haddress, Nat.add_right_comm, Nat.add_assoc], by simpa using hnode⟩
      · rintro ⟨i, haddress, hnode⟩
        cases i with
        | zero =>
            left
            rw [List.getElem?_cons_zero, Option.some.injEq] at hnode
            cases located
            simp_all
        | succ i =>
            right
            exact ⟨i, by rw [haddress, show start + (i + 1) = start + 1 + i by omega],
              by simpa using hnode⟩

theorem mem_children {located parent : Located} :
    located ∈ parent.children ↔
      ∃ i, located.address = parent.address ++ [i] ∧ parent.node.children[i]? = some located.node := by
  rw [Located.children, mem_locate]
  simp

theorem Node.at?_append (node : Node) (address below : Address) :
    node.at? (address ++ below) = (node.at? address).bind fun found => found.at? below := by
  induction address generalizing node with
  | nil => simp [Node.at?]
  | cons i rest ih =>
      rw [List.cons_append, Node.at?, Node.at?]
      cases node.children[i]? with
      | none => rfl
      | some child => exact ih child

theorem locate_sublist_forest (address : Address) (start : Nat) (nodes : List Node) :
    (locate address start nodes).Sublist (forest address start nodes) := by
  induction nodes generalizing start with
  | nil => simp [locate, forest]
  | cons node rest ih =>
      rw [locate, forest, subtree_eq, List.cons_append]
      exact (List.Sublist.append (List.nil_sublist _) (ih _)).cons_cons _

/-- The children of a node are among the nodes below it, in the same order. -/
theorem Located.children_sublist_subtree (located : Located) :
    located.children.Sublist (subtree located.address located.node) := by
  rw [subtree_eq]
  exact (locate_sublist_forest _ _ _).cons _

end Markup

namespace Document

/-- All nodes of a document in document order. -/
def inOrder (document : Document) : List Located :=
  forest [] 0 document.nodes

theorem pairwise_inOrder (document : Document) : document.inOrder.Pairwise Located.Before :=
  pairwise_forest [] 0 document.nodes

/-- The nodes of a document are those that their addresses find. -/
theorem mem_inOrder {document : Document} {located : Located} :
    located ∈ document.inOrder ↔ document.node? located.address = some located.node := by
  rw [inOrder, mem_forest]
  constructor
  · rintro ⟨i, below, haddress, hat⟩
    rw [haddress]
    simpa [node?] using hat
  · intro h
    cases haddress : located.address with
    | nil => simp [haddress, node?] at h
    | cons i below =>
        rw [haddress, node?] at h
        exact ⟨i, below, by simp, h⟩

/-- What is below a node is found from it. -/
theorem node?_append {document : Document} {address : Address} {node : Node}
    (h : document.node? address = some node) (below : Address) :
    document.node? (address ++ below) = node.at? below := by
  cases address with
  | nil => simp [node?] at h
  | cons i rest =>
      rw [node?, Option.bind_eq_some_iff] at h
      obtain ⟨root, hroot, hat⟩ := h
      rw [List.cons_append, node?, hroot, Option.bind_some, Node.at?_append, hat, Option.bind_some]

theorem topLevelIn_flatMap_sublist_of_children {roots : RootTags} {nodes : List Node}
    (h : ∀ node ∈ nodes, ∀ address, ((topLevelOf roots address node).flatMap fun located =>
      subtree located.address located.node).Sublist (subtree address node))
    (address : Address) (start : Nat) :
    ((topLevelIn roots address start nodes).flatMap fun located =>
      subtree located.address located.node).Sublist (forest address start nodes) := by
  induction nodes generalizing start with
  | nil => simp [topLevelIn, forest]
  | cons node rest ih =>
      rw [topLevelIn, forest, List.flatMap_append]
      exact (h node List.mem_cons_self _).append
        (ih (fun node hnode => h node (List.mem_cons_of_mem _ hnode)) _)

theorem topLevelOf_flatMap_sublist (roots : RootTags) (address : Address) (node : Node) :
    ((topLevelOf roots address node).flatMap fun located =>
      subtree located.address located.node).Sublist (subtree address node) := by
  induction node using Node.childInduction generalizing address with
  | step node ih =>
      cases node with
      | element name attributes children =>
          rw [topLevelOf]
          split
          · rw [subtree_eq]
            exact (topLevelIn_flatMap_sublist_of_children ih address 0).cons _
          · simp
      | text => simp [topLevelOf]
      | comment => simp [topLevelOf]
      | doctype => simp [topLevelOf]
      | contents => simp [topLevelOf]

/-- The top-level nodes with all that is below them are nodes of the document, in its order. -/
theorem topLevel_flatMap_sublist (document : Document) :
    (document.topLevel.flatMap fun located => subtree located.address located.node).Sublist
      document.inOrder :=
  topLevelIn_flatMap_sublist_of_children
    (fun node _ address => topLevelOf_flatMap_sublist document.roots address node) [] 0

/-- A list that takes from each top-level node a part of what is at or below it, in order, is in document
order. -/
theorem flatMap_topLevel_sublist {document : Document} {part : Located → List Located}
    (h : ∀ located, (part located).Sublist (subtree located.address located.node)) :
    (document.topLevel.flatMap part).Sublist document.inOrder := by
  refine List.Sublist.trans ?_ document.topLevel_flatMap_sublist
  generalize document.topLevel = nodes
  induction nodes with
  | nil => simp
  | cons node rest ih =>
      rw [List.flatMap_cons, List.flatMap_cons]
      exact (h node).append ih

theorem topLevel_sublist_inOrder (document : Document) :
    document.topLevel.Sublist document.inOrder := by
  have hpart : ∀ located : Located, [located].Sublist (subtree located.address located.node) := by
    intro located
    rw [subtree_eq]
    exact (List.nil_sublist _).cons_cons _
  have h := document.flatMap_topLevel_sublist hpart
  rwa [List.flatMap_singleton'] at h

end Document

end MarkupModule
