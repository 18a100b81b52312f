import MarkupModule.Partition
import MarkupModule.Proofs.Document.Order

/-! The lists of a partition, each given at once. The links, the template modules and the other nodes are
the top-level nodes of that role; the scripts are the local scripts of the document that stand at the top
level or directly in a template module of the top level. All of them keep document order. -/

namespace MarkupModule

open Markup

namespace Markup.Node

def isTemplateModule (node : Node) : Bool :=
  node.tag? == some "dom-module"

/-- A script whose file, if it names one, is local. -/
def isLocalScript (node : Node) : Bool :=
  node.tag? == some "script" && !Link.isExternal (node.attributeValue "src")

end Markup.Node

namespace Role

theorem ofNode?_eq_link_iff {node : Node} :
    ofNode? node = some .link ↔
      node.tag? = some "link" ∧ Link.isExternal (node.attributeValue "href") = false := by
  rw [ofNode?, Node.attributeValue]
  cases node.tag? with
  | none => simp
  | some name =>
      simp only [Option.map_some, Option.some.injEq, ofElement]
      split_ifs <;> simp_all

theorem ofNode?_eq_templateModule_iff {node : Node} :
    ofNode? node = some .templateModule ↔ node.isTemplateModule = true := by
  rw [ofNode?, Node.isTemplateModule]
  cases node.tag? with
  | none => simp
  | some name =>
      simp only [Option.map_some, Option.some.injEq, ofElement]
      split_ifs <;> simp_all

theorem isExternal_empty : Link.isExternal "" = false := by
  decide +kernel

/-- The roles of scripts are those of local scripts. -/
theorem any_isScript_ofNode? (node : Node) :
    (ofNode? node).any isScript = node.isLocalScript := by
  rw [ofNode?, Node.isLocalScript, Node.attributeValue]
  cases node.tag? with
  | none => simp
  | some name =>
      simp only [Option.map_some, Option.any_some, ofElement]
      split_ifs <;> simp_all [isScript, isExternal_empty]

end Role

namespace Partition

theorem moduleScripts_eq (module : Located) :
    moduleScripts module = module.children.filter fun child => child.node.isLocalScript := by
  unfold moduleScripts
  apply List.filter_congr
  intro child _
  rw [Role.any_isScript_ofNode?]
  simp only [Node.isLocalScript]
  cases child.node.tag? == some "script" <;> simp

/-- The scripts that a top-level node gives to the module: itself, or those directly in it. -/
def scriptsOf (located : Located) : List Located :=
  if located.node.isLocalScript then [located]
  else if located.node.isTemplateModule then moduleScripts located
  else []

def hasRole (role : Role) (located : Located) : Bool :=
  Role.ofNode? located.node == some role

theorem hasRole_templateModule (located : Located) :
    hasRole .templateModule located = located.node.isTemplateModule := by
  rw [Bool.eq_iff_iff, hasRole, beq_iff_eq]
  exact Role.ofNode?_eq_templateModule_iff

theorem scriptsOf_of_role {located : Located} {role : Role}
    (h : Role.ofNode? located.node = some role) :
    scriptsOf located =
      if role.isScript then [located]
      else if role = .templateModule then moduleScripts located else [] := by
  have hscript := Role.any_isScript_ofNode? located.node
  have hmodule := hasRole_templateModule located
  rw [hasRole, h] at hmodule
  rw [h, Option.any_some] at hscript
  rw [scriptsOf, ← hscript, ← hmodule]
  simp

theorem scriptsOf_of_no_role {located : Located} (h : Role.ofNode? located.node = none) :
    scriptsOf located = [] := by
  have hscript := Role.any_isScript_ofNode? located.node
  have hmodule := hasRole_templateModule located
  rw [hasRole, h] at hmodule
  rw [h, Option.any_none] at hscript
  rw [scriptsOf, ← hscript, ← hmodule]
  simp

/-- What one more top-level node adds to each list. -/
theorem add_eq (p : Partition) (located : Located) :
    p.add located =
      { links := p.links ++ [located].filter (hasRole .link)
        templateModules := p.templateModules ++ [located].filter (hasRole .templateModule)
        scripts := p.scripts ++ scriptsOf located
        otherNodes := p.otherNodes ++ [located].filter (hasRole .other) } := by
  cases hrole : Role.ofNode? located.node with
  | none => simp [add, hrole, scriptsOf_of_no_role hrole, hasRole]
  | some role =>
      rw [scriptsOf_of_role hrole]
      cases role <;> simp [add, hrole, hasRole, Role.isScript]

theorem foldl_add_eq (p : Partition) (nodes : List Located) :
    nodes.foldl add p =
      { links := p.links ++ nodes.filter (hasRole .link)
        templateModules := p.templateModules ++ nodes.filter (hasRole .templateModule)
        scripts := p.scripts ++ nodes.flatMap scriptsOf
        otherNodes := p.otherNodes ++ nodes.filter (hasRole .other) } := by
  induction nodes generalizing p with
  | nil => simp
  | cons node rest ih =>
      rw [List.foldl_cons, ih, add_eq]
      simp only [List.append_assoc, List.flatMap_cons, ← List.filter_append, List.singleton_append]

/-- The lists of a partition of top-level nodes. -/
theorem ofTopLevel_eq (nodes : List Located) :
    ofTopLevel nodes =
      { links := nodes.filter (hasRole .link)
        templateModules := nodes.filter (hasRole .templateModule)
        scripts := nodes.flatMap scriptsOf
        otherNodes := nodes.filter (hasRole .other) } := by
  rw [ofTopLevel, foldl_add_eq]
  simp

end Partition

/-! ### The scripts of the module -/

namespace Document

/-- Whether a node stands at the top level. -/
def isTopLevel (document : Document) (address : Address) : Bool :=
  document.topLevel.any fun located => located.address == address

/-- Whether a node stands directly in a template module of the top level. -/
def isInModule (document : Document) (address : Address) : Bool :=
  document.topLevel.any fun located =>
    located.node.isTemplateModule && !address.isEmpty && located.address == address.dropLast

/-- The scripts that become part of the module, in document order: all local scripts that stand at the
top level or directly in a template module of the top level. -/
def localScripts (document : Document) : List Located :=
  document.inOrder.filter fun located =>
    located.node.isLocalScript &&
      (document.isTopLevel located.address || document.isInModule located.address)

theorem pairwise_localScripts (document : Document) :
    document.localScripts.Pairwise Located.Before :=
  document.pairwise_inOrder.filter _

theorem mem_inOrder_of_mem_topLevel {document : Document} {located : Located}
    (h : located ∈ document.topLevel) : located ∈ document.inOrder :=
  document.topLevel_sublist_inOrder.subset h

theorem mem_inOrder_of_mem_children {document : Document} {parent located : Located}
    (hparent : parent ∈ document.inOrder) (h : located ∈ parent.children) :
    located ∈ document.inOrder := by
  obtain ⟨i, haddress, hnode⟩ := mem_children.mp h
  rw [mem_inOrder] at hparent ⊢
  rw [haddress, node?_append hparent, Node.at?, hnode]
  rfl

/-- A node of a document is determined by its address. -/
theorem eq_of_address_eq {document : Document} {first second : Located}
    (hfirst : first ∈ document.inOrder) (hsecond : second ∈ document.inOrder)
    (h : first.address = second.address) : first = second := by
  rw [mem_inOrder] at hfirst hsecond
  cases first
  cases second
  simp_all

theorem isTopLevel_iff {document : Document} {located : Located} (h : located ∈ document.inOrder) :
    document.isTopLevel located.address = true ↔ located ∈ document.topLevel := by
  rw [isTopLevel, List.any_eq_true]
  constructor
  · rintro ⟨top, htop, haddress⟩
    rwa [← eq_of_address_eq (mem_inOrder_of_mem_topLevel htop) h (beq_iff_eq.mp haddress)]
  · intro htop
    exact ⟨located, htop, beq_self_eq_true _⟩

theorem mem_children_of_inOrder {document : Document} {parent located : Located}
    (hparent : parent ∈ document.inOrder) (hlocated : located ∈ document.inOrder)
    (hne : located.address ≠ []) (haddress : parent.address = located.address.dropLast) :
    located ∈ parent.children := by
  rw [mem_inOrder] at hparent hlocated
  have hsplit := List.dropLast_append_getLast hne
  refine mem_children.mpr ⟨located.address.getLast hne, by rw [haddress, hsplit], ?_⟩
  rw [← hsplit, ← haddress, node?_append hparent] at hlocated
  simpa [Node.at?] using hlocated

theorem isInModule_iff {document : Document} {located : Located} (h : located ∈ document.inOrder) :
    document.isInModule located.address = true ↔
      ∃ module ∈ document.topLevel, module.node.isTemplateModule = true ∧ located ∈ module.children := by
  rw [isInModule, List.any_eq_true]
  constructor
  · rintro ⟨module, hmodule, hcondition⟩
    simp only [Bool.and_eq_true, Bool.not_eq_true', List.isEmpty_eq_false_iff, beq_iff_eq] at hcondition
    obtain ⟨⟨hrole, hne⟩, haddress⟩ := hcondition
    exact ⟨module, hmodule, hrole,
      mem_children_of_inOrder (mem_inOrder_of_mem_topLevel hmodule) h hne haddress⟩
  · rintro ⟨module, hmodule, hrole, hchild⟩
    obtain ⟨i, haddress, _⟩ := mem_children.mp hchild
    exact ⟨module, hmodule, by simp [hrole, haddress]⟩

end Document

namespace Partition

theorem not_isLocalScript_of_isTemplateModule {node : Node} (h : node.isTemplateModule = true) :
    node.isLocalScript = false := by
  rw [Node.isTemplateModule, beq_iff_eq] at h
  simp [Node.isLocalScript, h]

theorem mem_scriptsOf {located top : Located} :
    located ∈ scriptsOf top ↔ located.node.isLocalScript = true ∧
      (located = top ∨ top.node.isTemplateModule = true ∧ located ∈ top.children) := by
  rw [scriptsOf]
  split
  · rename_i hscript
    rw [List.mem_singleton]
    constructor
    · rintro rfl
      exact ⟨hscript, Or.inl rfl⟩
    · rintro ⟨_, h | ⟨hmodule, _⟩⟩
      · exact h
      · rw [not_isLocalScript_of_isTemplateModule hmodule] at hscript
        cases hscript
  · rename_i hscript
    split
    · rename_i hmodule
      rw [moduleScripts_eq, List.mem_filter]
      constructor
      · rintro ⟨hchild, hlocal⟩
        exact ⟨hlocal, Or.inr ⟨hmodule, hchild⟩⟩
      · rintro ⟨hlocal, rfl | ⟨_, hchild⟩⟩
        · exact absurd hlocal hscript
        · exact ⟨hchild, hlocal⟩
    · rename_i hmodule
      constructor
      · intro h
        cases h
      · rintro ⟨hlocal, rfl | ⟨h, _⟩⟩
        · exact absurd hlocal hscript
        · exact absurd h hmodule

theorem scriptsOf_sublist_subtree (located : Located) :
    (scriptsOf located).Sublist (subtree located.address located.node) := by
  rw [scriptsOf]
  split
  · rw [subtree_eq]
    exact (List.nil_sublist _).cons_cons _
  · split
    · rw [moduleScripts_eq]
      exact List.filter_sublist.trans located.children_sublist_subtree
    · exact List.nil_sublist _

/-- The scripts that the top-level nodes give are the local scripts of the document, in its order. -/
theorem flatMap_scriptsOf_eq (document : Document) :
    document.topLevel.flatMap scriptsOf = document.localScripts := by
  have hsublist := document.flatMap_topLevel_sublist scriptsOf_sublist_subtree
  apply eq_of_mem_iff_of_before (document.pairwise_inOrder.sublist hsublist)
    document.pairwise_localScripts
  intro located
  rw [Document.localScripts, List.mem_filter, List.mem_flatMap, Bool.and_eq_true, Bool.or_eq_true]
  constructor
  · rintro ⟨top, htop, hmem⟩
    have horder := hsublist.subset (List.mem_flatMap_of_mem htop hmem)
    obtain ⟨hlocal, hplace⟩ := mem_scriptsOf.mp hmem
    refine ⟨horder, hlocal, ?_⟩
    rw [Document.isTopLevel_iff horder, Document.isInModule_iff horder]
    rcases hplace with rfl | ⟨hmodule, hchild⟩
    · exact Or.inl htop
    · exact Or.inr ⟨top, htop, hmodule, hchild⟩
  · rintro ⟨horder, hlocal, hplace⟩
    rw [Document.isTopLevel_iff horder, Document.isInModule_iff horder] at hplace
    rcases hplace with htop | ⟨module, hmodule, hrole, hchild⟩
    · exact ⟨located, htop, mem_scriptsOf.mpr ⟨hlocal, Or.inl rfl⟩⟩
    · exact ⟨module, hmodule, mem_scriptsOf.mpr ⟨hlocal, Or.inr ⟨hrole, hchild⟩⟩⟩

/-- The lists of the partition of a document. -/
theorem ofDocument_eq (document : Document) :
    ofDocument document =
      { links := document.topLevel.filter (hasRole .link)
        templateModules := document.topLevel.filter (hasRole .templateModule)
        scripts := document.localScripts
        otherNodes := document.topLevel.filter (hasRole .other) } := by
  rw [ofDocument, ofTopLevel_eq, flatMap_scriptsOf_eq]

/-- A node that is no local script is never left out of the markup. -/
theorem not_mem_extracted {document : Document} {located : Located} (h : located ∈ document.inOrder)
    (hlocal : located.node.isLocalScript = false) :
    located.address ∉ (ofDocument document).extracted := by
  rw [ofDocument_eq, extracted, List.mem_map]
  rintro ⟨script, hscript, haddress⟩
  change script ∈ document.localScripts at hscript
  rw [Document.localScripts, List.mem_filter, Bool.and_eq_true] at hscript
  obtain ⟨horder, hscript, _⟩ := hscript
  rw [Document.eq_of_address_eq horder h haddress, hlocal] at hscript
  cases hscript

/-- A node at the top level or in a template module there is left out of the markup exactly when it is a
local script. -/
theorem contains_extracted {document : Document} {located : Located} (h : located ∈ document.inOrder)
    (hplace : located ∈ document.topLevel ∨ ∃ module ∈ document.topLevel,
      module.node.isTemplateModule = true ∧ located ∈ module.children) :
    (ofDocument document).extracted.contains located.address = located.node.isLocalScript := by
  rw [Bool.eq_iff_iff, List.contains_iff_mem]
  constructor
  · intro hmem
    by_contra hlocal
    exact not_mem_extracted h (Bool.not_eq_true _ ▸ hlocal) hmem
  · intro hlocal
    rw [ofDocument_eq, extracted, List.mem_map]
    refine ⟨located, List.mem_filter.mpr ⟨h, ?_⟩, rfl⟩
    rw [hlocal, Bool.true_and, Bool.or_eq_true, Document.isTopLevel_iff h, Document.isInModule_iff h]
    exact hplace

end Partition

end MarkupModule
