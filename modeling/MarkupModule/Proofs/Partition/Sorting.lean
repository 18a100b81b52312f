import MarkupModule.Proofs.Partition.Buckets
import Mathlib

/-! A partition sorts a document: every element of the top level has the one place that its role names,
and the only other nodes are the local scripts that template modules give up. No node has two places,
because the role of a node names one list and the nodes of a document differ in their addresses. -/

namespace MarkupModule

open Markup

/-- The lists of a partition. -/
inductive Bucket where
  | links
  | templateModules
  | scripts
  | otherNodes
  deriving DecidableEq, Repr

/-- The list that the elements of a role belong to. -/
def Role.bucket : Role → Bucket
  | .link => .links
  | .inlineScript => .scripts
  | .scriptFile => .scripts
  | .templateModule => .templateModules
  | .other => .otherNodes

namespace Partition

def bucket (p : Partition) : Bucket → List Located
  | .links => p.links
  | .templateModules => p.templateModules
  | .scripts => p.scripts
  | .otherNodes => p.otherNodes

/-- All nodes of a partition, one list after the other. -/
def nodes (p : Partition) : List Located :=
  p.links ++ p.templateModules ++ p.scripts ++ p.otherNodes

end Partition

namespace Document

/-- A script that stands directly in a template module of the top level and names no file, or a local
one. -/
def GivesUp (document : Document) (script : Located) : Prop :=
  ∃ module ∈ document.topLevel, module.node.tag? = some "dom-module" ∧ script ∈ module.children ∧
    script.node.tag? = some "script" ∧
      ∀ src, Attribute.find? script.node.attributes "src" = some src →
        src = "" ∨ Link.isExternal src = false

/-- How many scripts the template modules of the top level give up. -/
def countGivenUp (document : Document) : Nat :=
  ((document.topLevel.filter fun top => top.node.isTemplateModule).map fun module =>
    module.children.countP fun child => child.node.isLocalScript).sum

end Document

/-- What it means that a partition sorts a document. -/
structure Partition.Sorts (p : Partition) (document : Document) : Prop where
  /-- No node has two places. -/
  nodup : (p.nodes.map Located.address).Nodup
  /-- An element of the top level stands in the list that its role names, and in no other one. -/
  mem_bucket_iff_of_topLevel : ∀ top ∈ document.topLevel, ∀ name attributes children,
    top.node = .element name attributes children →
      ∀ bucket, top ∈ p.bucket bucket ↔ bucket = (Role.ofElement name.name attributes).bucket
  /-- Every other node is a script that a template module gives up, and all those scripts are there. -/
  mem_bucket_iff : ∀ bucket located, located ∈ p.bucket bucket ↔
    (located ∈ document.topLevel ∧ (Role.ofNode? located.node).map Role.bucket = some bucket) ∨
      (bucket = .scripts ∧ document.GivesUp located)
  links_sublist : p.links.Sublist document.topLevel
  templateModules_sublist : p.templateModules.Sublist document.topLevel
  otherNodes_sublist : p.otherNodes.Sublist document.topLevel
  /-- The scripts are in document order. -/
  scripts_sublist : p.scripts.Sublist document.inOrder
  /-- The scripts of a template module stand where the module does. -/
  scripts_eq : p.scripts = document.topLevel.flatMap Partition.scriptsOf
  mem_extracted_iff : ∀ address, address ∈ p.extracted ↔ ∃ script ∈ p.scripts, script.address = address
  size_eq : p.size =
    (document.topLevel.countP fun top => top.node.tag?.isSome) + document.countGivenUp

namespace Partition

variable {document : Document} {located : Located}

/-- The local scripts are the nodes whose role names the list of scripts. -/
theorem bucket_eq_scripts_iff (node : Node) :
    (Role.ofNode? node).map Role.bucket = some .scripts ↔ node.isLocalScript = true := by
  rw [← Role.any_isScript_ofNode?]
  cases Role.ofNode? node with
  | none => simp
  | some role => cases role <;> simp [Role.bucket, Role.isScript]

theorem isLocalScript_iff (node : Node) :
    node.isLocalScript = true ↔ node.tag? = some "script" ∧
      ∀ src, Attribute.find? node.attributes "src" = some src → src = "" ∨ Link.isExternal src = false := by
  rw [Node.isLocalScript, Node.attributeValue, Bool.and_eq_true, beq_iff_eq, Bool.not_eq_true']
  refine and_congr_right fun _ => ?_
  cases Attribute.find? node.attributes "src" with
  | none => simp [Role.isExternal_empty]
  | some src =>
      simp only [Option.getD_some, Option.some.injEq, forall_eq']
      constructor
      · exact Or.inr
      · rintro (rfl | h)
        · exact Role.isExternal_empty
        · exact h

theorem givesUp_iff :
    document.GivesUp located ↔ ∃ module ∈ document.topLevel,
      module.node.isTemplateModule = true ∧ located ∈ module.children ∧
        located.node.isLocalScript = true := by
  simp only [Document.GivesUp, isLocalScript_iff, Node.isTemplateModule, beq_iff_eq]

theorem mem_scripts :
    located ∈ (ofDocument document).scripts ↔
      (located ∈ document.topLevel ∧ located.node.isLocalScript = true) ∨ document.GivesUp located := by
  rw [ofDocument, ofTopLevel_eq, List.mem_flatMap, givesUp_iff]
  constructor
  · rintro ⟨top, htop, hmem⟩
    obtain ⟨hlocal, rfl | ⟨hmodule, hchild⟩⟩ := mem_scriptsOf.mp hmem
    · exact Or.inl ⟨htop, hlocal⟩
    · exact Or.inr ⟨top, htop, hmodule, hchild, hlocal⟩
  · rintro (⟨htop, hlocal⟩ | ⟨module, hmem, hmodule, hchild, hlocal⟩)
    · exact ⟨located, htop, mem_scriptsOf.mpr ⟨hlocal, Or.inl rfl⟩⟩
    · exact ⟨module, hmem, mem_scriptsOf.mpr ⟨hlocal, Or.inr ⟨hmodule, hchild⟩⟩⟩

/-- The nodes of the only role that names a list are the nodes whose role names it. -/
theorem mem_filter_hasRole_iff {role : Role} {bucket : Bucket}
    (honly : ∀ r : Role, r.bucket = bucket ↔ r = role) :
    located ∈ document.topLevel.filter (hasRole role) ↔
      located ∈ document.topLevel ∧ (Role.ofNode? located.node).map Role.bucket = some bucket := by
  rw [List.mem_filter, hasRole, beq_iff_eq, Option.map_eq_some_iff]
  simp only [honly, exists_eq_right]

theorem mem_bucket (bucket : Bucket) :
    located ∈ (ofDocument document).bucket bucket ↔
      (located ∈ document.topLevel ∧ (Role.ofNode? located.node).map Role.bucket = some bucket) ∨
        (bucket = .scripts ∧ document.GivesUp located) := by
  cases bucket with
  | links =>
      have honly : ∀ r : Role, r.bucket = .links ↔ r = .link := by
        rintro (_ | _ | _ | _ | _) <;> decide
      simp only [reduceCtorEq, false_and, or_false, ← mem_filter_hasRole_iff honly, bucket,
        ofDocument_eq]
  | templateModules =>
      have honly : ∀ r : Role, r.bucket = .templateModules ↔ r = .templateModule := by
        rintro (_ | _ | _ | _ | _) <;> decide
      simp only [reduceCtorEq, false_and, or_false, ← mem_filter_hasRole_iff honly, bucket,
        ofDocument_eq]
  | scripts =>
      rw [bucket, mem_scripts, bucket_eq_scripts_iff]
      simp
  | otherNodes =>
      have honly : ∀ r : Role, r.bucket = .otherNodes ↔ r = .other := by
        rintro (_ | _ | _ | _ | _) <;> decide
      simp only [reduceCtorEq, false_and, or_false, ← mem_filter_hasRole_iff honly, bucket,
        ofDocument_eq]

/-- The role of a node names the only list that it may stand in. -/
theorem bucket_of_mem {bucket : Bucket} (h : located ∈ (ofDocument document).bucket bucket) :
    (Role.ofNode? located.node).map Role.bucket = some bucket := by
  rcases (mem_bucket bucket).mp h with ⟨_, hrole⟩ | ⟨rfl, hgiven⟩
  · exact hrole
  · obtain ⟨_, _, _, _, hlocal⟩ := givesUp_iff.mp hgiven
    exact (bucket_eq_scripts_iff located.node).mpr hlocal

theorem bucket_sublist_inOrder (document : Document) (bucket : Bucket) :
    ((ofDocument document).bucket bucket).Sublist document.inOrder := by
  rw [ofDocument_eq]
  cases bucket with
  | scripts => exact List.filter_sublist
  | links => exact List.filter_sublist.trans document.topLevel_sublist_inOrder
  | templateModules => exact List.filter_sublist.trans document.topLevel_sublist_inOrder
  | otherNodes => exact List.filter_sublist.trans document.topLevel_sublist_inOrder

theorem nodes_eq_flatMap (p : Partition) :
    p.nodes = [Bucket.links, .templateModules, .scripts, .otherNodes].flatMap p.bucket := by
  simp [nodes, bucket]

theorem nodup_nodes (document : Document) :
    ((ofDocument document).nodes.map Located.address).Nodup := by
  rw [nodes_eq_flatMap]
  apply List.Nodup.map_on
  · intro first hfirst second hsecond haddress
    obtain ⟨b, _, hfirst⟩ := List.mem_flatMap.mp hfirst
    obtain ⟨c, _, hsecond⟩ := List.mem_flatMap.mp hsecond
    exact Document.eq_of_address_eq ((bucket_sublist_inOrder document b).subset hfirst)
      ((bucket_sublist_inOrder document c).subset hsecond) haddress
  · rw [List.nodup_flatMap]
    constructor
    · intro b _
      exact (document.pairwise_inOrder.sublist (bucket_sublist_inOrder document b)).nodup
    · have hdistinct : [Bucket.links, .templateModules, .scripts, .otherNodes].Pairwise (· ≠ ·) := by
        decide
      refine hdistinct.imp fun hne => ?_
      -- a node in two lists would have a role that names both
      intro located hfirst hsecond
      have h := (bucket_of_mem hfirst).symm.trans (bucket_of_mem hsecond)
      exact hne (Option.some.inj h)

/-- What a top-level node adds to the number of nodes. -/
theorem length_filter_hasRole_singleton (top : Located) :
    ([top].filter (hasRole .link)).length + ([top].filter (hasRole .templateModule)).length +
        (scriptsOf top).length + ([top].filter (hasRole .other)).length =
      (if top.node.tag?.isSome then 1 else 0) +
        (if top.node.isTemplateModule then
          top.children.countP fun child => child.node.isLocalScript else 0) := by
  have hmodule := hasRole_templateModule top
  cases hrole : Role.ofNode? top.node with
  | none =>
      have htag : top.node.tag? = none := by simpa [Role.ofNode?] using hrole
      simp [scriptsOf_of_no_role hrole, hasRole, hrole, htag, Node.isTemplateModule]
  | some role =>
      have htag : top.node.tag?.isSome = true := by
        cases htag : top.node.tag? <;> simp [Role.ofNode?, htag] at hrole ⊢
      rw [← hmodule, scriptsOf_of_role hrole, htag, moduleScripts_eq]
      cases role <;> simp [hasRole, hrole, Role.isScript, List.countP_eq_length_filter]

theorem size_ofDocument (document : Document) :
    (ofDocument document).size =
      (document.topLevel.countP fun top => top.node.tag?.isSome) + document.countGivenUp := by
  rw [ofDocument, ofTopLevel_eq, size, Document.countGivenUp]
  generalize document.topLevel = nodes
  induction nodes with
  | nil => rfl
  | cons top rest ih =>
      have htop := length_filter_hasRole_singleton top
      rw [← List.singleton_append]
      simp only [List.filter_append, List.flatMap_append, List.length_append, List.countP_append,
        List.map_append, List.sum_append, List.flatMap_singleton, List.countP_singleton]
      have hsum : (([top].filter fun t => t.node.isTemplateModule).map fun module =>
          module.children.countP fun child => child.node.isLocalScript).sum =
          if top.node.isTemplateModule then
            top.children.countP fun child => child.node.isLocalScript else 0 := by
        cases h : top.node.isTemplateModule <;> simp [h]
      rw [hsum]
      simp only at ih
      omega

/-- The partition of a document sorts it. -/
theorem sorts_ofDocument (document : Document) : (ofDocument document).Sorts document where
  nodup := nodup_nodes document
  mem_bucket_iff_of_topLevel := by
    intro top htop name attributes children hnode bucket
    have hrole : Role.ofNode? top.node = some (Role.ofElement name.name attributes) := by
      rw [hnode]
      rfl
    constructor
    · intro hmem
      have h := bucket_of_mem hmem
      rw [hrole] at h
      exact (Option.some.inj h).symm
    · rintro rfl
      exact (mem_bucket _).mpr (Or.inl ⟨htop, by rw [hrole]; rfl⟩)
  mem_bucket_iff := fun bucket _ => mem_bucket bucket
  links_sublist := by
    rw [ofDocument_eq]
    exact List.filter_sublist
  templateModules_sublist := by
    rw [ofDocument_eq]
    exact List.filter_sublist
  otherNodes_sublist := by
    rw [ofDocument_eq]
    exact List.filter_sublist
  scripts_sublist := bucket_sublist_inOrder document .scripts
  scripts_eq := by
    rw [ofDocument, ofTopLevel_eq]
  mem_extracted_iff := by
    intro address
    rw [extracted, List.mem_map]
  size_eq := size_ofDocument document

end Partition

end MarkupModule
