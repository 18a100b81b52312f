import MarkupModule.Proofs.Document.Cut
import MarkupModule.Proofs.Minification.Skips
import MarkupModule.Proofs.ModuleText.Statements
import MarkupModule.Proofs.Partition.Buckets

/-! What is left out of the markup of a document. All its scripts are left out at once, wherever they
stand, but no top-level node stands in another one, so the only ones that can stand in a registered node
are the local scripts directly in a template module. The markup of a module is that of the module without
them, and the markup of any other node is complete. -/

namespace MarkupModule

open Markup

namespace Document

variable {document : Document} {top other located : Located}

/-- The top-level node on the way to a node is the one that the node stands in. -/
theorem eq_of_isPrefix (htop : top ∈ document.topLevel) (hother : other ∈ document.topLevel)
    (h : located ∈ subtree other.address other.node) (hleads : top.address <+: located.address) :
    top = other := by
  obtain ⟨below, haddress, -⟩ := mem_subtree.mp h
  exact eq_of_isPrefix_of_isPrefix htop hother hleads ⟨below, haddress.symm⟩

end Document

/-- The scripts that a template module gives up: the local ones that stand directly in it. -/
def Markup.Located.ownScripts (module : Located) : List Located :=
  module.children.filter fun child => child.node.isLocalScript

/-- An element without the local scripts that stand directly in it. -/
def Markup.Node.withoutLocalScripts : Node → Node
  | .element name attributes children =>
    .element name attributes (children.filter fun child => !child.isLocalScript)
  | node => node

namespace Partition

variable {document : Document} {top module : Located}

/-- The scripts that are left out at or below a top-level node are those that it gives to the module. -/
theorem contains_extracted_below (htop : top ∈ document.topLevel) (below : Address) :
    (ofDocument document).extracted.contains (top.address ++ below) =
      ((scriptsOf top).map Located.address).contains (top.address ++ below) := by
  rw [Bool.eq_iff_iff, List.contains_iff_mem, List.contains_iff_mem, extracted, ofDocument, ofTopLevel_eq,
    List.mem_map, List.mem_map]
  constructor
  · rintro ⟨script, hscript, haddress⟩
    obtain ⟨other, hother, hmem⟩ := List.mem_flatMap.mp hscript
    obtain rfl := Document.eq_of_isPrefix htop hother ((scriptsOf_sublist_subtree other).subset hmem)
      ⟨below, haddress.symm⟩
    exact ⟨script, hmem, haddress⟩
  · rintro ⟨script, hscript, haddress⟩
    exact ⟨script, List.mem_flatMap_of_mem htop hscript, haddress⟩

theorem scriptsOf_of_isTemplateModule (h : module.node.isTemplateModule = true) :
    scriptsOf module = module.ownScripts := by
  rw [scriptsOf, not_isLocalScript_of_isTemplateModule h, h, if_neg Bool.false_ne_true, if_pos rfl,
    moduleScripts_eq]
  rfl

/-- The places of the own scripts of a node are those of children. -/
theorem contains_ownScripts (module : Located) (i : Nat) (below : Address) :
    (module.ownScripts.map Located.address).contains (module.address ++ i :: below) =
      (below.isEmpty && (module.node.children[i]?).any Node.isLocalScript) := by
  rw [Bool.eq_iff_iff, List.contains_iff_mem, List.mem_map, Bool.and_eq_true, List.isEmpty_iff]
  constructor
  · rintro ⟨script, hscript, haddress⟩
    obtain ⟨hchild, hlocal⟩ := List.mem_filter.mp hscript
    obtain ⟨j, hj, hnode⟩ := mem_children.mp hchild
    rw [hj, List.append_cancel_left_eq, List.cons.injEq] at haddress
    obtain ⟨rfl, rfl⟩ := haddress
    exact ⟨rfl, by rw [hnode]; exact hlocal⟩
  · rintro ⟨rfl, hlocal⟩
    cases hchild : module.node.children[i]? with
    | none =>
        rw [hchild] at hlocal
        cases hlocal
    | some child =>
        rw [hchild] at hlocal
        exact ⟨⟨module.address ++ [i], child⟩,
          List.mem_filter.mpr ⟨mem_children.mpr ⟨i, rfl, hchild⟩, hlocal⟩, rfl⟩

theorem contains_ownScripts_self (module : Located) :
    (module.ownScripts.map Located.address).contains module.address = false := by
  rw [← Bool.not_eq_true, List.contains_iff_mem, List.mem_map]
  rintro ⟨script, hscript, haddress⟩
  obtain ⟨i, hi, _⟩ := mem_children.mp (List.mem_filter.mp hscript).1
  simp [haddress] at hi

end Partition

namespace Markup.Writer

variable {w : Writer} {skips : Address → Bool}

/-- Children that are left out are written as if they were not there. -/
theorem writeNodes_filter {leaves : Node → Bool} {address : Address} {start : Nat} {nodes : List Node}
    (h : ∀ i below, skips (address ++ (start + i) :: below) =
      (below.isEmpty && (nodes[i]?).any leaves))
    (preserve : Bool) (address' : Address) (start' : Nat) (out : List Char) :
    (w.leavingOut skips).writeNodes preserve address start out nodes =
      (w.leavingOut fun _ => false).writeNodes preserve address' start' out
        (nodes.filter fun node => !leaves node) := by
  induction nodes generalizing start start' out with
  | nil => rfl
  | cons node rest ih =>
      have hrest : ∀ i below, skips (address ++ (start + 1 + i) :: below) =
          (below.isEmpty && (rest[i]?).any leaves) := by
        intro i below
        rw [Nat.add_right_comm, Nat.add_assoc, h (i + 1) below, List.getElem?_cons_succ]
      have hhead : ∀ below, skips (address ++ [start] ++ below) = (below.isEmpty && leaves node) := by
        intro below
        simpa using h 0 below
      rw [writeNodes_cons, List.filter_cons]
      cases hleaves : leaves node with
      | true =>
          have hskips : skips (address ++ [start]) = true := by
            have := hhead []
            rwa [List.append_nil, hleaves] at this
          rw [writeNode_of_skips hskips]
          exact ih hrest start' out
      | false =>
          have hnone : ∀ below, skips (address ++ [start] ++ below) = false := by
            intro below
            rw [hhead, hleaves, Bool.and_false]
          have hhere : (w.leavingOut skips).writeNode preserve (address ++ [start]) out node =
              (w.leavingOut fun _ => false).writeNode preserve (address' ++ [start']) out node :=
            writeNode_congr preserve node hnone out
          rw [Bool.not_false, if_pos rfl, writeNodes_cons, hhere]
          congr 1
          funext out'
          exact ih hrest (start' + 1) out'

/-- Whether a writer that begins at a root comes to a node: it leaves out neither the node nor any node
on the way. -/
def ComesTo (w : Writer) (root located : Located) : Prop :=
  located ∈ subtree root.address root.node ∧
    ∀ address, root.address <+: address → address <+: located.address → w.skips address = false

theorem write_congr {skips' : Address → Bool} {located : Located}
    (h : ∀ below, skips (located.address ++ below) = skips' (located.address ++ below)) :
    (w.leavingOut skips).write located = (w.leavingOut skips').write located := by
  rw [write, write, writeNode_congr false located.node h]

/-- A template module is written without its own scripts as the module that does not have them. -/
theorem write_ownScripts {module : Located} (h : module.node.isTemplateModule = true) :
    (w.leavingOut (module.ownScripts.map Located.address).contains).write module =
      (w.leavingOut fun _ => false).write ⟨module.address, module.node.withoutLocalScripts⟩ := by
  have hplaces := Partition.contains_ownScripts module
  have hself := Partition.contains_ownScripts_self module
  obtain ⟨address, node⟩ := module
  cases node with
  | element name attributes children =>
      have hname : name.name = "dom-module" := Option.some.inj (beq_iff_eq.mp h)
      have hinside : ∀ preserve out,
          (w.leavingOut (Located.ownScripts ⟨address, .element name attributes children⟩ |>.map
            Located.address).contains).writeNodes preserve address 0 out children =
          (w.leavingOut fun _ => false).writeNodes preserve address 0 out
            (children.filter fun child => !child.isLocalScript) := by
        intro preserve out
        apply writeNodes_filter
        intro i below
        rw [Nat.zero_add]
        exact hplaces i below
      rw [write, write, Node.withoutLocalScripts, writeNode_element, writeNode_element]
      simp only [skips_leavingOut, hself, writeAttributes_leavingOut, hname, writeInside, hinside]
      rfl
  | text => cases h
  | comment => cases h
  | doctype => cases h
  | contents => cases h

end Markup.Writer

namespace Partition

variable {document : Document} {root : Located}

theorem mem_topLevel_of_mem_templateModules (h : root ∈ (ofDocument document).templateModules) :
    root ∈ document.topLevel ∧ root.node.isTemplateModule = true := by
  rw [ofDocument_eq, List.mem_filter, hasRole_templateModule] at h
  exact h

theorem mem_topLevel_of_mem_otherNodes (h : root ∈ (ofDocument document).otherNodes) :
    root ∈ document.topLevel ∧ scriptsOf root = [] := by
  rw [ofDocument_eq, List.mem_filter, hasRole, beq_iff_eq] at h
  exact ⟨h.1, by rw [scriptsOf_of_role h.2]; rfl⟩

/-- The scripts of the generated module are left out. -/
theorem contains_extracted_of_mem {script : Located} (h : script ∈ (ofDocument document).scripts) :
    (ofDocument document).extracted.contains script.address = true := by
  rw [List.contains_iff_mem, extracted]
  exact List.mem_map_of_mem h

end Partition

/-- What it means that a writer leaves only the scripts of a partition out of its markup. -/
structure Partition.LeavesOutOnlyScripts (p : Partition) (w : Writer) : Prop where
  /-- The markup of a node that is added to the page is complete. -/
  write_otherNode : ∀ node ∈ p.otherNodes, w.write node = (w.leavingOut fun _ => false).write node
  /-- Of all scripts that are left out, a template module lacks its own ones only. -/
  write_module : ∀ module ∈ p.templateModules,
    w.write module = (w.leavingOut (module.ownScripts.map Located.address).contains).write module
  /-- The markup of a template module is the complete markup of the module without its own scripts. -/
  write_module_complete : ∀ module ∈ p.templateModules,
    w.write module =
      (w.leavingOut fun _ => false).write ⟨module.address, module.node.withoutLocalScripts⟩
  /-- The writer comes to every node of a template module that is neither one of its own scripts nor below
  one, so also to scripts that stand deeper in it and to external ones. -/
  comesTo : ∀ module ∈ p.templateModules, ∀ located ∈ subtree module.address module.node,
    (∀ script ∈ module.ownScripts, ¬script.address <+: located.address) → w.ComesTo module located
  /-- It comes to no script of the partition. -/
  not_comesTo : ∀ root ∈ p.templateModules ++ p.otherNodes, ∀ script ∈ p.scripts, ¬w.ComesTo root script
  /-- For a script of the partition it would write nothing. -/
  writeNode_script : ∀ script ∈ p.scripts, ∀ preserve out,
    w.writeNode preserve script.address out script.node = .ok out

namespace Generator

variable (g : Generator) {document : Document} {module : Located}

theorem writer_eq_leavingOut (p : Partition) : g.writer p = (g.writer p).leavingOut p.extracted.contains :=
  rfl

theorem write_eq_of_ownScripts (h : module ∈ (Partition.ofDocument document).templateModules) :
    (g.writer (Partition.ofDocument document)).write module =
      ((g.writer (Partition.ofDocument document)).leavingOut
        (module.ownScripts.map Located.address).contains).write module := by
  obtain ⟨htop, hrole⟩ := Partition.mem_topLevel_of_mem_templateModules h
  rw [writer_eq_leavingOut, Writer.leavingOut_leavingOut]
  apply Writer.write_congr
  intro below
  rw [Partition.contains_extracted_below htop, Partition.scriptsOf_of_isTemplateModule hrole]

theorem comesTo_of_not_ownScripts (h : module ∈ (Partition.ofDocument document).templateModules)
    {located : Located} (hlocated : located ∈ subtree module.address module.node)
    (hbelow : ∀ script ∈ module.ownScripts, ¬script.address <+: located.address) :
    (g.writer (Partition.ofDocument document)).ComesTo module located := by
  obtain ⟨htop, hrole⟩ := Partition.mem_topLevel_of_mem_templateModules h
  refine ⟨hlocated, ?_⟩
  rintro address ⟨below, rfl⟩ hprefix
  rw [writer_eq_leavingOut, Writer.skips_leavingOut, Partition.contains_extracted_below htop,
    Partition.scriptsOf_of_isTemplateModule hrole, ← Bool.not_eq_true, List.contains_iff_mem, List.mem_map]
  rintro ⟨script, hscript, haddress⟩
  exact hbelow script hscript (haddress ▸ hprefix)

/-- The extraction of scripts touches nothing else. -/
theorem leavesOutOnlyScripts (document : Document) :
    (Partition.ofDocument document).LeavesOutOnlyScripts (g.writer (Partition.ofDocument document)) where
  write_otherNode := by
    intro node hnode
    obtain ⟨htop, hnone⟩ := Partition.mem_topLevel_of_mem_otherNodes hnode
    rw [writer_eq_leavingOut, Writer.leavingOut_leavingOut]
    apply Writer.write_congr
    intro below
    rw [Partition.contains_extracted_below htop, hnone]
    rfl
  write_module := fun module hmodule => write_eq_of_ownScripts g hmodule
  write_module_complete := by
    intro module hmodule
    rw [write_eq_of_ownScripts g hmodule]
    exact Writer.write_ownScripts (Partition.mem_topLevel_of_mem_templateModules hmodule).2
  comesTo := fun module hmodule located hlocated hbelow =>
    comesTo_of_not_ownScripts g hmodule hlocated hbelow
  not_comesTo := by
    rintro root - script hscript ⟨hbelow, hway⟩
    obtain ⟨below, haddress, _⟩ := mem_subtree.mp hbelow
    have hkept := hway script.address ⟨below, haddress.symm⟩ (List.prefix_refl _)
    rw [writer_eq_leavingOut, Writer.skips_leavingOut,
      Partition.contains_extracted_of_mem hscript] at hkept
    cases hkept
  writeNode_script := by
    intro script hscript preserve out
    exact Writer.writeNode_of_skips (Partition.contains_extracted_of_mem hscript) preserve out script.node

/-- A template module with a script of its own, an external script and a script in a template, and a
paragraph with a script. -/
def moduleAndParagraph : Document :=
  { nodes := [
      .element ⟨.html, "dom-module"⟩ [] [
        .element ⟨.html, "script"⟩ [] [.text "own()"],
        .element ⟨.html, "script"⟩ [⟨.plain, "src", "https://x/y.js"⟩] [],
        .element ⟨.html, "template"⟩ [] [.contents [.element ⟨.html, "script"⟩ [] [.text "inner()"]]]],
      .element ⟨.html, "p"⟩ [] [.element ⟨.html, "script"⟩ [] [.text "other()"]]]
    roots := {} }

theorem leavesOutOnlyScripts_moduleAndParagraph :
    (Partition.ofDocument moduleAndParagraph).extracted = [[0, 0]] ∧
    (Partition.ofDocument moduleAndParagraph).templateModules.map
        (Loader.keepingStyles.generator.writer (Partition.ofDocument moduleAndParagraph)).write =
      [.ok ("<dom-module><script src=\"https://x/y.js\"></script>" ++
        "<template><script>inner()</script></template></dom-module>")] ∧
    (Partition.ofDocument moduleAndParagraph).otherNodes.map
        (Loader.keepingStyles.generator.writer (Partition.ofDocument moduleAndParagraph)).write =
      [.ok "<p><script>other()</script></p>"] ∧
    (Partition.ofDocument moduleAndParagraph).LeavesOutOnlyScripts
      (Loader.keepingStyles.generator.writer (Partition.ofDocument moduleAndParagraph)) :=
  ⟨by decide +kernel, by decide +kernel, by decide +kernel, leavesOutOnlyScripts _ _⟩

end Generator

end MarkupModule
