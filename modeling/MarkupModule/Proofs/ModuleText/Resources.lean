import MarkupModule.Proofs.Link.Path
import MarkupModule.Proofs.Minification.Markup
import MarkupModule.Proofs.Partition.Extraction

/-! What becomes of the links and scripts of a document that name their own host or scheme. None of them is
imported, since a module imports local paths only; those at the top level are added to the page, each by
one call with its markup, and those in a template module stay in its markup. -/

namespace MarkupModule

open Markup

/-! ### A writer only adds to what is written -/

namespace Markup.Writer

variable {w : Writer} {out out' : List Char}

theorem isSuffix_put (s out : List Char) : out <:+ put s out :=
  ⟨s.reverse, rfl⟩

theorem isSuffix_of_writeAttributes {attributes : List Attribute}
    (h : w.writeAttributes out attributes = .ok out') : out <:+ out' := by
  rw [writeAttributes_eq, map_eq_ok_iff] at h
  obtain ⟨written, -, rfl⟩ := h
  exact isSuffix_put _ out

theorem isSuffix_writeText (preserve : Bool) (out : List Char) (content : String) :
    out <:+ w.writeText preserve out content := by
  rw [writeText]
  dsimp only
  split
  · exact isSuffix_put _ out
  · split
    · exact List.suffix_refl out
    · exact isSuffix_put _ out

theorem isSuffix_writeComment (out : List Char) (content : String) : out <:+ w.writeComment out content := by
  rw [writeComment]
  split
  · exact isSuffix_put _ out
  · exact List.suffix_refl out

theorem isSuffix_of_writeNodes_of_writeNode {nodes : List Node}
    (h : ∀ node ∈ nodes, ∀ preserve address {out out'},
      w.writeNode preserve address out node = .ok out' → out <:+ out')
    {preserve : Bool} {address : Address} {start : Nat}
    (hwritten : w.writeNodes preserve address start out nodes = .ok out') : out <:+ out' := by
  induction nodes generalizing start out with
  | nil =>
      obtain rfl := Except.ok.inj hwritten
      exact List.suffix_refl out
  | cons node rest ih =>
      rw [List.forall_mem_cons] at h
      rw [writeNodes_cons] at hwritten
      obtain ⟨between, hnode, hrest⟩ := bind_eq_ok_iff.mp hwritten
      exact (h.1 _ _ hnode).trans (ih h.2 hrest)

section Element

variable {address : Address} {name : ElementName} {attributes : List Attribute} {children : List Node}
  (hchildren : ∀ {preserve out out'}, w.writeNodes preserve address 0 out children = .ok out' → out <:+ out')
include hchildren

theorem isSuffix_of_writeInside {preserve : Bool} {tag : String}
    (h : w.writeInside preserve address tag out children = .ok out') : out <:+ out' := by
  rw [writeInside] at h
  split at h
  · obtain ⟨body, -, rfl⟩ := map_eq_ok_iff.mp h
    exact isSuffix_put _ out
  · exact hchildren h

/-- An element is written behind its name. -/
theorem isSuffix_of_writeNode_element {preserve : Bool} (hskips : w.skips address = false)
    (h : w.writeNode preserve address out (.element name attributes children) = .ok out') :
    put ('<' :: name.name.toList) out <:+ out' := by
  rw [writeNode_element, hskips, if_neg Bool.false_ne_true] at h
  obtain ⟨opened, hopened, h⟩ := bind_eq_ok_iff.mp h
  have hstart : put ('<' :: name.name.toList) out <:+ put ['>'] opened :=
    (isSuffix_of_writeAttributes hopened).trans (isSuffix_put _ opened)
  split at h
  · obtain rfl := Except.ok.inj h
    exact hstart
  · obtain ⟨inside, hinside, rfl⟩ := map_eq_ok_iff.mp h
    exact hstart.trans ((isSuffix_of_writeInside hchildren hinside).trans (isSuffix_put _ inside))

end Element

/-- What was written before a node stays. -/
theorem isSuffix_of_writeNode {preserve : Bool} {address : Address} {node : Node}
    (h : w.writeNode preserve address out node = .ok out') : out <:+ out' := by
  induction node using Node.childInduction generalizing preserve address out out' with
  | step node ih =>
      have hchildren : ∀ {preserve out out'},
          w.writeNodes preserve address 0 out node.children = .ok out' → out <:+ out' :=
        isSuffix_of_writeNodes_of_writeNode fun child hchild _ _ _ _ h => ih child hchild h
      cases hskips : w.skips address with
      | true =>
          rw [writeNode_of_skips hskips] at h
          obtain rfl := Except.ok.inj h
          exact List.suffix_refl out
      | false =>
          cases node with
          | element name attributes children =>
              exact (isSuffix_put _ out).trans (isSuffix_of_writeNode_element hchildren hskips h)
          | text content =>
              rw [writeNode, hskips, if_neg Bool.false_ne_true] at h
              obtain rfl := Except.ok.inj h
              exact isSuffix_writeText preserve out content
          | comment content =>
              rw [writeNode, hskips, if_neg Bool.false_ne_true] at h
              obtain rfl := Except.ok.inj h
              exact isSuffix_writeComment out content
          | doctype =>
              obtain rfl := Except.ok.inj h
              exact List.suffix_refl out
          | contents children =>
              rw [writeNode, hskips, if_neg Bool.false_ne_true] at h
              exact hchildren h

/-- The markup of an element that is not left out begins with its name. -/
theorem isPrefix_of_write {located : Located} {tag markup : String} (htag : located.node.tag? = some tag)
    (hskips : w.skips located.address = false) (h : w.write located = .ok markup) :
    '<' :: tag.toList <+: markup.toList := by
  obtain ⟨address, node⟩ := located
  cases node with
  | element name attributes children =>
      obtain rfl := Option.some.inj htag
      obtain ⟨out, hout, rfl⟩ := map_eq_ok_iff.mp h
      have hsuffix := isSuffix_of_writeNode_element
        (isSuffix_of_writeNodes_of_writeNode fun _ _ _ _ _ _ => isSuffix_of_writeNode) hskips hout
      rw [String.toList_ofList]
      simpa [put] using List.reverse_prefix.mpr hsuffix
  | text | comment | doctype | contents => cases htag

end Markup.Writer

/-! ### External links and scripts -/

namespace Markup.Node

/-- A link to a path that names its own host or scheme. -/
def isExternalLink (node : Node) : Bool :=
  node.tag? == some "link" && Link.isExternal (node.attributeValue "href")

/-- A script from a path that names its own host or scheme. -/
def isExternalScript (node : Node) : Bool :=
  node.tag? == some "script" && Link.isExternal (node.attributeValue "src")

theorem isLocalScript_of_isExternalScript {node : Node} (h : node.isExternalScript = true) :
    node.isLocalScript = false := by
  rw [isExternalScript, Bool.and_eq_true] at h
  rw [isLocalScript, h.1, h.2]
  rfl

theorem isLocalScript_of_isExternalLink {node : Node} (h : node.isExternalLink = true) :
    node.isLocalScript = false := by
  rw [isExternalLink, Bool.and_eq_true, beq_iff_eq] at h
  simp [isLocalScript, h.1]

end Markup.Node

theorem Role.ofNode?_eq_other_of_external {node : Node}
    (h : node.isExternalLink = true ∨ node.isExternalScript = true) : ofNode? node = some .other := by
  have hempty := isExternal_empty
  rw [Node.isExternalLink, Node.isExternalScript, Node.attributeValue, Node.attributeValue] at h
  rw [ofNode?]
  cases htag : node.tag? with
  | none => simp [htag] at h
  | some name =>
      simp only [htag, Option.map_some, Option.some.injEq, ofElement] at h ⊢
      split_ifs <;> simp_all

namespace Statement

/-- The markup that a statement adds to the page. -/
def addedMarkup? : Statement → Option String
  | registerMarkup .toBody markup => some markup
  | _ => none

end Statement

/-- What it means that the statements of a module leave external resources to the page. -/
structure Document.LeavesExternal (document : Document) (loader : Loader) (statements : List Statement) :
    Prop where
  /-- Whatever is imported is local. -/
  importFrom : ∀ specifier, .importFrom specifier ∈ statements → Link.isExternal specifier = false
  /-- The statements that add markup to the page are those for the other nodes, one for each in order. -/
  written : Written (loader.generator.writer (Partition.ofDocument document))
    (Partition.ofDocument document).otherNodes (statements.filterMap Statement.addedMarkup?)
  /-- An external link or script of the top level is one of these nodes, and has markup. -/
  added : ∀ top ∈ document.topLevel, top.node.isExternalLink = true ∨ top.node.isExternalScript = true →
    ∃ (i : Nat) (markup : String), (Partition.ofDocument document).otherNodes[i]? = some top ∧
      (∀ j, (Partition.ofDocument document).otherNodes[j]? = some top → j = i) ∧
      (statements.filterMap Statement.addedMarkup?)[i]? = some markup ∧
      (loader.generator.writer (Partition.ofDocument document)).write top = .ok markup ∧ markup ≠ ""
  /-- An external script directly in a template module is not left out of its markup. -/
  not_mem_extracted : ∀ module ∈ document.topLevel, module.node.isTemplateModule = true →
    ∀ child ∈ module.children, child.node.isExternalScript = true →
      child.address ∉ (Partition.ofDocument document).extracted

namespace Generator

variable {g : Generator} {document : Document}

theorem isExternal_of_mem_linkStatements {specifier : String}
    (h : .importFrom specifier ∈ g.linkStatements (Partition.ofDocument document).links) :
    Link.isExternal specifier = false := by
  rw [linkStatements, List.mem_map] at h
  obtain ⟨href, hhref, hspecifier⟩ := h
  obtain rfl := Statement.importFrom.inj hspecifier
  obtain ⟨link, hlink, rfl⟩ := List.mem_map.mp (List.mem_filter.mp hhref).1
  rw [Partition.ofDocument_eq, List.mem_filter, Partition.hasRole, beq_iff_eq,
    Role.ofNode?_eq_link_iff] at hlink
  exact Link.isExternal_specifier g.options hlink.2.2

theorem isExternal_of_mem_scripts {specifier : String}
    (h : .importFrom specifier ∈ (Partition.ofDocument document).scripts.map scriptStatement) :
    Link.isExternal specifier = false := by
  obtain ⟨script, hscript, hspecifier⟩ := List.mem_map.mp h
  rw [scriptStatement] at hspecifier
  split at hspecifier
  · cases hspecifier
  · obtain rfl := Statement.importFrom.inj hspecifier
    rw [Partition.ofDocument_eq] at hscript
    have hlocal := (Bool.and_eq_true_iff.mp (List.mem_filter.mp hscript).2).1
    rw [Node.isLocalScript, Bool.and_eq_true, Bool.not_eq_true'] at hlocal
    exact Link.isExternal_relativeSpecifier hlocal.2

variable {statements : List Statement}

theorem isExternal_of_mem_statements {specifier : String}
    (h : g.statements (Partition.ofDocument document) = .ok statements)
    (hspecifier : .importFrom specifier ∈ statements) : Link.isExternal specifier = false := by
  obtain ⟨registered, added, -, -, rfl⟩ := statements_eq_ok_iff.mp h
  simp only [List.mem_append] at hspecifier
  rcases hspecifier with (((hlink | hhelper) | hregistered) | hadded) | hscript
  · exact isExternal_of_mem_linkStatements hlink
  · rw [helperStatements] at hhelper
    split at hhelper <;> simp at hhelper
  · simp at hregistered
  · simp at hadded
  · exact isExternal_of_mem_scripts hscript

theorem written_addedMarkup {p : Partition} (h : g.statements p = .ok statements) :
    Written (g.writer p) p.otherNodes (statements.filterMap Statement.addedMarkup?) := by
  obtain ⟨registered, added, -, hadded, rfl⟩ := statements_eq_ok_iff.mp h
  have hlinks : (g.linkStatements p.links).filterMap Statement.addedMarkup? = [] := by
    rw [linkStatements, List.filterMap_map, List.filterMap_eq_nil_iff]
    exact fun _ _ => rfl
  have hhelper : (g.helperStatements p).filterMap Statement.addedMarkup? = [] := by
    rw [helperStatements]
    split <;> rfl
  have hregistered : (registered.map (Statement.registerMarkup .register)).filterMap
      Statement.addedMarkup? = [] := by
    rw [List.filterMap_map, List.filterMap_eq_nil_iff]
    exact fun _ _ => rfl
  have hmarkups : (added.map (Statement.registerMarkup .toBody)).filterMap Statement.addedMarkup? =
      added := by
    rw [List.filterMap_map]
    exact List.filterMap_some
  have hscripts : (p.scripts.map scriptStatement).filterMap Statement.addedMarkup? = [] := by
    rw [List.filterMap_map, List.filterMap_eq_nil_iff]
    intro script _
    rw [Function.comp_apply, scriptStatement]
    split <;> rfl
  rw [List.filterMap_append, List.filterMap_append, List.filterMap_append, List.filterMap_append, hlinks,
    hhelper, hregistered, hmarkups, hscripts]
  simpa using hadded

end Generator

theorem Written.exists_of_getElem? {w : Writer} {nodes : List Located} {markups : List String}
    (h : Written w nodes markups) {i : Nat} {node : Located} (hi : nodes[i]? = some node) :
    ∃ markup, markups[i]? = some markup ∧ w.write node = .ok markup := by
  induction h generalizing i with
  | nil => cases hi
  | cons hwrite _ ih =>
      cases i with
      | zero =>
          obtain rfl := Option.some.inj hi
          exact ⟨_, rfl, hwrite⟩
      | succ i => exact ih hi

/-- An external link or script of the top level is written, behind its name. -/
theorem Generator.write_external {g : Generator} {document : Document} {top : Located} {markup : String}
    (htop : top ∈ document.topLevel)
    (h : top.node.isExternalLink = true ∨ top.node.isExternalScript = true)
    (hwrite : (g.writer (Partition.ofDocument document)).write top = .ok markup) : markup ≠ "" := by
  have hlocal : top.node.isLocalScript = false :=
    h.elim Node.isLocalScript_of_isExternalLink Node.isLocalScript_of_isExternalScript
  have hskips : (g.writer (Partition.ofDocument document)).skips top.address = false := by
    rw [writer_eq_leavingOut, Writer.skips_leavingOut, Partition.contains_extracted
      (Document.mem_inOrder_of_mem_topLevel htop) (Or.inl htop), hlocal]
  obtain ⟨tag, htag⟩ : ∃ tag, top.node.tag? = some tag := by
    simp only [Node.isExternalLink, Node.isExternalScript, Bool.and_eq_true, beq_iff_eq] at h
    exact h.elim (fun h => ⟨_, h.1⟩) fun h => ⟨_, h.1⟩
  rintro rfl
  simpa using Writer.isPrefix_of_write htag hskips hwrite

theorem Document.leavesExternal {loader : Loader} {document : Document} {statements : List Statement}
    (h : loader.generator.statements (Partition.ofDocument document) = .ok statements) :
    document.LeavesExternal loader statements where
  importFrom := fun _ hspecifier => Generator.isExternal_of_mem_statements h hspecifier
  written := Generator.written_addedMarkup h
  added := by
    intro top htop hexternal
    have hother : top ∈ (Partition.ofDocument document).otherNodes := by
      rw [Partition.ofDocument_eq, List.mem_filter, Partition.hasRole,
        Role.ofNode?_eq_other_of_external hexternal]
      exact ⟨htop, rfl⟩
    obtain ⟨i, hi⟩ := List.mem_iff_getElem?.mp hother
    obtain ⟨markup, hmarkup, hwrite⟩ := (Generator.written_addedMarkup h).exists_of_getElem? hi
    have hnodup : (Partition.ofDocument document).otherNodes.Nodup := by
      rw [Partition.ofDocument_eq]
      exact (document.pairwise_inOrder.sublist
        (List.filter_sublist.trans document.topLevel_sublist_inOrder)).nodup
    refine ⟨i, markup, hi, fun j hj => ?_, hmarkup, hwrite, Generator.write_external htop hexternal hwrite⟩
    obtain ⟨hlt, -⟩ := List.getElem?_eq_some_iff.mp hj
    exact (List.getElem?_inj hlt hnodup).mp (hj.trans hi.symm)
  not_mem_extracted := fun _ hmodule _ _ hchild hexternal => Partition.not_mem_extracted
    (Document.mem_inOrder_of_mem_children (Document.mem_inOrder_of_mem_topLevel hmodule) hchild)
    (Node.isLocalScript_of_isExternalScript hexternal)

/-- A module imports nothing that names its own host or scheme, and what does so in the document is neither
lost nor run as a part of the module. -/
theorem leavesExternal_of_transform {loader : Loader} {document : Document} {resource : String}
    {module : ModuleText} (h : loader.transform document resource = .ok module) :
    ∃ statements, loader.generator.statements (Partition.ofDocument document) = .ok statements ∧
      module = ModuleText.ofStatements statements ∧ document.LeavesExternal loader statements := by
  obtain ⟨statements, hstatements, hmodule⟩ := Loader.transform_eq_ok_iff.mp h
  exact ⟨statements, hstatements, hmodule, Document.leavesExternal hstatements⟩

/-- An external link and a local one whose path is kept, an external script, and a template module with a
script of either kind. -/
def linksAndScripts : Document :=
  { nodes := [
      .element ⟨.html, "link"⟩ [⟨.plain, "href", "//x/a.css"⟩] [],
      .element ⟨.html, "link"⟩ [⟨.plain, "href", "lib/a.html"⟩] [],
      .element ⟨.html, "script"⟩ [⟨.plain, "src", "https://x/b.js"⟩] [],
      .element ⟨.html, "dom-module"⟩ [] [
        .element ⟨.html, "script"⟩ [⟨.plain, "src", "data:,c"⟩] [],
        .element ⟨.html, "script"⟩ [⟨.plain, "src", "lib/d.js"⟩] []]]
    roots := {} }

/-- A loader that keeps the paths of a library. -/
def Loader.keepingLibrary : Loader :=
  { options := { keptFragments := ["lib"], registerHelper := "r" }, engine := ⟨.ok, .ok⟩ }

def linksAndScriptsSource : String :=
  "\nimport 'lib/a.html';\n\nconst RegisterHtmlTemplate = require('r');\n" ++
    "\nRegisterHtmlTemplate.register(\"<dom-module><script src=\\\"data:,c\\\"></script></dom-module>\");\n" ++
    "\nRegisterHtmlTemplate.toBody(\"<link href=\\\"//x/a.css\\\">\");\n" ++
    "\nRegisterHtmlTemplate.toBody(\"<script src=\\\"https://x/b.js\\\"></script>\");\n" ++
    "\nimport './lib/d.js';\n"

theorem leavesExternal_of_transform_linksAndScripts :
    Loader.keepingLibrary.transform linksAndScripts "x.html" = .ok ⟨linksAndScriptsSource, "", 10, 2⟩ ∧
    ∃ statements, Loader.keepingLibrary.generator.statements (Partition.ofDocument linksAndScripts) =
        .ok statements ∧
      ⟨linksAndScriptsSource, "", 10, 2⟩ = ModuleText.ofStatements statements ∧
      linksAndScripts.LeavesExternal .keepingLibrary statements := by
  have h : Loader.keepingLibrary.transform linksAndScripts "x.html" =
      .ok ⟨linksAndScriptsSource, "", 10, 2⟩ := by
    decide +kernel
  exact ⟨h, leavesExternal_of_transform h⟩

end MarkupModule
