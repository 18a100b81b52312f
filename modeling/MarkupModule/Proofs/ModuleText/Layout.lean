import MarkupModule.Proofs.ModuleText.Statements
import MarkupModule.Proofs.Partition.Buckets

/-! The text of the module for a document, part by part. Each part is said of the document itself: which
of its top-level nodes are imported, registered and added, and which of its scripts follow. The module
that is generated is these parts in order, so what a template module registers is registered before any
script runs. -/

namespace MarkupModule

open Markup

namespace Document

/-- The path of a local link, if it has one and it is not left out. -/
def importedPath? (options : Options) (node : Node) : Option String :=
  let href := node.attributeValue "href"
  if node.tag? = some "link" ∧ Link.isExternal href = false ∧ href ≠ "" ∧
      Link.isIgnored options href = false then some href
  else none

def isAdded (node : Node) : Bool :=
  Role.ofNode? node == some .other

def importText (specifier : String) : String :=
  "\nimport '" ++ specifier ++ "';\n"

/-- The text that makes the functions known that register markup. -/
def helperText (module : String) : String :=
  "\nconst RegisterHtmlTemplate = require('" ++ module ++ "');\n"

def callText (method markup : String) : String :=
  "\nRegisterHtmlTemplate." ++ method ++ "(" ++ String.ofList (Json.quote markup.toList) ++ ");\n"

/-- The text for a script: an import of the file it names, or else its own text. -/
def scriptText (script : Node) : String :=
  let src := script.attributeValue "src"
  if src ≠ "" then importText (Link.relativeSpecifier src) else "\n" ++ script.innerText ++ "\n"

def linkPart (document : Document) (options : Options) : String :=
  String.join <| (document.topLevel.filterMap fun located => importedPath? options located.node).map
    fun href => importText (Link.specifier options href)

/-- Whether a top-level node is registered or added to the page. -/
def needsHelper (document : Document) : Bool :=
  document.topLevel.any fun located => located.node.isTemplateModule || isAdded located.node

/-- The functions that register markup, if there is any to register or to add. -/
def helperPart (document : Document) (options : Options) : String :=
  if document.needsHelper then helperText options.registerHelper else ""

/-- The registrations of a list of markups. -/
def callPart (method : String) (markups : List String) : String :=
  String.join (markups.map (callText method))

def scriptPart (document : Document) : String :=
  String.join (document.localScripts.map fun script => scriptText script.node)

/-- The writer for the markup of a document: it leaves out the scripts of the module. -/
def markupWriter (document : Document) (loader : Loader) : Writer :=
  ⟨loader.minification, loader.engine, (document.localScripts.map (·.address)).contains⟩

end Document

namespace Partition

theorem templateModules_ofDocument (document : Document) :
    (ofDocument document).templateModules =
      document.topLevel.filter fun located => located.node.isTemplateModule := by
  rw [ofDocument_eq]
  exact List.filter_congr fun located _ => hasRole_templateModule located

theorem otherNodes_ofDocument (document : Document) :
    (ofDocument document).otherNodes =
      document.topLevel.filter fun located => Document.isAdded located.node := by
  rw [ofDocument_eq]
  rfl

end Partition

/-! ### The statements of a module as its parts -/

namespace Generator

variable (g : Generator) (document : Document)

theorem linkHrefs_eq (options : Options) (nodes : List Located) :
    (((nodes.filter (Partition.hasRole .link)).map fun link =>
      link.node.attributeValue "href").filter fun href => !href.isEmpty && !Link.isIgnored options href) =
      nodes.filterMap fun located => Document.importedPath? options located.node := by
  induction nodes with
  | nil => rfl
  | cons node rest ih =>
      have hrole : Partition.hasRole .link node = true ↔ node.node.tag? = some "link" ∧
          Link.isExternal (node.node.attributeValue "href") = false := by
        rw [Partition.hasRole, beq_iff_eq]
        exact Role.ofNode?_eq_link_iff
      rw [List.filterMap_cons, ← ih, Document.importedPath?]
      by_cases hlink : Partition.hasRole .link node = true
      · have := hrole.mp hlink
        rw [List.filter_cons_of_pos hlink, List.map_cons, List.filter_cons]
        simp only [this, true_and, Bool.and_eq_true, Bool.not_eq_true', ne_eq]
        split_ifs <;> simp_all
      · have hnot : ¬(node.node.tag? = some "link" ∧
            Link.isExternal (node.node.attributeValue "href") = false) := fun h => hlink (hrole.mpr h)
        rw [List.filter_cons_of_neg hlink, if_neg (fun h => hnot ⟨h.1, h.2.1⟩)]

theorem linkPart_eq :
    String.join ((g.linkStatements (Partition.ofDocument document).links).map Statement.source) =
      document.linkPart g.options := by
  rw [Partition.ofDocument_eq, Document.linkPart, ← linkHrefs_eq]
  simp only [linkStatements, List.map_map, Function.comp_def, Statement.source, Document.importText]

theorem needsRegisterHelper_ofDocument :
    (Partition.ofDocument document).needsRegisterHelper = document.needsHelper := by
  rw [Partition.ofDocument_eq, Partition.needsRegisterHelper, Document.needsHelper, Bool.eq_iff_iff]
  simp only [Bool.or_eq_true, Bool.not_eq_true', List.isEmpty_eq_false_iff_exists_mem, List.mem_filter,
    Partition.hasRole_templateModule, List.any_eq_true]
  constructor
  · rintro (⟨node, hnode, h⟩ | ⟨node, hnode, h⟩)
    · exact ⟨node, hnode, Or.inl h⟩
    · exact ⟨node, hnode, Or.inr h⟩
  · rintro ⟨node, hnode, h | h⟩
    · exact Or.inl ⟨node, hnode, h⟩
    · exact Or.inr ⟨node, hnode, h⟩

theorem helperPart_eq :
    String.join ((g.helperStatements (Partition.ofDocument document)).map Statement.source) =
      document.helperPart g.options := by
  rw [helperStatements, Document.helperPart, needsRegisterHelper_ofDocument]
  split
  · rw [List.map_singleton, String.join_cons, String.join_nil, String.append_empty]
    rfl
  · rfl

theorem callPart_eq (registration : Registration) (markups : List String) :
    String.join ((markups.map (Statement.registerMarkup registration)).map Statement.source) =
      Document.callPart registration.method markups := by
  rw [List.map_map]
  rfl

theorem source_scriptStatement (script : Located) :
    (scriptStatement script).source = Document.scriptText script.node := by
  rw [scriptStatement, Document.scriptText]
  simp only [String.isEmpty_iff]
  split <;> simp_all [Statement.source, Document.importText]

theorem scriptPart_eq :
    String.join (((Partition.ofDocument document).scripts.map scriptStatement).map Statement.source) =
      document.scriptPart := by
  rw [Partition.ofDocument_eq, List.map_map]
  simp only [Function.comp_def, source_scriptStatement]
  rfl

/-- The statements for a document, once its nodes are written, are its parts in order. -/
theorem source_ofStatements (loader : Loader) (registered added : List String) :
    (ModuleText.ofStatements (loader.generator.linkStatements (Partition.ofDocument document).links ++
        loader.generator.helperStatements (Partition.ofDocument document) ++
        registered.map (.registerMarkup .register) ++ added.map (.registerMarkup .toBody) ++
        (Partition.ofDocument document).scripts.map scriptStatement)).source =
      document.linkPart loader.options ++ document.helperPart loader.options ++
        Document.callPart "register" registered ++ Document.callPart "toBody" added ++
        document.scriptPart := by
  rw [ModuleText.ofStatements]
  simp only [List.map_append, String.join_append]
  rw [linkPart_eq, helperPart_eq, callPart_eq, callPart_eq, scriptPart_eq]
  rfl

theorem writer_ofDocument (loader : Loader) :
    loader.generator.writer (Partition.ofDocument document) = document.markupWriter loader := by
  rw [Partition.ofDocument_eq]
  rfl

end Generator

theorem String.exists_split_join {s : String} {l : List String} (h : s ∈ l) :
    ∃ before after, String.join l = before ++ s ++ after := by
  obtain ⟨first, second, rfl⟩ := List.append_of_mem h
  exact ⟨String.join first, String.join second, by simp [String.append_assoc]⟩

/-- The module for a document. It imports the local links that have a path and are not left out, makes
the functions known that register markup if there is any to register, registers the template modules,
adds all other nodes to the page, and runs the local scripts, each of these in document order. Every
registration of a template module stands before every script. -/
theorem source_of_transform {loader : Loader} {document : Document} {resource : String}
    {module : ModuleText} (h : loader.transform document resource = .ok module) :
    ∃ registered added,
      Written (document.markupWriter loader)
        (document.topLevel.filter fun located => located.node.isTemplateModule) registered ∧
      Written (document.markupWriter loader)
        (document.topLevel.filter fun located => Document.isAdded located.node) added ∧
      module.source = document.linkPart loader.options ++ document.helperPart loader.options ++
        Document.callPart "register" registered ++ Document.callPart "toBody" added ++
        document.scriptPart ∧
      ∀ markup ∈ registered, ∀ script ∈ document.localScripts, ∃ before between after,
        module.source = before ++ Document.callText "register" markup ++ between ++
          Document.scriptText script.node ++ after := by
  obtain ⟨statements, hstatements, rfl⟩ := Loader.transform_eq_ok_iff.mp h
  obtain ⟨registered, added, hregistered, hadded, rfl⟩ := Generator.statements_eq_ok_iff.mp hstatements
  rw [Generator.writer_ofDocument, Partition.templateModules_ofDocument] at hregistered
  rw [Generator.writer_ofDocument, Partition.otherNodes_ofDocument] at hadded
  have hsource := Generator.source_ofStatements document loader registered added
  refine ⟨registered, added, hregistered, hadded, hsource, ?_⟩
  intro markup hmarkup script hscript
  obtain ⟨before, between, hcalls⟩ := String.exists_split_join
    (List.mem_map_of_mem (f := Document.callText "register") hmarkup)
  obtain ⟨first, after, hscripts⟩ := String.exists_split_join
    (List.mem_map_of_mem (f := fun script : Located => Document.scriptText script.node) hscript)
  refine ⟨document.linkPart loader.options ++ document.helperPart loader.options ++ before,
    between ++ Document.callPart "toBody" added ++ first, after, ?_⟩
  rw [hsource, Document.callPart, hcalls, Document.scriptPart, hscripts]
  simp only [String.append_assoc]

/-- A document of a template module that holds a script, and a link behind it. -/
def moduleAndLink : Document :=
  { nodes := [
      .element ⟨.html, "dom-module"⟩ [] [.element ⟨.html, "script"⟩ [] [.text "run()"]],
      .element ⟨.html, "link"⟩ [⟨.plain, "href", "a.html"⟩] []]
    roots := {} }

def moduleAndLinkSource : String :=
  "\nimport './a.html';\n\nconst RegisterHtmlTemplate = require('r');\n" ++
    "\nRegisterHtmlTemplate.register(\"<dom-module></dom-module>\");\n\nrun()\n"

theorem source_of_transform_moduleAndLink :
    Loader.keepingStyles.transform moduleAndLink "x.html" =
      .ok ⟨moduleAndLinkSource, "", 6, 1⟩ ∧
    ∃ registered added,
      Written (moduleAndLink.markupWriter .keepingStyles)
        (moduleAndLink.topLevel.filter fun located => located.node.isTemplateModule) registered ∧
      Written (moduleAndLink.markupWriter .keepingStyles)
        (moduleAndLink.topLevel.filter fun located => Document.isAdded located.node) added ∧
      moduleAndLinkSource =
        moduleAndLink.linkPart Loader.keepingStyles.options ++
          moduleAndLink.helperPart Loader.keepingStyles.options ++
          Document.callPart "register" registered ++ Document.callPart "toBody" added ++
          moduleAndLink.scriptPart ∧
      ∀ markup ∈ registered, ∀ script ∈ moduleAndLink.localScripts, ∃ before between after,
        moduleAndLinkSource =
          before ++ Document.callText "register" markup ++ between ++
            Document.scriptText script.node ++ after := by
  have h : Loader.keepingStyles.transform moduleAndLink "x.html" =
      .ok ⟨moduleAndLinkSource, "", 6, 1⟩ := by
    decide +kernel
  exact ⟨h, source_of_transform h⟩

end MarkupModule
