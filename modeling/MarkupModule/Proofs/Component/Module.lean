import MarkupModule.Proofs.Component.Parsing
import MarkupModule.Proofs.Minification.Markup
import MarkupModule.Proofs.ModuleText.Layout

/-! The module for a component file. What becomes of a node depends on the node alone but for the scripts
that are left out of a template module, so each part of the module is the same part computed from the
items. -/

namespace MarkupModule

open Markup
open Markup.Writer

theorem ScriptItem.isLocalScript_node (s : ScriptItem) : s.node.isLocalScript = !s.isExternal := by
  cases s with
  | file src => rfl
  | inline body => exact congrArg Bool.not Role.isExternal_empty

/-! ### The markup of an item -/

namespace Markup.Writer

variable {w : Writer} {address : Address}

theorem writeAttributes_single (key : String) (hstyle : (key == "style") = false)
    (hclass : (key == "class") = false) (value : String) (out : List Char) :
    w.writeAttributes out [⟨.plain, key, value⟩] =
      .ok (put (attributesText [(key.toList, escapeAttribute value.toList)]) out) := by
  have hvalue : w.attributeValue ⟨.plain, key, value⟩ = .ok value := by
    rw [attributeValue, hstyle, hclass]
    rfl
  rw [writeAttributes, hvalue]
  change Except.ok (put _ out) = _
  simp [attributesText]

theorem writeNode_link (hskips : w.skips address = false) (preserve : Bool) (out : List Char)
    (href : String) :
    w.writeNode preserve address out (Item.link href).node = .ok (put (Item.link href).text out) := by
  have hattributes := writeAttributes_single (w := w) "href" rfl rfl href
    (put ('<' :: "link".toList) out)
  rw [Item.node, writeNode, hskips, if_neg Bool.false_ne_true]
  dsimp only
  rw [hattributes]
  change Except.ok _ = _
  rw [← put_append, ← put_append, Item.text, Item.linkTag, Tag.text]
  simp

/-- A script file is written as its start tag and its end tag. -/
theorem writeNode_file (hskips : w.skips address = false) (preserve : Bool) (out : List Char)
    (src : String) :
    w.writeNode preserve address out (ScriptItem.file src).node =
      .ok (put (ScriptItem.file src).text out) := by
  have hattributes := writeAttributes_single (w := w) "src" rfl rfl src
    (put ('<' :: "script".toList) out)
  rw [ScriptItem.node, writeNode, hskips, if_neg Bool.false_ne_true]
  change (w.writeAttributes (put ('<' :: "script".toList) out) [⟨.plain, "src", src⟩] >>= _) = _
  rw [hattributes]
  change Except.ok (put ("</".toList ++ "script".toList ++ ['>']) (put [] (put ['>'] (put _ (put _ out))))) = _
  rw [← put_append, ← put_append, ← put_append, ← put_append, ScriptItem.text, ScriptItem.tag, Tag.text]
  simp [scriptEnd, ScriptItem.body]

/-- The scripts of a template module are written without those that are left out of it. -/
theorem writeNodes_scripts (preserve : Bool) {scripts : List ScriptItem} {start : Nat}
    (hskips : ∀ c ∈ locate address start (scripts.map ScriptItem.node),
      w.skips c.address = c.node.isLocalScript) (out : List Char) :
    w.writeNodes preserve address start out (scripts.map ScriptItem.node) =
      .ok (put ((scripts.filter ScriptItem.isExternal).flatMap ScriptItem.text) out) := by
  induction scripts generalizing start out with
  | nil => rfl
  | cons s rest ih =>
      rw [List.map_cons, locate, List.forall_mem_cons, ScriptItem.isLocalScript_node] at hskips
      obtain ⟨hskip, hrest⟩ := hskips
      rw [List.map_cons, writeNodes]
      cases hs : s.isExternal with
      | false =>
          rw [hs] at hskip
          have hnode : w.writeNode preserve (address ++ [start]) out s.node = .ok out := by
            rw [ScriptItem.node, writeNode, hskip, Bool.not_false, if_pos rfl]
          rw [hnode, List.filter_cons_of_neg (by rw [hs]; exact Bool.false_ne_true)]
          exact ih hrest out
      | true =>
          rw [hs] at hskip
          have hnode : w.writeNode preserve (address ++ [start]) out s.node = .ok (put s.text out) := by
            cases s with
            | file src => exact writeNode_file hskip preserve out src
            | inline body => cases hs
          rw [hnode, List.filter_cons_of_pos hs, List.flatMap_cons, put_append]
          exact ih hrest (put s.text out)

/-- A template module is written with the scripts that stay in it. -/
theorem writeNode_templateModule (hskips : w.skips address = false) {scripts : List ScriptItem}
    (hscripts : ∀ c ∈ locate address 0 (scripts.map ScriptItem.node),
      w.skips c.address = c.node.isLocalScript) (out : List Char) :
    w.writeNode false address out (Item.templateModule scripts).node =
      .ok (put (Item.templateModule (scripts.filter ScriptItem.isExternal)).text out) := by
  rw [Item.node, writeNode, hskips, if_neg Bool.false_ne_true]
  change (w.writeNodes (false || keepsWhitespace "dom-module") address 0
    (put ['>'] (put ('<' :: "dom-module".toList) out)) (scripts.map ScriptItem.node) >>= _) = _
  rw [writeNodes_scripts _ hscripts]
  change Except.ok (put ("</".toList ++ "dom-module".toList ++ ['>'])
    (put _ (put ['>'] (put ('<' :: "dom-module".toList) out)))) = _
  rw [← put_append, ← put_append, ← put_append, Item.text, Item.moduleTag, Tag.text]
  simp [attributesText, Item.moduleEnd]

theorem write_of_writeNode {located : Located} {s : String}
    (h : w.writeNode false located.address [] located.node = .ok (put s.toList [])) :
    w.write located = .ok s := by
  rw [write, h]
  simp [put, Except.map]

end Markup.Writer

/-! ### The parts of the module -/

namespace Item

theorem importedPath?_node (options : Options) (item : Item) :
    (Document.importedPath? options item.node).map (fun href =>
      Statement.importFrom (Link.specifier options href)) = item.importStatement? options := by
  cases item with
  | link href =>
      change Option.map _ (if some "link" = some "link" ∧ Link.isExternal href = false ∧ href ≠ "" ∧
        Link.isIgnored options href = false then some href else none) = _
      rw [importStatement?]
      simp only [true_and]
      split <;> rfl
  | script s => rfl
  | templateModule scripts => rfl

theorem isTemplateModule_node (item : Item) : item.node.isTemplateModule = item.registered?.isSome := by
  cases item <;> rfl

theorem isAdded_node (item : Item) : Document.isAdded item.node = item.added?.isSome := by
  cases item with
  | link href =>
      change (some (if Link.isExternal href then Role.other else Role.link) == some Role.other) = _
      rw [added?]
      cases Link.isExternal href <;> rfl
  | script s =>
      cases s with
      | file src =>
          change (some (if src.isEmpty then Role.inlineScript
            else if Link.isExternal src then Role.other else Role.scriptFile) == some Role.other) = _
          rw [added?, ScriptItem.isExternal]
          by_cases hempty : src = ""
          · subst hempty
            rw [Role.isExternal_empty]
            rfl
          · rw [String.isEmpty_eq_false_iff.mpr hempty]
            cases Link.isExternal src <;> rfl
      | inline body => rfl
  | templateModule scripts => rfl

theorem needsHelper_node (item : Item) :
    (item.node.isTemplateModule || Document.isAdded item.node) = item.needsHelper := by
  rw [isTemplateModule_node, isAdded_node]
  cases item with
  | link href =>
      rw [needsHelper, registered?, added?]
      cases Link.isExternal href <;> rfl
  | script s =>
      rw [needsHelper, registered?, added?]
      cases s.isExternal <;> rfl
  | templateModule scripts => rfl

end Item

theorem ScriptItem.innerText_node (s : ScriptItem) : s.node.innerText = String.ofList s.body := by
  rw [node, Node.innerText, Node.children]
  split
  · rename_i h
    rw [h]
    rfl
  · rw [List.filterMap_cons, List.filterMap_nil, Node.text?, String.join_cons, String.join_nil,
      String.append_empty]

theorem ScriptItem.scriptStatement_node {s : ScriptItem} (hvalid : s.IsValid)
    (hlocal : s.isExternal = false) (address : Address) :
    s.statement? = some (Generator.scriptStatement ⟨address, s.node⟩) := by
  cases s with
  | file src =>
      change (if Link.isExternal src then none else some (Statement.importFrom _)) =
        some (if src.isEmpty then _ else _)
      rw [show Link.isExternal src = false from hlocal, String.isEmpty_eq_false_iff.mpr hvalid.1]
      rfl
  | inline body =>
      have htext := innerText_node (.inline body)
      rw [ScriptItem.body, String.ofList_toList] at htext
      change some (Statement.script body) = some (Statement.script (node (.inline body)).innerText)
      rw [htext]

theorem ScriptItem.statement?_of_isExternal {s : ScriptItem} (h : s.isExternal = true) :
    s.statement? = none := by
  cases s with
  | file src => exact if_pos h
  | inline body => cases h

/-- The statements of the scripts that a template module gives up. -/
theorem ScriptItem.map_scriptStatement_locate {scripts : List ScriptItem}
    (hvalid : ∀ s ∈ scripts, s.IsValid) (address : Address) (start : Nat) :
    ((locate address start (scripts.map node)).filter fun c => c.node.isLocalScript).map
        Generator.scriptStatement = scripts.filterMap statement? := by
  induction scripts generalizing start with
  | nil => rfl
  | cons s rest ih =>
      rw [List.forall_mem_cons] at hvalid
      rw [List.map_cons, locate, List.filter_cons, isLocalScript_node, List.filterMap_cons]
      cases hs : s.isExternal with
      | false =>
          rw [scriptStatement_node hvalid.1 hs (address ++ [start]), ← ih hvalid.2 (start + 1)]
          rfl
      | true =>
          rw [statement?_of_isExternal hs, ← ih hvalid.2 (start + 1)]
          rfl

/-- The statements of the scripts of an item. -/
theorem Item.map_scriptStatement_scriptsOf {item : Item} (hvalid : item.IsValid) (address : Address) :
    (Partition.scriptsOf ⟨address, item.node⟩).map Generator.scriptStatement =
      item.scripts.filterMap ScriptItem.statement? := by
  cases item with
  | link href => rfl
  | script s =>
      have hmodule : s.node.isTemplateModule = false := by cases s <;> rfl
      change (if s.node.isLocalScript then [_] else if s.node.isTemplateModule then _ else []).map _ = _
      rw [ScriptItem.isLocalScript_node, hmodule, scripts, List.filterMap_cons, List.filterMap_nil]
      cases hs : s.isExternal with
      | false =>
          rw [ScriptItem.scriptStatement_node hvalid hs address]
          rfl
      | true =>
          rw [ScriptItem.statement?_of_isExternal hs]
          rfl
  | templateModule scripts =>
      change (Partition.moduleScripts ⟨address, (Item.templateModule scripts).node⟩).map _ = _
      rw [Partition.moduleScripts_eq]
      exact ScriptItem.map_scriptStatement_locate hvalid address 0

/-! ### The module -/

/-- The markups of the nodes of one kind are those of the items of that kind. -/
theorem written_of_items {w : Writer} {p : Node → Bool} {markup? : Item → Option String}
    (hp : ∀ item : Item, p item.node = (markup? item).isSome) {nodes : List Located} {items : List Item}
    (hnodes : nodes.map Located.node = items.map Item.node)
    (hwrite : ∀ located ∈ nodes, ∀ (item : Item) (markup : String), located.node = item.node →
      markup? item = some markup → w.write located = .ok markup) :
    Written w (nodes.filter fun located => p located.node) (items.filterMap markup?) := by
  induction items generalizing nodes with
  | nil =>
      rw [List.map_eq_nil_iff.mp hnodes]
      exact List.Forall₂.nil
  | cons item rest ih =>
      obtain ⟨located, others, rfl, hnode, hothers⟩ := List.map_eq_cons_iff.mp hnodes
      rw [List.forall_mem_cons] at hwrite
      have hrest := ih hothers hwrite.2
      rw [List.filter_cons, List.filterMap_cons, hnode, hp]
      cases hmarkup : markup? item with
      | none => exact hrest
      | some markup => exact List.Forall₂.cons (hwrite.1 item markup hnode hmarkup) hrest

section

variable {g : Generator} {document : Document} {located : Located} {item : Item} {markup : String}

theorem skips_of_mem_topLevel (h : located ∈ document.topLevel) :
    (g.writer (Partition.ofDocument document)).skips located.address = located.node.isLocalScript :=
  Partition.contains_extracted (Document.mem_inOrder_of_mem_topLevel h) (Or.inl h)

theorem write_registered (h : located ∈ document.topLevel) (hnode : located.node = item.node)
    (hmarkup : item.registered? = some markup) :
    (g.writer (Partition.ofDocument document)).write located = .ok markup := by
  cases item with
  | link href => cases hmarkup
  | script s => cases hmarkup
  | templateModule scripts =>
      obtain rfl := Option.some.inj hmarkup
      have htext : (Item.render (.templateModule (scripts.filter ScriptItem.isExternal))).toList =
          (Item.templateModule (scripts.filter ScriptItem.isExternal)).text := Item.toList_render _
      have hskips := skips_of_mem_topLevel (g := g) h
      rw [hnode] at hskips
      apply write_of_writeNode
      change _ = Except.ok (put (Item.render
        (.templateModule (scripts.filter ScriptItem.isExternal))).toList [])
      rw [htext, hnode]
      apply writeNode_templateModule hskips
      intro c hc
      have hchild : c ∈ located.children := by
        rw [Located.children, hnode]
        exact hc
      refine Partition.contains_extracted (Document.mem_inOrder_of_mem_children
        (Document.mem_inOrder_of_mem_topLevel h) hchild) (Or.inr ⟨located, h, ?_, hchild⟩)
      rw [hnode]
      rfl

theorem write_added (h : located ∈ document.topLevel) (hnode : located.node = item.node)
    (hmarkup : item.added? = some markup) :
    (g.writer (Partition.ofDocument document)).write located = .ok markup := by
  have hskips := skips_of_mem_topLevel (g := g) h
  rw [hnode] at hskips
  apply write_of_writeNode
  rw [hnode]
  cases item with
  | link href =>
      rw [Item.added?] at hmarkup
      split at hmarkup
      · obtain rfl := Option.some.inj hmarkup
        rw [Item.toList_render]
        exact writeNode_link hskips false [] href
      · cases hmarkup
  | script s =>
      rw [Item.added?] at hmarkup
      split at hmarkup
      · rename_i hexternal
        obtain rfl := Option.some.inj hmarkup
        rw [ScriptItem.toList_render]
        cases s with
        | file src => exact writeNode_file (hskips.trans (congrArg Bool.not hexternal)) false [] src
        | inline body => cases hexternal
      · cases hmarkup
  | templateModule scripts => cases hmarkup

end

/-- The scripts of the top-level nodes are those of the items. -/
theorem map_scriptStatement_flatMap {nodes : List Located} {items : List Item}
    (hvalid : ∀ item ∈ items, item.IsValid) (hnodes : nodes.map Located.node = items.map Item.node) :
    (nodes.flatMap Partition.scriptsOf).map Generator.scriptStatement =
      (items.flatMap Item.scripts).filterMap ScriptItem.statement? := by
  induction items generalizing nodes with
  | nil =>
      rw [List.map_eq_nil_iff.mp hnodes]
      rfl
  | cons item rest ih =>
      obtain ⟨⟨address, node⟩, others, rfl, hnode, hothers⟩ := List.map_eq_cons_iff.mp hnodes
      dsimp only at hnode
      subst hnode
      rw [List.forall_mem_cons] at hvalid
      rw [List.flatMap_cons, List.map_append, Item.map_scriptStatement_scriptsOf hvalid.1,
        ih hvalid.2 hothers, List.flatMap_cons, List.filterMap_append]

/-- The module of a document whose top-level nodes are those of a list of items. -/
theorem Generator.statements_of_items {g : Generator} {document : Document} {items : List Item}
    (hvalid : ∀ item ∈ items, item.IsValid)
    (hnodes : document.topLevel.map Located.node = items.map Item.node) :
    g.statements (Partition.ofDocument document) = .ok (Item.statements g.options items) := by
  have hlinks : g.linkStatements (Partition.ofDocument document).links =
      items.filterMap (Item.importStatement? g.options) := by
    have hpaths : (document.topLevel.filterMap fun located =>
        Document.importedPath? g.options located.node) =
        items.filterMap fun item => Document.importedPath? g.options item.node := by
      have hmap := congrArg (List.filterMap (Document.importedPath? g.options)) hnodes
      rwa [List.filterMap_map, List.filterMap_map] at hmap
    rw [Partition.ofDocument_eq, linkStatements, linkHrefs_eq, hpaths, List.map_filterMap]
    exact List.filterMap_congr fun item _ => Item.importedPath?_node g.options item
  have hhelper : g.helperStatements (Partition.ofDocument document) =
      if items.any Item.needsHelper then [.requireHelper g.options.registerHelper] else [] := by
    have hany := congrArg (fun nodes => nodes.any fun node : Node =>
      node.isTemplateModule || Document.isAdded node) hnodes
    simp only [List.any_map, Function.comp_def, Item.needsHelper_node] at hany
    rw [helperStatements, needsRegisterHelper_ofDocument, Document.needsHelper, hany]
  have hscripts : (Partition.ofDocument document).scripts.map scriptStatement =
      (items.flatMap Item.scripts).filterMap ScriptItem.statement? := by
    rw [← map_scriptStatement_flatMap hvalid hnodes, Partition.ofDocument, Partition.ofTopLevel_eq]
  refine statements_eq_ok_iff.mpr ⟨items.filterMap Item.registered?, items.filterMap Item.added?,
    ?_, ?_, ?_⟩
  · rw [Partition.templateModules_ofDocument]
    exact written_of_items Item.isTemplateModule_node hnodes
      fun located hmem item markup hnode hmarkup => write_registered hmem hnode hmarkup
  · rw [Partition.otherNodes_ofDocument]
    exact written_of_items Item.isAdded_node hnodes
      fun located hmem item markup hnode hmarkup => write_added hmem hnode hmarkup
  · rw [hlinks, hhelper, hscripts]
    rfl

/-- A component file of valid items is transformed into the module of its items, whatever the options and
however styles are minified. -/
theorem process_renderAll (loader : Loader) {items : List Item} (hvalid : ∀ item ∈ items, item.IsValid)
    (resource : String) :
    loader.process (Item.renderAll items) resource =
      .ok (ModuleText.ofStatements (Item.statements loader.options items)) :=
  Loader.transform_eq_ok_iff.mpr ⟨_,
    Generator.statements_of_items hvalid (Document.map_node_topLevel_renderAll hvalid), rfl⟩

/-- A component with a link, a template module that holds two scripts, and a script file. -/
def linkModuleAndScript : List Item := [
  .link "a&b.html", .templateModule [.file "https://x/y.js", .inline "run()"], .script (.file "c.js")]

def linkModuleAndScriptSource : String :=
  "\nimport './a&b.html';\n" ++ "\nconst RegisterHtmlTemplate = require('r');\n" ++
    "\nRegisterHtmlTemplate.register(\"<dom-module><script src=\\\"https://x/y.js\\\"></script>" ++
    "</dom-module>\");\n" ++ "\nrun()\n" ++ "\nimport './c.js';\n"

theorem process_renderAll_linkModuleAndScript :
    Item.renderAll linkModuleAndScript = "<link href=\"a&amp;b.html\"><dom-module>" ++
      "<script src=\"https://x/y.js\"></script><script>run()</script></dom-module>" ++
      "<script src=\"c.js\"></script>" ∧
    (∀ item ∈ linkModuleAndScript, item.IsValid) ∧
    ModuleText.ofStatements (Item.statements Loader.keepingStyles.options linkModuleAndScript) =
      ⟨linkModuleAndScriptSource, "", 8, 2⟩ ∧
    Loader.keepingStyles.process (Item.renderAll linkModuleAndScript) "x.html" =
      .ok (ModuleText.ofStatements
        (Item.statements Loader.keepingStyles.options linkModuleAndScript)) := by
  have hvalid : ∀ item ∈ linkModuleAndScript, item.IsValid := by decide +kernel
  exact ⟨by decide +kernel, hvalid, by decide +kernel,
    process_renderAll .keepingStyles hvalid "x.html"⟩

end MarkupModule
