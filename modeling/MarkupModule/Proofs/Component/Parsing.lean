import MarkupModule.Document
import MarkupModule.Proofs.Component.Reading
import MarkupModule.Proofs.Component.Scan
import MarkupModule.Proofs.Text.Search

/-! The document of a component file. Its source is read as it is written, since no item holds a carriage
return. The document elements are stepped through, none of them being spelled out, so the top-level nodes
are those of the items, in the order of the items. -/

namespace MarkupModule

open Markup

/-! ### The source -/

namespace Item

open MarkupModule.Text

theorem not_mem_scriptText {s : ScriptItem} (h : s.IsValid) : '\r' ∉ s.text := by
  have htag : '\r' ∉ s.tag.text := by
    apply Tag.not_mem_text (ScriptItem.isPlain_tag h).isReadable.lowered
    cases s with
    | file src => exact List.forall_mem_singleton.mpr h.2.1
    | inline body => exact fun a ha => absurd ha List.not_mem_nil
  have hbody : '\r' ∉ s.body := by
    cases s with
    | file src => exact List.not_mem_nil
    | inline body => exact h.1.1
  rw [ScriptItem.text, List.mem_cons, List.mem_append, List.mem_append]
  rintro (hmem | hmem | hmem | hmem)
  · revert hmem
    decide
  · exact htag hmem
  · exact hbody hmem
  · revert hmem
    decide

theorem not_mem_itemText {item : Item} (h : item.IsValid) : '\r' ∉ item.text := by
  cases item with
  | link href =>
      rw [text, List.mem_cons]
      rintro (hmem | hmem)
      · revert hmem
        decide
      · exact Tag.not_mem_text (isPlain_linkTag h).isReadable.lowered (List.forall_mem_singleton.mpr h.1) hmem
  | script s => exact not_mem_scriptText h
  | templateModule scripts =>
      rw [text, List.mem_cons, List.mem_append, List.mem_append, List.mem_flatMap]
      rintro (hmem | hmem | ⟨s, hs, hmem⟩ | hmem)
      · revert hmem
        decide
      · revert hmem
        decide
      · exact not_mem_scriptText (h s hs) hmem
      · revert hmem
        decide

theorem prepare_renderAll {items : List Item} (hvalid : ∀ item ∈ items, item.IsValid) :
    Construction.prepare (renderAll items) = items.flatMap text := by
  have hreturn : '\r' ∉ items.flatMap text := by
    rw [List.mem_flatMap]
    rintro ⟨item, hitem, hmem⟩
    exact not_mem_itemText (hvalid item hitem) hmem
  rw [Construction.prepare, toList_renderAll]
  cases items with
  | nil => rfl
  | cons item rest =>
      obtain ⟨tail, htext⟩ := Construction.Builder.exists_text_eq item (rest.flatMap text)
      rw [List.flatMap_cons, htext] at hreturn ⊢
      exact normalizeLineEndings_of_not_mem hreturn

end Item

/-- A component file is read as the nodes of its items, in order, and it spells out no document
element. -/
theorem parse_renderAll {items : List Item} (hvalid : ∀ item ∈ items, item.IsValid) :
    ∃ headNodes bodyNodes, headNodes ++ bodyNodes = items.map Item.node ∧
      Document.parse (Item.renderAll items) =
        ⟨Construction.Builder.wrapped headNodes bodyNodes, {}⟩ := by
  obtain ⟨headNodes, bodyNodes, hnodes, hread⟩ := Construction.Builder.read_items hvalid
  refine ⟨headNodes, bodyNodes, hnodes, ?_⟩
  rw [Document.parse, RootTags.scan_renderAll hvalid, Construction.parse, Item.prepare_renderAll hvalid,
    hread]

/-! ### Top-level nodes -/

namespace Document

theorem topLevelOf_of_not_implied {node : Node} {roots : RootTags}
    (h : ∀ name ∈ node.tag?, roots.isImplied name = false) (address : Address) :
    topLevelOf roots address node = [⟨address, node⟩] := by
  cases node with
  | element name attributes children =>
      rw [topLevelOf, h name.name rfl]
      rfl
  | text content => rfl
  | comment content => rfl
  | doctype name publicId systemId => rfl
  | contents children => rfl

theorem topLevelIn_of_not_implied {nodes : List Node} {roots : RootTags}
    (h : ∀ node ∈ nodes, ∀ name ∈ node.tag?, roots.isImplied name = false) (address : Address)
    (start : Nat) : topLevelIn roots address start nodes = locate address start nodes := by
  induction nodes generalizing start with
  | nil => rfl
  | cons node rest ih =>
      rw [List.forall_mem_cons] at h
      rw [topLevelIn, topLevelOf_of_not_implied h.1, ih h.2]
      rfl

theorem map_node_locate (address : Address) (start : Nat) (nodes : List Node) :
    (locate address start nodes).map Located.node = nodes := by
  induction nodes generalizing start with
  | nil => rfl
  | cons node rest ih => rw [locate, List.map_cons, ih]

/-- The top-level nodes of a document whose elements are all supplied. -/
theorem map_node_topLevel_wrapped {headNodes bodyNodes : List Node}
    (h : ∀ node ∈ headNodes ++ bodyNodes, ∀ name ∈ node.tag?,
      RootTags.isImplied {} name = false) :
    (topLevel ⟨Construction.Builder.wrapped headNodes bodyNodes, {}⟩).map Located.node =
      headNodes ++ bodyNodes := by
  rw [List.forall_mem_append] at h
  have htop : topLevel ⟨Construction.Builder.wrapped headNodes bodyNodes, {}⟩ =
      topLevelIn {} [0, 0] 0 headNodes ++ topLevelIn {} [0, 1] 0 bodyNodes := by
    simp [topLevel, Construction.Builder.wrapped, topLevelIn, topLevelOf, RootTags.isImplied]
  rw [htop, topLevelIn_of_not_implied h.1, topLevelIn_of_not_implied h.2, List.map_append,
    map_node_locate, map_node_locate]

/-- The top-level nodes of a component file are those of its items. -/
theorem map_node_topLevel_renderAll {items : List Item} (hvalid : ∀ item ∈ items, item.IsValid) :
    (parse (Item.renderAll items)).topLevel.map Located.node = items.map Item.node := by
  obtain ⟨headNodes, bodyNodes, hnodes, hparse⟩ := parse_renderAll hvalid
  rw [hparse, map_node_topLevel_wrapped, hnodes]
  rw [hnodes]
  intro node hnode
  obtain ⟨item, _, rfl⟩ := List.mem_map.mp hnode
  cases item <;> simp [Item.node, ScriptItem.node, Node.tag?, RootTags.isImplied]

end Document

end MarkupModule
