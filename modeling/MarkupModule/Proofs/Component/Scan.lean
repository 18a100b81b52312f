import MarkupModule.Proofs.Component.Items

/-! The scan of a component file for document elements. It sees the start tags of links, scripts and
template modules, and steps over attribute values and the text of scripts, whatever they hold; so it
finds no document element. -/

namespace MarkupModule

open Markup

namespace Markup.RootTags

open MarkupModule.Text

theorem tagNames_cons (s : List Char) :
    tagNames ('<' :: s) = (step s).1.toList ++ tagNames (step s).2 := by
  rw [tagNames]
  rfl

theorem tagNames_scriptEnd (rest : List Char) : tagNames (scriptEnd ++ rest) = tagNames rest := by
  have hstep : step ('/' :: ("script".toList ++ '>' :: rest)) = (none, rest) := rfl
  change tagNames ('<' :: '/' :: ("script".toList ++ '>' :: rest)) = _
  rw [tagNames_cons, hstep]
  rfl

theorem tagNames_moduleEnd (rest : List Char) : tagNames (Item.moduleEnd ++ rest) = tagNames rest := by
  have hstep : step ('/' :: ("dom-module".toList ++ '>' :: rest)) = (none, rest) := rfl
  change tagNames ('<' :: '/' :: ("dom-module".toList ++ '>' :: rest)) = _
  rw [tagNames_cons, hstep]
  rfl

theorem tagNames_text {tag : Tag} (h : tag.IsPlain) (rest : List Char) :
    tagNames ('<' :: (lower tag.text ++ rest)) = tag.name :: tagNames (afterElement tag.name rest) := by
  rw [tagNames_cons, step_text h]
  rfl

theorem lower_append (s t : List Char) : lower (s ++ t) = lower s ++ lower t :=
  List.map_append

/-- The scan sees the start tag of a script and nothing of its text. -/
theorem tagNames_script {s : ScriptItem} (h : s.IsValid) (rest : List Char) :
    tagNames (lower s.text ++ rest) = "script" :: tagNames rest := by
  have hname : s.tag.name = "script" := by cases s <;> rfl
  have htext : lower s.text ++ rest =
      '<' :: (lower s.tag.text ++ (lower s.body ++ (scriptEnd ++ rest))) := by
    rw [ScriptItem.text]
    change '<' :: lower (s.tag.text ++ (s.body ++ scriptEnd)) ++ rest = _
    rw [lower_append, lower_append]
    simp only [List.cons_append, List.append_assoc]
    rfl
  rw [htext, tagNames_text (ScriptItem.isPlain_tag h), hname,
    afterElement_script (ScriptItem.isScriptBody h).noEndTag, tagNames_scriptEnd]

theorem tagNames_scripts {scripts : List ScriptItem} (h : ∀ s ∈ scripts, s.IsValid)
    (rest : List Char) :
    tagNames (lower (scripts.flatMap ScriptItem.text) ++ rest) =
      scripts.map (fun _ => "script") ++ tagNames rest := by
  induction scripts with
  | nil => rfl
  | cons s others ih =>
      rw [List.forall_mem_cons] at h
      rw [List.flatMap_cons, lower_append, List.append_assoc, tagNames_script h.1, ih h.2]
      rfl

/-- The names that the scan sees in an item. -/
def namesOf : Item → List String
  | .link _ => ["link"]
  | .script _ => ["script"]
  | .templateModule scripts => "dom-module" :: scripts.map fun _ => "script"

theorem tagNames_item {item : Item} (h : item.IsValid) (rest : List Char) :
    tagNames (lower item.text ++ rest) = namesOf item ++ tagNames rest := by
  cases item with
  | link href => exact tagNames_text (Item.isPlain_linkTag h) rest
  | script s => exact tagNames_script h rest
  | templateModule scripts =>
      have htext : lower (Item.templateModule scripts).text ++ rest = '<' :: (lower Item.moduleTag.text ++
          (lower (scripts.flatMap ScriptItem.text) ++ (Item.moduleEnd ++ rest))) := by
        rw [Item.text]
        change '<' :: lower (Item.moduleTag.text ++ (scripts.flatMap ScriptItem.text ++ Item.moduleEnd)) ++
          rest = _
        rw [lower_append, lower_append]
        simp only [List.cons_append, List.append_assoc]
        rfl
      rw [htext, tagNames_text Item.isPlain_moduleTag]
      change "dom-module" :: tagNames (lower (scripts.flatMap ScriptItem.text) ++ _) = _
      rw [tagNames_scripts h, tagNames_moduleEnd]
      rfl

theorem tagNames_items {items : List Item} (h : ∀ item ∈ items, item.IsValid) :
    tagNames (lower (items.flatMap Item.text)) = items.flatMap namesOf := by
  induction items with
  | nil =>
      rw [List.flatMap_nil, List.flatMap_nil, lower, List.map_nil, tagNames]
      rfl
  | cons item rest ih =>
      rw [List.forall_mem_cons] at h
      rw [List.flatMap_cons, lower_append, tagNames_item h.1, ih h.2, List.flatMap_cons]

theorem foldl_note_of_ne {names : List String} (roots : RootTags)
    (h : ∀ name ∈ names, name ≠ "html" ∧ name ≠ "head" ∧ name ≠ "body") :
    names.foldl note roots = roots := by
  induction names with
  | nil => rfl
  | cons name rest ih =>
      rw [List.forall_mem_cons] at h
      obtain ⟨⟨hhtml, hhead, hbody⟩, hrest⟩ := h
      have hnote : note roots name = roots := by
        rw [note, beq_eq_false_iff_ne.mpr hhtml, beq_eq_false_iff_ne.mpr hhead,
          beq_eq_false_iff_ne.mpr hbody, Bool.or_false, Bool.or_false, Bool.or_false]
      rw [List.foldl_cons, hnote, ih hrest]

theorem ne_of_mem_namesOf {item : Item} : ∀ name ∈ namesOf item,
    name ≠ "html" ∧ name ≠ "head" ∧ name ≠ "body" := by
  cases item with
  | link href => simp [namesOf]
  | script s => simp [namesOf]
  | templateModule scripts => simp +contextual [namesOf]

/-- A component file spells out no document element. -/
theorem scan_renderAll {items : List Item} (h : ∀ item ∈ items, item.IsValid) :
    scan (Item.renderAll items) = {} := by
  rw [scan, Item.toList_renderAll, tagNames_items h]
  apply foldl_note_of_ne
  intro name hname
  obtain ⟨item, _, hitem⟩ := List.mem_flatMap.mp hname
  exact ne_of_mem_namesOf name hitem

end Markup.RootTags

end MarkupModule
