import MarkupModule.Proofs.Rereading.Elements
import MarkupModule.Proofs.RootTags.Pieces

/-! The scan for document elements on what is written of a node. It takes one tag after the other and steps
over the text of elements, so it sees the document elements among the tags, unless the name of a tag or the
text of an element leads it astray. -/

namespace MarkupModule.Markup

open MarkupModule.Text
open RootTags
open WrittenAttribute (isKey)
open Construction (heldMarkup)

/-- Whether the scan takes a start tag whole. -/
def isScannedTag (name : ElementName) (attributes : List Attribute) : Bool :=
  isBareName name.name && attributes.all fun a => isKey a.name

mutual

/-- Whether the scan goes along with what is written of a node and sees no document element in it. It steps
over the text of an element up to where its end tag seems to begin. -/
def Node.isScanned : Node → Bool
  | .element name attributes children =>
    let seen := nameAt name.name.toList
    isScannedTag name attributes && !isRootName seen &&
      if textElements.contains seen then
        !contains ("</" ++ seen).toList (lower (heldMarkup name children))
      else !rawTextNames.contains name.name && areScanned children
  | .text _ => true
  | .comment content => !contains "-->".toList content.toList
  | .doctype _ _ _ => true
  | .contents children => areScanned children

def areScanned : List Node → Bool
  | [] => true
  | node :: rest => node.isScanned && areScanned rest

end

namespace RootTags

variable {name : ElementName} {attributes : List Attribute} {children : List Node}

/-! ### Tags -/

/-- An attribute as it is written in a tag. -/
def writtenAttribute (a : Attribute) : WrittenAttribute :=
  .quoted a.name '"' (String.ofList (escapeAttribute a.value.toList))

theorem text_ofElement (name : ElementName) (attributes : List Attribute) (rest : List Char) :
    '<' :: ((Tag.ofElement name attributes).text ++ rest) =
      (Piece.tagSource name.name (attributes.map writtenAttribute)).toList ++ rest := by
  have hattributes : attributesText ((Tag.ofElement name attributes).attributes.map fun a =>
      (a.1.toList, escapeAttribute a.2.toList)) =
      (attributes.map writtenAttribute).flatMap fun a => a.source.toList := by
    rw [Tag.ofElement, List.map_map, attributesText, List.flatMap_map, List.flatMap_map]
    refine List.flatMap_congr fun a _ => ?_
    simp [writtenAttribute, WrittenAttribute.source, String.toList_append, Char.toString_eq_singleton]
  rw [toList_tagSource, Tag.text, hattributes]
  rfl

theorem isValid_writtenAttribute {a : Attribute} (h : isKey a.name = true) :
    (writtenAttribute a).isValid = true := by
  have hquote : (String.ofList (escapeAttribute a.value.toList)).toList.contains '"' = false := by
    rw [String.toList_ofList, ← Bool.not_eq_true, List.contains_iff_mem]
    exact fun hmem => (mem_escapeAttribute hmem).1 rfl
  rw [writtenAttribute, WrittenAttribute.isValid, h, hquote]
  rfl

theorem tagNames_ofElement (h : isScannedTag name attributes = true) (rest : List Char) :
    tagNames (lower ('<' :: ((Tag.ofElement name attributes).text ++ rest))) =
      nameAt name.name.toList :: tagNames (afterElement (nameAt name.name.toList) (lower rest)) := by
  rw [isScannedTag, Bool.and_eq_true, List.all_eq_true] at h
  rw [text_ofElement]
  refine tagNames_tagSource h.1 (List.all_eq_true.mpr (List.forall_mem_map.mpr fun a ha => ?_)) rest
  exact isValid_writtenAttribute (h.2 a ha)

theorem text_endTag (name : String) (rest : List Char) :
    endTagText name ++ rest = (Piece.marked '/' name).source.toList ++ rest := by
  simp [endTagText, Piece.source, String.toList_append, Char.toString_eq_singleton]

theorem tagNames_endTag {name : String} (h : isBareName name = true) (rest : List Char) :
    tagNames (lower (endTagText name ++ rest)) = tagNames (lower rest) := by
  rw [text_endTag]
  exact tagNames_marked rfl (not_mem_of_isBareName h) rfl rest

/-- The text of an element is passed over, up to the end tag behind it. -/
theorem afterElement_text {name : String} (htext : textElements.contains (nameAt name.toList) = true)
    {s : List Char} (h : contains ("</" ++ nameAt name.toList).toList (lower s) = false) (rest : List Char) :
    afterElement (nameAt name.toList) (lower (s ++ (endTagText name ++ rest))) =
      lower (endTagText name ++ rest) := by
  have hpattern : ("</" ++ nameAt name.toList).toList =
      '<' :: '/' :: lower (name.toList.takeWhile isNameChar) := by
    rw [String.toList_append, nameAt]
    exact congrArg ('<' :: '/' :: ·) String.toList_ofList
  have hopens : '<' ∉ '/' :: lower (name.toList.takeWhile isNameChar) := by
    rw [List.mem_cons, not_or]
    refine ⟨by decide, fun hmem => ?_⟩
    have hname := List.mem_takeWhile_imp (mem_of_mem_lower (by decide) hmem)
    revert hname
    decide
  have hend : lower (endTagText name ++ rest) = '<' :: '/' :: (lower name.toList ++ '>' :: lower rest) := by
    simp [endTagText, lower]
  have hstarts : startsWith ('<' :: '/' :: lower (name.toList.takeWhile isNameChar))
      ('<' :: '/' :: (lower name.toList ++ '>' :: lower rest)) = true := by
    rw [startsWith_iff_isPrefix, List.prefix_cons_inj, List.prefix_cons_inj]
    exact ((List.takeWhile_prefix isNameChar).map Char.toLower).trans (List.prefix_append _ _)
  rw [hpattern] at h
  rw [afterElement, if_pos htext, hpattern, lower_append, hend, cutBefore_append_eq hopens h hstarts]

/-! ### Nodes -/

/-- What is written between the tags of an element is passed over, and its end tag with it. -/
theorem rootsIn_held (hname : isBareName name.name = true)
    (htext : textElements.contains (nameAt name.name.toList) = true →
      contains ("</" ++ nameAt name.name.toList).toList (lower (heldMarkup name children)) = false)
    (hmarkup : textElements.contains (nameAt name.name.toList) = false →
      rawTextNames.contains name.name = false ∧
        ∀ rest, rootsIn (lower (markupOf children ++ rest)) = rootsIn (lower rest)) (rest : List Char) :
    rootsIn (afterElement (nameAt name.name.toList)
      (lower (heldMarkup name children ++ (endTagText name.name ++ rest)))) = rootsIn (lower rest) := by
  have hend : rootsIn (lower (endTagText name.name ++ rest)) = rootsIn (lower rest) :=
    congrArg (List.filter isRootName) (tagNames_endTag hname rest)
  cases hcontains : textElements.contains (nameAt name.name.toList) with
  | true => rw [afterElement_text hcontains (htext hcontains), hend]
  | false =>
      obtain ⟨hraw, hchildren⟩ := hmarkup hcontains
      rw [afterElement, hcontains, if_neg Bool.false_ne_true, heldMarkup, hraw, if_neg Bool.false_ne_true,
        hchildren, hend]

theorem nameAt_of_voidNames {name : String} (h : voidNames.contains name = true) :
    textElements.contains (nameAt name.toList) = false :=
  (by decide : ∀ n ∈ voidNames, textElements.contains (nameAt n.toList) = false) _ (List.contains_iff_mem.mp h)

theorem rootsIn_markupOf {nodes : List Node}
    (h : ∀ node ∈ nodes, node.isScanned = true →
      ∀ rest, rootsIn (lower (node.markup ++ rest)) = rootsIn (lower rest))
    (hscanned : areScanned nodes = true) (rest : List Char) :
    rootsIn (lower (markupOf nodes ++ rest)) = rootsIn (lower rest) := by
  induction nodes with
  | nil => rfl
  | cons node others ih =>
      rw [List.forall_mem_cons] at h
      rw [areScanned, Bool.and_eq_true] at hscanned
      rw [markupOf, List.append_assoc, h.1 hscanned.1, ih h.2 hscanned.2]

/-- The scan sees no document element in what is written of a node that it goes along with. -/
theorem rootsIn_markup {node : Node} (h : node.isScanned = true) (rest : List Char) :
    rootsIn (lower (node.markup ++ rest)) = rootsIn (lower rest) := by
  induction node using Node.childInduction generalizing rest with
  | step node ih =>
      have hchildren := rootsIn_markupOf ih
      cases node with
      | element name attributes children =>
          rw [Node.isScanned, Bool.and_eq_true, Bool.and_eq_true, Bool.not_eq_true'] at h
          obtain ⟨⟨htag, hroot⟩, hinside⟩ := h
          have hname : isBareName name.name = true := (Bool.and_eq_true_iff.mp htag).1
          have hopened : ∀ s, rootsIn (lower ('<' :: ((Tag.ofElement name attributes).text ++ s))) =
              rootsIn (afterElement (nameAt name.name.toList) (lower s)) := by
            intro s
            rw [rootsIn, tagNames_ofElement htag, List.filter_cons_of_neg (ne_true_of_eq_false hroot)]
            rfl
          rw [Node.markup, List.cons_append, List.append_assoc, hopened]
          cases hvoid : voidNames.contains name.name with
          | true =>
              rw [if_pos rfl, List.nil_append, afterElement, nameAt_of_voidNames hvoid,
                if_neg Bool.false_ne_true]
          | false =>
              rw [if_neg Bool.false_ne_true, List.append_assoc]
              refine rootsIn_held hname (fun htext => ?_) (fun htext => ?_) rest
              · rwa [htext, if_pos rfl, Bool.not_eq_true'] at hinside
              · rw [htext, if_neg Bool.false_ne_true, Bool.and_eq_true, Bool.not_eq_true'] at hinside
                exact ⟨hinside.1, hchildren hinside.2⟩
      | text content =>
          have hless : '<' ∉ lower (escapeText content.toList) := fun hmem =>
            (mem_escapeText (mem_of_mem_lower (by decide) hmem)).1 rfl
          rw [Node.markup, lower_append, rootsIn, tagNames_append_of_not_mem hless]
          rfl
      | comment content =>
          rw [Node.isScanned, Bool.not_eq_true'] at h
          have htext : (Node.comment content).markup = (Piece.comment content).source.toList := by
            simp [Node.markup, Piece.source, String.toList_append]
          rw [htext, rootsIn, tagNames_comment h]
          rfl
      | doctype => rfl
      | contents children =>
          rw [Node.isScanned] at h
          rw [Node.markup]
          exact hchildren h rest

/-! ### Document elements -/

/-- The document elements that a list of names spells out. -/
def among (names : List String) : RootTags where
  html := names.contains "html"
  head := names.contains "head"
  body := names.contains "body"

theorem scan_eq_among (source : String) : scan source = among (rootsIn (lower source.toList)) := by
  rw [scan, foldl_note, among, rootsIn, contains_filter_isRootName rfl, contains_filter_isRootName rfl,
    contains_filter_isRootName rfl]
  rfl

/-- What is written of a node that the scan goes along with spells out no document element. -/
theorem scan_markup {node : Node} (h : node.isScanned = true) : scan (String.ofList node.markup) = {} := by
  have hroots := rootsIn_markup h []
  rw [List.append_nil] at hroots
  rw [scan_eq_among, String.toList_ofList, hroots]
  exact congrArg among rootsIn_nil

/-- The scan sees the start tag of a document element. -/
theorem rootsIn_rootTag {root : String} (htag : isScannedTag ⟨.html, root⟩ attributes = true)
    (hroot : isRootName root = true) (rest : List Char) :
    rootsIn (lower ('<' :: ((Tag.ofElement ⟨.html, root⟩ attributes).text ++ rest))) =
      root :: rootsIn (lower rest) := by
  have hnames : ∀ n ∈ ["html", "head", "body"], nameAt n.toList = n ∧ textElements.contains n = false := by
    decide
  obtain ⟨hname, htext⟩ := hnames root (List.contains_iff_mem.mp hroot)
  rw [rootsIn, tagNames_ofElement htag, hname, afterElement, htext, if_neg Bool.false_ne_true,
    List.filter_cons_of_pos hroot]
  rfl

/-- A document element that holds no other is the only one that it spells out. -/
theorem scan_rootMarkup {root : String} (htag : isScannedTag ⟨.html, root⟩ attributes = true)
    (hroot : isRootName root = true) (h : areScanned children = true) :
    scan (String.ofList (Node.element ⟨.html, root⟩ attributes children).markup) = among [root] := by
  have hnames : ∀ n ∈ ["html", "head", "body"], voidNames.contains n = false ∧
      rawTextNames.contains n = false := by
    decide
  obtain ⟨hvoid, hraw⟩ := hnames root (List.contains_iff_mem.mp hroot)
  have hend : rootsIn (lower (endTagText root ++ [])) = rootsIn (lower []) :=
    congrArg (List.filter isRootName) (tagNames_endTag (Bool.and_eq_true_iff.mp htag).1 [])
  have hchildren := rootsIn_markupOf (fun node _ => rootsIn_markup) h (endTagText root ++ [])
  rw [List.append_nil] at hend hchildren
  rw [scan_eq_among, String.toList_ofList, Node.markup, hvoid, if_neg Bool.false_ne_true, hraw,
    if_neg Bool.false_ne_true, rootsIn_rootTag htag hroot, hchildren, hend]
  exact congrArg (fun names => among (root :: names)) rootsIn_nil

/-- The outermost element is seen whatever is in it. -/
theorem html_scan_markup (htag : isScannedTag ⟨.html, "html"⟩ attributes = true) :
    (scan (String.ofList (Node.element ⟨.html, "html"⟩ attributes children).markup)).html = true := by
  rw [scan_eq_among, String.toList_ofList, Node.markup, rootsIn_rootTag htag rfl]
  rfl

end RootTags

end MarkupModule.Markup
