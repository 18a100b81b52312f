import MarkupModule.Proofs.Component.Parsing
import MarkupModule.Proofs.Rereading.Alone

/-! Elements written and read again. Where an element stands alone, a document that holds what is written of it
has it as its only top-level node. Other elements are not reproduced: a text of theirs becomes markup, a part of
them is lost, or a document element is seen in them. -/

namespace MarkupModule

open Markup
open MarkupModule.Text
open Markup.Construction
open Markup.Construction.Builder

variable {name : ElementName} {attributes : List Attribute} {nodes : List Node} {region : Region}

namespace Markup

/-! ### Names -/

theorem bodyOpening?_eq_none {p : Site} {tag : Tag} (h : tag.name ∈ ["html", "head", "body", "frameset"]) :
    bodyOpening? p tag = none := by
  simp only [List.mem_cons, List.not_mem_nil, or_false] at h
  rcases h with h | h | h | h <;> rw [bodyOpening?, h] <;> rfl

/-- A document element does not stand in a body. -/
theorem not_mem_of_fits_body (h : (Node.element name attributes nodes).fits Region.body.site = true) :
    lowerName name.name ∉ ["html", "head", "body", "frameset"] := by
  intro hmem
  have hforeign : Region.body.site.readsForeign (.startTag (Tag.reread name attributes)) = false := rfl
  have hopening : opening? (Region.body.site.before (Tag.reread name attributes).name)
      (Tag.reread name attributes) = none := bodyOpening?_eq_none hmem
  rw [Node.fits, Bool.and_eq_true] at h
  replace h := h.2
  dsimp only at h
  rw [hforeign, if_neg Bool.false_ne_true, hopening] at h
  split at h
  · rw [Bool.and_eq_true] at h
    cases h.2
  · rw [Bool.and_eq_true, Bool.and_eq_true, Bool.and_eq_true, beq_iff_eq] at h
    rw [h.1.1.2] at hmem
    revert hmem
    decide
  · rw [Bool.and_eq_true, Bool.and_eq_true, Bool.and_eq_true, beq_iff_eq] at h
    rw [h.1.1.2] at hmem
    revert hmem
    decide

/-- An element that the scan goes along with is none that is stepped through. -/
theorem isImplied_eq_false (h : (Node.element name attributes nodes).isScanned = true) :
    RootTags.isImplied {} name.name = false := by
  have hnames : ∀ n ∈ ["html", "head", "body"], RootTags.isRootName (RootTags.nameAt n.toList) = true := by decide
  rw [Node.isScanned, Bool.and_eq_true, Bool.and_eq_true, Bool.not_eq_true'] at h
  have hother : ∀ n ∈ ["html", "head", "body"], name.name ≠ n := fun n hn heq =>
    ne_true_of_eq_false (heq ▸ h.1.2) (hnames n hn)
  have hhtml := hother "html" (by decide)
  have hhead := hother "head" (by decide)
  have hbody := hother "body" (by decide)
  simp [RootTags.isImplied, hhtml, hhead, hbody]

end Markup

namespace Document

/-- The markup of an element is read as it is written. -/
theorem parse_markup (hclean : IsWrittenClean (.element name attributes nodes)) :
    parse (String.ofList (Node.element name attributes nodes).markup) =
      ⟨Branch.toNodes ((default : Builder).read (Node.element name attributes nodes).markup).branches,
        RootTags.scan (String.ofList (Node.element name attributes nodes).markup)⟩ := by
  have hprepare : prepare (String.ofList (Node.element name attributes nodes).markup) =
      (Node.element name attributes nodes).markup := by
    have hreturn := hclean.1
    rw [Node.markup] at hreturn ⊢
    exact prepare_of_lt hreturn
  rw [parse, Construction.parse, hprepare]

theorem topLevel_supplied (hfits : (Node.element name attributes nodes).fits
      (Region.around (lowerName name.name)).site = true)
    (hscanned : (Node.element name attributes nodes).isScanned = true) :
    (parse (String.ofList (Node.element name attributes nodes).markup)).topLevel.map Located.node =
      [.element name attributes nodes] := by
  have himplied : ∀ node ∈ [Node.element name attributes nodes], ∀ n ∈ node.tag?,
      RootTags.isImplied {} n = false := by
    rw [List.forall_mem_singleton]
    rintro n hn
    cases hn
    exact isImplied_eq_false hscanned
  rw [parse_markup (isWrittenClean_of_fits ⟨_, hfits⟩), RootTags.scan_markup hscanned]
  rw [Region.around] at hfits
  split at hfits
  · rename_i hmetadata
    rw [Bool.or_eq_true, List.contains_iff_mem, beq_iff_eq, ← List.mem_singleton, ← List.mem_append] at hmetadata
    have hother := (by decide : ∀ n ∈ metadataNames ++ ["noscript"], n ≠ "html" ∧ n ≠ "head") _ hmetadata
    rw [toNodes_read_inHead hfits hother.1 hother.2]
    exact map_node_topLevel_wrapped himplied
  · rename_i hmetadata
    rw [Bool.not_eq_true] at hmetadata
    have hother := not_mem_of_fits_body hfits
    simp only [List.mem_cons, List.not_mem_nil, or_false, not_or] at hother
    obtain ⟨hhtml, hhead, hbody, hframeset⟩ := hother
    rw [toNodes_read_inBody hfits hhtml hhead hmetadata hbody hframeset]
    exact map_node_topLevel_wrapped himplied

theorem topLevel_head (h : Region.head.standsAlone attributes nodes = true) :
    (parse (String.ofList (Node.element Region.head.element attributes nodes).markup)).topLevel.map Located.node =
      [.element Region.head.element attributes nodes] := by
  rw [Region.standsAlone, Bool.and_eq_true, Bool.and_eq_true] at h
  rw [parse_markup (isWrittenClean_region h.1.1), toNodes_read_head h.1.1]
  have hscan : RootTags.scan (String.ofList (Node.element Region.head.element attributes nodes).markup) = _ :=
    RootTags.scan_rootMarkup h.1.2 rfl h.2
  rw [hscan]
  simp [topLevel, topLevelIn, topLevelOf, RootTags.isImplied, RootTags.among, Region.element, Region.name]

theorem topLevel_body (h : Region.body.standsAlone attributes nodes = true) :
    (parse (String.ofList (Node.element Region.body.element attributes nodes).markup)).topLevel.map Located.node =
      [.element Region.body.element attributes nodes] := by
  rw [Region.standsAlone, Bool.and_eq_true, Bool.and_eq_true] at h
  rw [parse_markup (isWrittenClean_region h.1.1), toNodes_read_region (Or.inl rfl) h.1.1]
  have hscan : RootTags.scan (String.ofList (Node.element Region.body.element attributes nodes).markup) = _ :=
    RootTags.scan_rootMarkup h.1.2 rfl h.2
  rw [hscan]
  simp [topLevel, topLevelIn, topLevelOf, RootTags.isImplied, RootTags.among, Region.element, Region.name]

theorem topLevel_frameset (h : Region.frameset.standsAlone attributes nodes = true) :
    (parse (String.ofList (Node.element Region.frameset.element attributes nodes).markup)).topLevel.map
      Located.node = [.element Region.frameset.element attributes nodes] := by
  rw [Region.standsAlone, Bool.and_eq_true, Bool.and_eq_true] at h
  rw [parse_markup (isWrittenClean_region h.1.1), toNodes_read_region (Or.inr rfl) h.1.1]
  have hscanned : (Node.element Region.frameset.element attributes nodes).isScanned = true := by
    have hname : RootTags.isRootName (RootTags.nameAt "frameset".toList) = false ∧
        RootTags.textElements.contains (RootTags.nameAt "frameset".toList) = false := by decide
    rw [Node.isScanned, h.1.2]
    change (!RootTags.isRootName (RootTags.nameAt "frameset".toList) &&
      if RootTags.textElements.contains (RootTags.nameAt "frameset".toList) then _ else _) = true
    rw [hname.1, hname.2, if_neg Bool.false_ne_true, h.2]
    rfl
  rw [RootTags.scan_markup hscanned]
  simp [topLevel, topLevelIn, topLevelOf, RootTags.isImplied, Region.element, Region.name]

theorem topLevel_html (hwritable : isWritable ⟨.html, "html"⟩ attributes = true)
    (hplain : isPlainElement ⟨.html, "html"⟩ attributes = true) (hfits : documentFits nodes = true)
    (htag : isScannedTag ⟨.html, "html"⟩ attributes = true) :
    (parse (String.ofList (Node.element ⟨.html, "html"⟩ attributes nodes).markup)).topLevel.map Located.node =
      [.element ⟨.html, "html"⟩ attributes nodes] := by
  have hclean := isWrittenClean_element hwritable (isWrittenClean_of_documentFits hfits)
  rw [parse_markup hclean, toNodes_read_outermost hwritable hplain hfits]
  simp [topLevel, topLevelIn, topLevelOf, RootTags.isImplied, RootTags.html_scan_markup htag]

/-- An element that stands alone is the only top-level node of a document that holds what is written of it. -/
theorem topLevel_parse_write {located : Located} (h : located.node.standsAlone = true) (engine : StyleEngine) :
    ∃ written, (Writer.verbatim engine).write located = .ok written ∧
      (parse written).topLevel.map Located.node = [located.node] := by
  refine ⟨_, Writer.write_verbatim located, ?_⟩
  obtain ⟨address, node⟩ := located
  dsimp only at h ⊢
  cases node with
  | element name attributes children =>
      rw [Node.standsAlone] at h
      split at h
      · rename_i hname
        rw [Bool.and_eq_true, Bool.and_eq_true, Bool.and_eq_true] at h
        subst hname
        exact topLevel_html h.1.1.1 h.1.1.2 h.1.2 h.2
      · split at h
        · rename_i hname
          subst hname
          exact topLevel_head h
        · split at h
          · rename_i hname
            subst hname
            exact topLevel_body h
          · split at h
            · rename_i hname
              subst hname
              exact topLevel_frameset h
            · rw [Bool.and_eq_true] at h
              exact topLevel_supplied h.1 h.2
  | text | comment | doctype | contents => cases h

/-- A foreign element whose name is written in lower case, and a table with a template in it that holds a cell,
a reference, a comment, and a script in which end tags are text. -/
def mixedSource : String :=
  "<svg><lineargradient/></svg>" ++
    "<table><template><td>x</template><tr><td title='&#38;lt'>1 < 2<!--<p>--><script>a</b</script></table>"

theorem topLevel_parse_write_mixedSource :
    (parse mixedSource).topLevel.length = 2 ∧
    ∀ located ∈ (parse mixedSource).topLevel, located.node.standsAlone = true ∧
      ∃ written, (Writer.verbatim ⟨.ok, .ok⟩).write located = .ok written ∧
        (parse written).topLevel.map Located.node = [located.node] := by
  have halone : (parse mixedSource).topLevel.length = 2 ∧
      ∀ located ∈ (parse mixedSource).topLevel, located.node.standsAlone = true := by
    decide +kernel
  refine ⟨halone.1, fun located hmem => ⟨halone.2 located hmem, ?_⟩⟩
  exact topLevel_parse_write (halone.2 located hmem) ⟨.ok, .ok⟩

/-- Whether what is written of each top-level element of a source is read as a document with that element and no
other at the top. -/
def IsReproduced (source : String) : Prop :=
  ∀ located ∈ (parse source).topLevel, located.node.tag?.isSome = true →
    ∃ written, (Writer.verbatim ⟨.ok, .ok⟩).write located = .ok written ∧
      ((parse written).topLevel.map Located.node).filter (·.tag?.isSome) = [located.node]

/-- What nodes are told apart by: their tokens and their attributes. -/
def view (node : Node) : List Token × List Attribute :=
  (node.tokens, node.attributes)

theorem not_isReproduced {source : String}
    (h : ∃ located ∈ (parse source).topLevel, located.node.tag?.isSome = true ∧
      (((parse (String.ofList located.node.markup)).topLevel.map Located.node).filter (·.tag?.isSome)).map view ≠
        [view located.node]) : ¬ IsReproduced source := by
  obtain ⟨located, hmem, helement, hview⟩ := h
  intro hreproduced
  obtain ⟨written, hwritten, heq⟩ := hreproduced located hmem helement
  rw [Writer.write_verbatim, Except.ok.injEq] at hwritten
  rw [hwritten, heq] at hview
  exact hview rfl

/-- Sources that are not reproduced, each for one reason. -/
theorem topLevel_parse_write_ne :
    -- a foreign element that shares its name with one that holds text only, or with one that holds nothing
    ¬ IsReproduced "<svg><style>&#60;p>" ∧
    ¬ IsReproduced "<svg><input>x" ∧
    -- an attribute whose name is written without its namespace
    ¬ IsReproduced "<svg xml:lang=a>" ∧
    -- characters that are dropped or replaced
    ¬ IsReproduced "<pre>\n\nx</pre>" ∧
    ¬ IsReproduced "<p>&#13;</p>" ∧
    -- end tags that are not found, and a start tag that is ignored
    ¬ IsReproduced "<plaintext>x" ∧
    ¬ IsReproduced "<script><!--<script>x" ∧
    ¬ IsReproduced "<form><div></form><form>x" ∧
    -- text in which a document element is seen
    ¬ IsReproduced "<script></scripts><body></script>" := by
  refine ⟨?_, ?_, ?_, ?_, ?_, ?_, ?_, ?_, ?_⟩ <;> exact not_isReproduced (by decide +kernel)

end Document

end MarkupModule
