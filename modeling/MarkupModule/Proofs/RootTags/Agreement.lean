import MarkupModule.Document
import MarkupModule.Proofs.RootTags.Reading

/-! Which document elements count as written. Tree construction supplies `html`, `head` and `body`
where a source has no tag for them, and the scan says which ones the source spells out. In a source that
is read as the scan expects, these are the ones that it has a start tag for, so that exactly the supplied
elements are stepped through. -/

namespace MarkupModule

open Markup
open Construction (readingsOf emitted opensTag prepare)

namespace Markup.RootTags

open MarkupModule.Text

/-- The document elements that a source has start tags for. -/
def opened (source : String) : RootTags :=
  { html := opensTag source "html"
    head := opensTag source "head"
    body := opensTag source "body" }

theorem foldl_note (names : List String) (roots : RootTags) :
    names.foldl note roots =
      { html := roots.html || names.contains "html"
        head := roots.head || names.contains "head"
        body := roots.body || names.contains "body" } := by
  induction names generalizing roots with
  | nil => simp
  | cons name rest ih =>
      rw [List.foldl_cons, ih, note]
      simp only [List.contains_cons, Bool.or_assoc, Bool.beq_comm]

theorem contains_filter_isRootName {names : List String} {name : String}
    (h : isRootName name = true) : (names.filter isRootName).contains name = names.contains name := by
  rw [Bool.eq_iff_iff, List.contains_iff_mem, List.contains_iff_mem, List.mem_filter]
  exact and_iff_left h

theorem contains_filterMap_startName? (tokens : List Token) (name : String) :
    (tokens.filterMap Token.startName?).contains name =
      tokens.any fun token => token.startName? == some name := by
  rw [Bool.eq_iff_iff, List.contains_iff_mem, List.mem_filterMap, List.any_eq_true]
  simp only [beq_iff_eq]

/-- In a source that is read as the scan expects, the scan sees a document element exactly when the
lexer emits a start tag of its name. -/
theorem contains_tagNames {source : String} (h : ∀ r ∈ readingsOf source, r.isPlain = true)
    {name : String} (hname : isRootName name = true) :
    (tagNames (lower source.toList)).contains name = opensTag source name := by
  have hroots : rootsIn (lower (prepare source)) = rootsOf (emitted source) := rootsIn_viewOf h
  rw [rootsIn, tagNames_prepare, rootsOf] at hroots
  rw [← contains_filter_isRootName hname, hroots, contains_filter_isRootName hname,
    contains_filterMap_startName?, opensTag]

theorem scan_eq_opened {source : String} (h : ∀ r ∈ readingsOf source, r.isPlain = true) :
    scan source = opened source := by
  rw [scan, foldl_note, contains_tagNames h rfl, contains_tagNames h rfl, contains_tagNames h rfl]
  rfl

theorem isImplied_opened {name : String} (h : isRootName name = true) (source : String) :
    (opened source).isImplied name = !opensTag source name := by
  rw [isRootName, List.contains_iff_mem] at h
  simp only [List.mem_cons, List.not_mem_nil, or_false] at h
  rcases h with rfl | rfl | rfl <;> simp [isImplied, opened]

end Markup.RootTags

namespace Document

open Markup.RootTags

/-- A source that is read as the scan expects spells out the document elements that it has start tags for,
and exactly the others are stepped through at the top level. -/
theorem steps_through_supplied {source : String} (h : ∀ r ∈ readingsOf source, r.isPlain = true) :
    scan source = opened source ∧
      ∀ (address : Address) (space : Namespace) (name : String) (attributes : List Attribute)
        (children : List Node), isRootName name = true →
        topLevelOf (parse source).roots address (.element ⟨space, name⟩ attributes children) =
          if opensTag source name then [⟨address, .element ⟨space, name⟩ attributes children⟩]
          else topLevelIn (parse source).roots address 0 children := by
  refine ⟨scan_eq_opened h, ?_⟩
  intro address space name attributes children hname
  have hroots : (parse source).roots = opened source := scan_eq_opened h
  rw [hroots, topLevelOf, isImplied_opened hname]
  cases opensTag source name <;> rfl

/-- A page with a quoted `>` in a tag, with text that looks like tags in a script and in a comment, and
without a tag for its head. -/
theorem steps_through_supplied_page :
    (∀ r ∈ readingsOf "<html><body a='>'><script>'<head>'</script><!-- <head> -->", r.isPlain = true) ∧
    scan "<html><body a='>'><script>'<head>'</script><!-- <head> -->" = ⟨true, false, true⟩ := by
  have hplain : ∀ r ∈ readingsOf "<html><body a='>'><script>'<head>'</script><!-- <head> -->",
      r.isPlain = true := by
    decide +kernel
  have hopened : opened "<html><body a='>'><script>'<head>'</script><!-- <head> -->" =
      ⟨true, false, true⟩ := by
    decide +kernel
  exact ⟨hplain, (steps_through_supplied hplain).1.trans hopened⟩

/-- Sources that are not read as the scan expects, each in one way only: the scan misses a start tag that
is there, or sees one that is not. -/
theorem scan_ne_opened :
    -- a comment that ends before the first `-->`
    scan "<!--><body>" ≠ opened "<!--><body>" ∧
    -- markup other than a start tag that does not end at the first `>`
    scan "</p a='><body>'>" ≠ opened "</p a='><body>'>" ∧
    scan "<svg><![CDATA[><body>]]></svg>" ≠ opened "<svg><![CDATA[><body>]]></svg>" ∧
    -- an equals sign in a name, and a quote behind one that opens no value
    scan "<a='><body>'>" ≠ opened "<a='><body>'>" ∧
    scan "<a ='><body>'>" ≠ opened "<a ='><body>'>" ∧
    -- a longer name that begins like that of a document element, and a tag that is not closed
    scan "<body_>" ≠ opened "<body_>" ∧
    scan "<body" ≠ opened "<body" ∧
    -- text for the scan only, and for the tree only
    scan "<select><style><body></style>" ≠ opened "<select><style><body></style>" ∧
    scan "<plaintext><body>" ≠ opened "<plaintext><body>" ∧
    -- text of an element in which its end tag seems to begin
    scan "<script></scripts><body></script>" ≠ opened "<script></scripts><body></script>" := by
  decide +kernel

end Document

end MarkupModule
