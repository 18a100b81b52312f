import MarkupModule.Loader
import MarkupModule.Proofs.RootTags.LineEndings

/-! How the lines of a source end does not matter. Reading makes every line ending a line feed, and the
scan for document elements, which runs on the source itself, sees the same tags either way. So a source
has the document of its text with line feeds, and with it the same module or the same failure. -/

namespace MarkupModule

open Markup Text
open Construction (prepare)

namespace Text

/-- A source with a line feed for every line ending. -/
def withLineFeeds (source : String) : String :=
  String.ofList (normalizeLineEndings source.toList)

theorem toList_withLineFeeds (source : String) :
    (withLineFeeds source).toList = normalizeLineEndings source.toList :=
  String.toList_ofList

theorem not_mem_normalizeLineEndings (s : List Char) : '\r' ∉ normalizeLineEndings s := by
  fun_induction normalizeLineEndings s with
  | case1 => exact List.not_mem_nil
  | case2 rest ih =>
      rw [List.mem_cons]
      rintro (heq | hrest)
      · cases heq
      · exact ih hrest
  | case3 rest _ ih =>
      rw [List.mem_cons]
      rintro (heq | hrest)
      · cases heq
      · exact ih hrest
  | case4 c rest _ hc ih =>
      rw [List.mem_cons]
      rintro (heq | hrest)
      · exact hc heq.symm
      · exact ih hrest

theorem normalizeLineEndings_normalizeLineEndings (s : List Char) :
    normalizeLineEndings (normalizeLineEndings s) = normalizeLineEndings s :=
  normalizeLineEndings_of_not_mem (not_mem_normalizeLineEndings s)

/-- A character that ends no line stands at the start of both texts or of neither. -/
theorem head?_normalizeLineEndings {c : Char} (hc : endsLine c = false) (s : List Char) :
    (normalizeLineEndings s).head? = some c ↔ s.head? = some c := by
  cases s with
  | nil => exact Iff.rfl
  | cons d ds =>
      obtain ⟨e, es, hcons, he⟩ := exists_normalizeLineEndings_cons d ds
      rw [hcons, List.head?_cons, List.head?_cons, Option.some_inj, Option.some_inj]
      rcases he with rfl | ⟨hd, rfl⟩
      · exact Iff.rfl
      · have hne : ∀ {x : Char}, endsLine x = true → x ≠ c := by
          rintro x hx rfl
          rw [hc] at hx
          cases hx
        exact iff_of_false (hne rfl) (hne hd)

end Text

namespace Markup

theorem Construction.prepare_of_marked {source : String} {rest : List Char}
    (h : source.toList = '\uFEFF' :: rest) : prepare source = normalizeLineEndings rest := by
  rw [prepare, h]
  rfl

theorem Construction.prepare_of_unmarked {source : String}
    (h : source.toList.head? ≠ some '\uFEFF') :
    prepare source = normalizeLineEndings source.toList := by
  rw [prepare]
  split
  · rename_i heq
    rw [heq] at h
    exact absurd rfl h
  · rfl

theorem Construction.prepare_withLineFeeds (source : String) :
    prepare (withLineFeeds source) = prepare source := by
  by_cases hmark : source.toList.head? = some '\uFEFF'
  · obtain ⟨rest, hrest⟩ := List.head?_eq_some_iff.mp hmark
    have hfeeds : (withLineFeeds source).toList = '\uFEFF' :: normalizeLineEndings rest := by
      rw [toList_withLineFeeds, hrest, normalizeLineEndings_cons (by decide)]
    rw [prepare_of_marked hfeeds, prepare_of_marked hrest, normalizeLineEndings_normalizeLineEndings]
  · have hfeeds : (withLineFeeds source).toList.head? ≠ some '\uFEFF' := by
      rw [toList_withLineFeeds]
      exact (head?_normalizeLineEndings rfl source.toList).not.mpr hmark
    rw [prepare_of_unmarked hfeeds, prepare_of_unmarked hmark, toList_withLineFeeds,
      normalizeLineEndings_normalizeLineEndings]

theorem RootTags.scan_withLineFeeds (source : String) : scan (withLineFeeds source) = scan source := by
  rw [scan, scan, toList_withLineFeeds, lower_normalizeLineEndings, tagNames_normalizeLineEndings]

end Markup

/-- A source and its text with line feeds are the same document. -/
theorem Document.parse_withLineFeeds (source : String) :
    parse (withLineFeeds source) = parse source := by
  have hnodes : Construction.parse (withLineFeeds source) = Construction.parse source := by
    rw [Construction.parse, Construction.parse, Construction.prepare_withLineFeeds]
  rw [parse, parse, hnodes, RootTags.scan_withLineFeeds]

/-- The module, or the failure, does not depend on how the lines of the source end. -/
theorem Loader.process_withLineFeeds (loader : Loader) (content resource : String) :
    loader.process (withLineFeeds content) resource = loader.process content resource := by
  rw [process, process, Document.parse_withLineFeeds]

example : withLineFeeds "a\r\nb\rc\n\r" = "a\nb\nc\n\n" := by decide

end MarkupModule
