import MarkupModule.Proofs.Markup.ElementText
import MarkupModule.Proofs.Rereading.Texts

/-! Elements that hold text only. While the text is read the state is one that stands in the element but for
its mode and the content it expects; the end tag leads back to the mode that the element was opened in. -/

namespace MarkupModule.Markup.Construction

open MarkupModule.Text

/-- The names of elements that hold text only. -/
def heldTextNames : List String :=
  ["title", "textarea", "style", "xmp", "iframe", "noembed", "noframes", "noscript", "script"]

namespace Builder

/-- A state that reads the text of an element, and stands in the element once that is read. -/
structure Holds (content : ContentMode) (modes : List Mode) (p : Site) (frames : List Frame)
    (children : List Branch) (b : Builder) : Prop where
  mode : b.mode = .text
  content : b.content = content
  stands : Stands modes p frames children { b with mode := b.returnMode, content := .markup }

namespace Holds

variable {content : ContentMode} {modes : List Mode} {p q : Site} {f : Frame} {around : List Frame}
  {children : List Branch} {b : Builder}

theorem readsForeign_eq (h : Holds content modes q (f :: around) children b) (hspace : f.name.space = .html)
    (event : Event) : b.readsForeign event = false := by
  rw [readsForeign, show b.openElements = f.opened :: around.map Frame.opened from h.stands.opened_eq]
  dsimp only [Frame.opened]
  rw [hspace]
  rfl

/-- A run goes behind what is read of the text. -/
theorem handle_run (h : Holds content modes q (f :: around) children b) (hspace : f.name.space = .html)
    (hfoster : b.fosterParenting = false) {event : Event} {run : String}
    (hevent : event = .blank run ∨ event = .words run) :
    Holds content modes q (f :: around) (Branch.append (.text run) children) (b.handle event) ∧
      (b.handle event).fosterParenting = false ∧ (b.handle event).skipLineFeed = b.skipLineFeed := by
  have hstays : (b.fosterParenting && htmlIn ["table", "tbody", "tfoot", "thead", "tr"] f.name) = false := by
    rw [hfoster]
    rfl
  have htree : Tree (f :: around) children b :=
    ⟨h.stands.tree.branches, h.stands.tree.opened, h.stands.tree.growing, h.stands.tree.below⟩
  have hrule : b.byMode event = .done (b.addText run) := by
    rw [byMode, h.mode]
    rcases hevent with rfl | rfl <;> rfl
  have hinsert : b.addText run =
      { b with branches := nest (f :: around) (Branch.append (.text run) children) } :=
    htree.insert_eq hstays (.text run)
  have hstands := (h.stands.insert (Stands.staysIn hfoster q) fun n => Branch.below_text n run).1
  rw [h.stands.tree.insert_eq hstays (.text run)] at hstands
  rw [handle_of_settlesIn (settlesIn_of_done (h.readsForeign_eq hspace event) hrule) (by decide), hinsert]
  exact ⟨⟨h.mode, h.content, hstands⟩, hfoster, rfl⟩

/-- A text becomes the only child of the element. -/
theorem receive_text (h : Holds content modes q (f :: around) [] b) (hspace : f.name.space = .html)
    (hfoster : b.fosterParenting = false) {s : List Char}
    (hline : b.skipLineFeed = true → s.head? ≠ some '\n') :
    Holds content modes q (f :: around) (withText [] s) (b.receive (.text (String.ofList s))) ∧
      (b.receive (.text (String.ofList s))).fosterParenting = false := by
  have hcalm : Holds content modes q (f :: around) [] b.calm :=
    ⟨h.mode, h.content, h.stands.skipping false⟩
  rw [Builder.receive_text hline]
  refine foldl_runs (fun before b' =>
    Holds content modes q (f :: around) (withText [] before) b' ∧ b'.fosterParenting = false) ?_ [] s b.calm
    ⟨hcalm, hfoster⟩
  rintro before run event b' hrun hevent ⟨hholds, hfoster'⟩
  obtain ⟨hholds', hfoster'', -⟩ := hholds.handle_run hspace hfoster' hevent
  rw [append_withText rfl before hrun] at hholds'
  exact ⟨hholds', hfoster''⟩

/-- The end tag closes the element, and the state stands where the element was opened. -/
theorem receive_endTag (h : Holds content modes (p.inside p.mode f.name) (f :: around) children b)
    (hsurrounds : Surrounds modes p around) (hfoster : b.fosterParenting = false)
    (hspace : f.name.space = .html) (hform : isHtml "form" f.name = false)
    (hmark : isMarkName f.name = false) (hformats : isFormattingName f.name = false) (name : String) :
    Stands modes p around (f.filled children) (b.receive (.endTag name)) ∧
      (b.receive (.endTag name)).fosterParenting = false ∧
      (b.receive (.endTag name)).skipLineFeed = false := by
  have hmarkup : Holds .markup modes (p.inside p.mode f.name) (f :: around) children
      { b with skipLineFeed := false, content := .markup } :=
    ⟨h.mode, rfl, h.stands.skipping false⟩
  have hrule : ({ b with skipLineFeed := false, content := .markup } : Builder).byMode (.endTag name) =
      .done (({ b with skipLineFeed := false, content := .markup } : Builder).pop.enter b.returnMode) := by
    rw [byMode, show ({ b with skipLineFeed := false, content := .markup } : Builder).mode = .text from h.mode]
    rfl
  obtain ⟨b', hclosed, hstands, hfoster', hline⟩ :=
    hmarkup.stands.closesBy_pop hsurrounds rfl hform hmark hformats
  obtain rfl := Outcome.done.inj hclosed
  have hreceive : b.receive (.endTag name) =
      ({ b with skipLineFeed := false, content := .markup } : Builder).pop.enter b.returnMode :=
    handle_of_settlesIn (settlesIn_of_done (hmarkup.readsForeign_eq hspace _) hrule) (by decide)
  rw [hreceive]
  exact ⟨hstands, hfoster'.trans hfoster, hline⟩

end Holds

/-- What is known of an element that is opened to hold a text. -/
theorem of_closesAs_text {p : Site} {name : String} {content : ContentMode}
    (h : ClosesAs p name (.text content)) :
    Lexer.EndsWith content name ∧ name ∈ heldTextNames ∧
      ∀ s : String, Lexer.heldText content s.toList =
        if rawTextNames.contains name then textOf [.text s] else markupOf [.text s] := by
  cases h with
  | reference hname =>
      refine ⟨.reference name, (by decide : ∀ n ∈ ["title", "textarea"], n ∈ heldTextNames) _ hname, fun s => ?_⟩
      rw [show rawTextNames.contains name = false from
        (by decide : ∀ n ∈ ["title", "textarea"], rawTextNames.contains n = false) _ hname]
      exact (List.append_nil _).symm
  | raw hname =>
      refine ⟨.raw name, (by decide : ∀ n ∈ ["style", "xmp", "iframe", "noembed", "noframes", "noscript"],
        n ∈ heldTextNames) _ hname, fun s => ?_⟩
      rw [show rawTextNames.contains name = true from
        (by decide : ∀ n ∈ ["style", "xmp", "iframe", "noembed", "noframes", "noscript"],
          rawTextNames.contains n = true) _ hname]
      exact (List.append_nil _).symm
  | script hname =>
      subst hname
      exact ⟨.script, by decide, fun s => (List.append_nil _).symm⟩

/-- An element that holds a text is read from behind its start tag to its end tag. -/
theorem exists_textElement {modes : List Mode} {p : Site} {f : Frame} {around : List Frame} {b : Builder}
    {tag : Tag} {content : ContentMode} {children : List Node}
    (h : Holds content modes (p.inside p.mode f.name) (f :: around) [] b) (hsurrounds : Surrounds modes p around)
    (hfoster : b.fosterParenting = false) (hcloses : ClosesAs p tag.name (.text content))
    (hf : f.name = ⟨.html, tag.name⟩) (hfits : holdsText tag content children = true)
    (hline : b.skipLineFeed = true → dropsLineFeed tag.name = true) :
    ∃ inside b', Branch.toNodes inside = children ∧ Stands modes p around (f.filled inside) b' ∧
      b'.fosterParenting = false ∧ b'.skipLineFeed = false ∧
      ∀ rest, b.read ((if rawTextNames.contains tag.name then textOf children else markupOf children) ++
        (endTagText tag.name ++ rest)) = b'.read rest := by
  obtain ⟨hends, hname, hwritten⟩ := of_closesAs_text hcloses
  have hfacts : ∀ n ∈ heldTextNames, isPlainName n.toList = true ∧ isHtml "form" ⟨.html, n⟩ = false ∧
      isMarkName ⟨.html, n⟩ = false ∧ isFormattingName ⟨.html, n⟩ = false := by
    decide
  obtain ⟨hplain, hform, hmark, hformats⟩ := hfacts _ hname
  have hspace : f.name.space = .html := by rw [hf]
  have hend : ∀ {inside : List Branch} {b' : Builder},
      Holds content modes (p.inside p.mode f.name) (f :: around) inside b' → b'.fosterParenting = false →
      Stands modes p around (f.filled inside) (b'.receive (.endTag tag.name)) ∧
        (b'.receive (.endTag tag.name)).fosterParenting = false ∧
        (b'.receive (.endTag tag.name)).skipLineFeed = false ∧
        ∀ rest, b'.read ('<' :: '/' :: (tag.name.toList ++ '>' :: rest)) =
          (b'.receive (.endTag tag.name)).read rest := by
    intro inside b' hholds hfoster'
    obtain ⟨hstands, hfoster'', hline'⟩ := hholds.receive_endTag hsurrounds hfoster' hspace (hf ▸ hform)
      (hf ▸ hmark) (hf ▸ hformats) tag.name
    refine ⟨hstands, hfoster'', hline', fun rest => ?_⟩
    have hfirst := Lexer.first_heldEnd hends hplain b'.allowsSections rest
    rw [← hholds.content] at hfirst
    exact read_cons hfirst
  have hendTag : ∀ rest, endTagText tag.name ++ rest = '<' :: '/' :: (tag.name.toList ++ '>' :: rest) := by
    intro rest
    simp [endTagText]
  rcases of_holdsText hfits with rfl | ⟨s, rfl, hne, hclean, hcut, hfeed⟩
  · obtain ⟨hstands, hfoster', hline', hread⟩ := hend h hfoster
    refine ⟨[], _, rfl, hstands, hfoster', hline', fun rest => ?_⟩
    rw [hendTag, ← hread rest]
    cases rawTextNames.contains tag.name <;> rfl
  · have hchars : s.toList ≠ [] := fun hnil => hne (String.toList_eq_nil_iff.mp hnil)
    have hskips : b.skipLineFeed = true → s.toList.head? ≠ some '\n' :=
      fun hskips => beq_eq_false_iff_ne.mp (hfeed (hline hskips))
    obtain ⟨hholds, hfoster'⟩ := h.receive_text hspace hfoster hskips
    obtain ⟨hstands, hfoster'', hline', hread⟩ := hend hholds hfoster'
    rw [withText, if_neg hchars, List.nil_append] at hstands
    refine ⟨_, _, ?_, hstands, hfoster'', hline', fun rest => ?_⟩
    · rw [Branch.toNodes, Branch.toNode, String.ofList_toList]
      rfl
    · obtain ⟨c, cs, hcons⟩ := List.exists_cons_of_ne_nil (Lexer.heldText_ne_nil content hchars)
      have hfirst := Lexer.first_heldText hends hplain hcut hclean.2 hcons b.allowsSections rest
      rw [← h.content] at hfirst
      rw [← hwritten, hcons, hendTag, List.cons_append, read_cons hfirst]
      exact hread rest

end Builder

end MarkupModule.Markup.Construction
