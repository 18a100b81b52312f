import MarkupModule.Markup.Construction
import MarkupModule.Proofs.Component.Scan
import MarkupModule.Proofs.Text.Search

/-! The scan for document elements does not depend on how lines end: a line ending is a space between
attributes, part of no name and of nothing that is searched for. So it sees the same tags in a source
and in the text that is read, where every line ending is a line feed and a byte order mark is gone. -/

namespace MarkupModule.Markup

open MarkupModule.Text
open Construction (prepare)

namespace RootTags

/-- The quote of a value that is being scanned is no line ending. -/
def TagScan.HasPlainQuote (state : TagScan) : Prop :=
  ∀ quote, state = .quoted quote → endsLine quote = false

theorem TagScan.after_of_endsLine {state : TagScan} (h : state.HasPlainQuote) {c : Char}
    (hc : endsLine c = true) : state.after c = state := by
  have hcases : c = '\r' ∨ c = '\n' := by
    rw [endsLine, Bool.or_eq_true, beq_iff_eq, beq_iff_eq] at hc
    exact hc
  cases state with
  | plain => rcases hcases with rfl | rfl <;> rfl
  | afterEquals => rcases hcases with rfl | rfl <;> rfl
  | quoted quote =>
      rw [TagScan.after, if_neg]
      rintro rfl
      rw [h c rfl] at hc
      cases hc

theorem TagScan.ends_of_endsLine (state : TagScan) {c : Char} (hc : endsLine c = true) :
    state.ends c = false := by
  have hne : (c == '>') = false := by
    rw [beq_eq_false_iff_ne]
    rintro rfl
    cases hc
  cases state with
  | quoted quote => rfl
  | plain => exact hne
  | afterEquals => exact hne

theorem TagScan.hasPlainQuote_after {state : TagScan} (h : state.HasPlainQuote) (c : Char) :
    (state.after c).HasPlainQuote := by
  intro quote hquote
  unfold TagScan.after at hquote
  split at hquote
  · split at hquote
    · cases hquote
    · exact h quote hquote
  · split at hquote
    · rename_i hopens
      obtain rfl := TagScan.quoted.inj hquote
      simp only [Bool.and_eq_true, Bool.or_eq_true, beq_iff_eq] at hopens
      rcases hopens.2 with rfl | rfl <;> rfl
    · split at hquote
      · cases hquote
      · split at hquote
        · exact h quote hquote
        · cases hquote

theorem afterTag_cons_of_endsLine {state : TagScan} (h : state.HasPlainQuote) {c : Char}
    (hc : endsLine c = true) (cs : List Char) : afterTag state (c :: cs) = afterTag state cs := by
  rw [afterTag_cons (state.ends_of_endsLine hc), TagScan.after_of_endsLine h hc]

theorem afterTag_normalizeLineEndings {state : TagScan} (h : state.HasPlainQuote) (s : List Char) :
    afterTag state (normalizeLineEndings s) = normalizeLineEndings (afterTag state s) := by
  fun_induction normalizeLineEndings s generalizing state with
  | case1 => rfl
  | case2 rest ih =>
      rw [afterTag_cons_of_endsLine h rfl, afterTag_cons_of_endsLine h rfl,
        afterTag_cons_of_endsLine h rfl, ih h]
  | case3 rest _ ih => rw [afterTag_cons_of_endsLine h rfl, afterTag_cons_of_endsLine h rfl, ih h]
  | case4 c rest _ hc ih =>
      rw [afterTag, afterTag]
      split
      · rfl
      · exact ih (TagScan.hasPlainQuote_after h c)

theorem afterElement_normalizeLineEndings (name : String) (s : List Char) :
    afterElement name (normalizeLineEndings s) = normalizeLineEndings (afterElement name s) := by
  rw [afterElement, afterElement]
  split
  · rename_i hname
    have hends : ∀ n ∈ textElements, lacksLineEndings ('<' :: ("/" ++ n).toList) = true := by decide
    have hpattern : ("</" ++ name).toList = '<' :: ("/" ++ name).toList := by
      rw [String.toList_append, String.toList_append]
      rfl
    rw [hpattern]
    exact cutBefore_normalizeLineEndings (hends name (List.contains_iff_mem.mp hname)) s
  · rfl

theorem step_of_comment {s rest : List Char} (h : dropPrefix? "!--".toList s = some rest) :
    step s = (none, dropThrough "-->".toList rest) := by
  rw [step.eq_def, h]

/-- Whether a character behind `<` begins a declaration, an instruction or an end tag. -/
def isMark (c : Char) : Bool :=
  c == '!' || c == '?' || c == '/'

theorem step_of_isMark {c : Char} {cs : List Char} (hc : isMark c = true)
    (h : dropPrefix? "!--".toList (c :: cs) = none) :
    step (c :: cs) = (none, dropThrough ">".toList (c :: cs)) := by
  rw [step.eq_def, h]
  exact if_pos hc

theorem step_of_text {c : Char} (hmark : isMark c = false) (halpha : c.isAlpha = false)
    (cs : List Char) : step (c :: cs) = (none, c :: cs) := by
  have hcomment : dropPrefix? "!--".toList (c :: cs) = none := by
    apply if_neg
    rintro rfl
    cases hmark
  rw [step.eq_def, hcomment]
  change (if isMark c = true then _ else if c.isAlpha = true then _ else (none, c :: cs)) = _
  rw [hmark, halpha]
  rfl

theorem isText_of_endsLine {c : Char} (h : endsLine c = true) :
    isMark c = false ∧ c.isAlpha = false := by
  rw [endsLine, Bool.or_eq_true, beq_iff_eq, beq_iff_eq] at h
  rcases h with rfl | rfl <;> decide

theorem step_of_endsLine {c : Char} (h : endsLine c = true) (cs : List Char) :
    step (c :: cs) = (none, c :: cs) :=
  step_of_text (isText_of_endsLine h).1 (isText_of_endsLine h).2 cs

/-- A step of the scan sees the same name and goes on at the same place, however lines end. -/
def StepsAlike (s : List Char) : Prop :=
  step (normalizeLineEndings s) = ((step s).1, normalizeLineEndings (step s).2)

theorem stepsAlike_of_comment {s rest : List Char} (h : dropPrefix? "!--".toList s = some rest) :
    StepsAlike s := by
  have hprefix : dropPrefix? "!--".toList (normalizeLineEndings s) = some (normalizeLineEndings rest) := by
    rw [dropPrefix?_normalizeLineEndings rfl, h]
    rfl
  rw [StepsAlike, step_of_comment hprefix, step_of_comment h]
  exact congrArg _ (dropThrough_normalizeLineEndings rfl rest)

theorem stepsAlike_of_endsLine {c : Char} (h : endsLine c = true) (cs : List Char) :
    StepsAlike (c :: cs) := by
  obtain ⟨d, ds, hcons, hd⟩ := exists_normalizeLineEndings_cons c cs
  have hends : endsLine d = true := by
    rcases hd with rfl | ⟨_, rfl⟩
    · exact h
    · rfl
  rw [StepsAlike, step_of_endsLine h, hcons, step_of_endsLine hends]

theorem stepsAlike_of_isMark {c : Char} {cs : List Char} (hc : isMark c = true)
    (h : dropPrefix? "!--".toList (c :: cs) = none) : StepsAlike (c :: cs) := by
  have hreturn : c ≠ '\r' := by
    rintro rfl
    cases hc
  have hprefix : dropPrefix? "!--".toList (normalizeLineEndings (c :: cs)) = none := by
    rw [dropPrefix?_normalizeLineEndings rfl, h]
    rfl
  have hthrough : dropThrough ">".toList (normalizeLineEndings (c :: cs)) = _ :=
    dropThrough_normalizeLineEndings rfl (c :: cs)
  rw [normalizeLineEndings_cons hreturn] at hprefix hthrough
  rw [StepsAlike, normalizeLineEndings_cons hreturn, step_of_isMark hc hprefix, step_of_isMark hc h]
  exact congrArg _ hthrough

theorem stepsAlike_of_isAlpha {c : Char} (hc : c.isAlpha = true) (cs : List Char) :
    StepsAlike (c :: cs) := by
  have hreturn : c ≠ '\r' := by
    rintro rfl
    cases hc
  have htake : (normalizeLineEndings (c :: cs)).takeWhile isNameChar = _ :=
    takeWhile_normalizeLineEndings rfl rfl (c :: cs)
  have hdrop : (normalizeLineEndings (c :: cs)).dropWhile isNameChar = _ :=
    dropWhile_normalizeLineEndings rfl (c :: cs)
  have hplain : TagScan.plain.HasPlainQuote := by
    rintro quote ⟨⟩
  rw [normalizeLineEndings_cons hreturn] at htake hdrop
  rw [StepsAlike, normalizeLineEndings_cons hreturn, step_cons_of_isAlpha hc, step_cons_of_isAlpha hc,
    htake, hdrop, afterTag_normalizeLineEndings hplain, afterElement_normalizeLineEndings]

theorem stepsAlike (s : List Char) : StepsAlike s := by
  cases hcomment : dropPrefix? "!--".toList s with
  | some rest => exact stepsAlike_of_comment hcomment
  | none =>
      cases s with
      | nil => rfl
      | cons c cs =>
          by_cases hline : endsLine c = true
          · exact stepsAlike_of_endsLine hline cs
          by_cases hmark : isMark c = true
          · exact stepsAlike_of_isMark hmark hcomment
          by_cases halpha : c.isAlpha = true
          · exact stepsAlike_of_isAlpha halpha cs
          -- what is left is text, and is looked at again
          have hreturn : c ≠ '\r' := by
            rintro rfl
            exact hline rfl
          rw [Bool.not_eq_true] at hmark halpha
          rw [StepsAlike, normalizeLineEndings_cons hreturn, step_of_text hmark halpha,
            step_of_text hmark halpha, normalizeLineEndings_cons hreturn]

theorem tagNames_eq (s : List Char) :
    tagNames s =
      match s.dropWhile (· != '<') with
      | [] => []
      | _ :: rest => (step rest).1.toList ++ tagNames (step rest).2 := by
  rw [tagNames]
  split <;> simp [*]

theorem eq_of_dropWhile_eq_cons {s rest : List Char} {c : Char}
    (h : s.dropWhile (· != '<') = c :: rest) : c = '<' := by
  have hhead := List.head?_dropWhile_not (· != '<') s
  rw [h] at hhead
  simpa using hhead

/-- The scan sees the same tags however lines end. -/
theorem tagNames_normalizeLineEndings (s : List Char) :
    tagNames (normalizeLineEndings s) = tagNames s := by
  have hdrop : ∀ s : List Char, (normalizeLineEndings s).dropWhile (· != '<') = _ :=
    dropWhile_normalizeLineEndings rfl
  fun_induction tagNames s with
  | case1 s hnone =>
      rw [tagNames_eq, hdrop, hnone]
      rfl
  | case2 s c rest hfound ih =>
      obtain rfl := eq_of_dropWhile_eq_cons hfound
      rw [tagNames_eq, hdrop, hfound, normalizeLineEndings_cons (by decide)]
      dsimp only
      rw [show step (normalizeLineEndings rest) = _ from stepsAlike rest, ih]

theorem lower_normalizeLineEndings (s : List Char) :
    lower (normalizeLineEndings s) = normalizeLineEndings (lower s) := by
  fun_induction normalizeLineEndings s with
  | case1 => rfl
  | case2 rest ih => exact congrArg _ ih
  | case3 rest hrest ih =>
      change '\n' :: lower (normalizeLineEndings rest) = normalizeLineEndings ('\r' :: lower rest)
      rw [normalizeLineEndings, ih]
      intro ds hlower
      cases rest with
      | nil => cases hlower
      | cons d rest =>
          obtain rfl := (eq_toLower_iff (by decide)).mp (List.cons.inj hlower).1.symm
          exact hrest rest rfl
  | case4 c rest _ hc ih =>
      have hreturn : c.toLower ≠ '\r' := by
        intro heq
        exact hc ((eq_toLower_iff (by decide)).mp heq.symm).symm
      change c.toLower :: lower (normalizeLineEndings rest) =
        normalizeLineEndings (c.toLower :: lower rest)
      rw [normalizeLineEndings_cons hreturn, ih]

theorem tagNames_of_ne {c : Char} (h : c ≠ '<') (cs : List Char) :
    tagNames (c :: cs) = tagNames cs := by
  rw [tagNames_eq, tagNames_eq cs, List.dropWhile_cons_of_pos (by simpa using h)]

/-- The tags that the scan sees in a source stand in the text that is read. -/
theorem tagNames_prepare (source : String) :
    tagNames (lower (prepare source)) = tagNames (lower source.toList) := by
  rw [prepare]
  split
  · rename_i rest heq
    have hmark : Char.toLower '\uFEFF' ≠ '<' := by decide
    rw [heq, lower_normalizeLineEndings, tagNames_normalizeLineEndings]
    exact (tagNames_of_ne hmark _).symm
  · rw [lower_normalizeLineEndings, tagNames_normalizeLineEndings]

end RootTags

end MarkupModule.Markup
