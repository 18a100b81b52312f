import MarkupModule.Proofs.Markup.ScriptText
import MarkupModule.Text.LineEnding

/-! Searching commutes with putting a text into lower case, for patterns without letters, and with
making every line ending a line feed, for patterns without line endings. -/

namespace MarkupModule.Text

open Markup (toLower_of_not_isAlpha)

/-! ### Cutting -/

theorem startsWith_cutBefore (pattern s : List Char) :
    (cutBefore pattern s).2 = [] ∨ startsWith pattern (cutBefore pattern s).2 = true := by
  induction s with
  | nil => exact Or.inl rfl
  | cons c cs ih =>
      rw [cutBefore]
      split
      · rename_i hstarts
        exact Or.inr hstarts
      · exact ih

/-- A text that is cut already is not cut again. -/
theorem cutBefore_cutBefore (pattern s : List Char) :
    (cutBefore pattern (cutBefore pattern s).2).2 = (cutBefore pattern s).2 := by
  rcases startsWith_cutBefore pattern s with h | h
  · rw [h]
    rfl
  · cases hcut : (cutBefore pattern s).2 with
    | nil => rfl
    | cons c cs =>
        rw [hcut] at h
        rw [cutBefore, if_pos h]

/-! ### Lower case -/

/-- Whether no letter occurs in a pattern. -/
def lacksLetters (pattern : List Char) : Bool :=
  pattern.all fun c => !c.isAlpha

theorem lacksLetters_cons {p : Char} {ps : List Char} :
    lacksLetters (p :: ps) = true ↔ p.isAlpha = false ∧ lacksLetters ps = true := by
  rw [lacksLetters, List.all_cons, Bool.and_eq_true, Bool.not_eq_true']
  rfl

theorem eq_toLower_iff {p c : Char} (hp : p.isAlpha = false) : p = c.toLower ↔ p = c := by
  constructor
  · rintro rfl
    rw [Char.isAlpha_toLower_eq_isAlpha] at hp
    exact toLower_of_not_isAlpha hp
  · rintro rfl
    exact (toLower_of_not_isAlpha hp).symm

theorem dropPrefix?_lower {pattern : List Char} (h : lacksLetters pattern = true)
    (s : List Char) : dropPrefix? pattern (lower s) = (dropPrefix? pattern s).map lower := by
  induction pattern generalizing s with
  | nil => cases s <;> rfl
  | cons p ps ih =>
      rw [lacksLetters_cons] at h
      cases s with
      | nil => rfl
      | cons c cs =>
          rw [lower, List.map_cons, dropPrefix?, dropPrefix?]
          simp only [eq_toLower_iff h.1]
          split
          · exact ih h.2 cs
          · rfl

theorem cutBefore_lower {pattern : List Char} (h : lacksLetters pattern = true)
    (s : List Char) : (cutBefore pattern (lower s)).2 = lower (cutBefore pattern s).2 := by
  induction s with
  | nil => rfl
  | cons c cs ih =>
      have hstarts : startsWith pattern (lower (c :: cs)) = startsWith pattern (c :: cs) := by
        rw [startsWith, startsWith, dropPrefix?_lower h, Option.isSome_map]
      rw [lower, List.map_cons] at hstarts ⊢
      rw [cutBefore, cutBefore, hstarts]
      split
      · rfl
      · exact ih

theorem dropThrough_lower {pattern : List Char} (h : lacksLetters pattern = true)
    (s : List Char) : dropThrough pattern (lower s) = lower (dropThrough pattern s) := by
  rw [dropThrough, dropThrough, cutBefore_lower h, dropPrefix?_lower h]
  cases dropPrefix? pattern (cutBefore pattern s).2 <;> rfl

theorem takeWhile_lower {p : Char → Bool} (h : ∀ c : Char, p c.toLower = p c) (s : List Char) :
    (lower s).takeWhile p = lower (s.takeWhile p) := by
  rw [lower, List.takeWhile_map, Function.comp_def]
  simp only [h]
  rfl

theorem dropWhile_lower {p : Char → Bool} (h : ∀ c : Char, p c.toLower = p c) (s : List Char) :
    (lower s).dropWhile p = lower (s.dropWhile p) := by
  rw [lower, List.dropWhile_map, Function.comp_def]
  simp only [h]
  rfl

/-! ### Line endings -/

def endsLine (c : Char) : Bool :=
  c == '\r' || c == '\n'

def lacksLineEndings (pattern : List Char) : Bool :=
  pattern.all fun c => !endsLine c

theorem lacksLineEndings_cons {p : Char} {ps : List Char} :
    lacksLineEndings (p :: ps) = true ↔ endsLine p = false ∧ lacksLineEndings ps = true := by
  rw [lacksLineEndings, List.all_cons, Bool.and_eq_true, Bool.not_eq_true']
  rfl

theorem normalizeLineEndings_of_not_mem {s : List Char} (h : '\r' ∉ s) : normalizeLineEndings s = s := by
  fun_induction normalizeLineEndings s with
  | case1 => rfl
  | case2 rest ih => exact absurd List.mem_cons_self h
  | case3 rest _ ih => exact absurd List.mem_cons_self h
  | case4 c rest _ _ ih => rw [ih fun hmem => h (List.mem_cons_of_mem c hmem)]

theorem normalizeLineEndings_cons {c : Char} (h : c ≠ '\r') (cs : List Char) :
    normalizeLineEndings (c :: cs) = c :: normalizeLineEndings cs := by
  rw [normalizeLineEndings]
  · rintro rest rfl
    exact absurd rfl h
  · exact h

/-- A text that begins with a carriage return is read as one that begins with a line feed. -/
theorem exists_normalizeLineEndings_cons (c : Char) (cs : List Char) :
    ∃ d ds, normalizeLineEndings (c :: cs) = d :: ds ∧ (d = c ∨ endsLine c = true ∧ d = '\n') := by
  by_cases h : c = '\r'
  · subst h
    refine ⟨'\n', ?_⟩
    cases cs with
    | nil => exact ⟨_, rfl, Or.inr ⟨rfl, rfl⟩⟩
    | cons e es =>
        by_cases he : e = '\n'
        · subst he
          exact ⟨_, rfl, Or.inr ⟨rfl, rfl⟩⟩
        · refine ⟨normalizeLineEndings (e :: es), ?_, Or.inr ⟨rfl, rfl⟩⟩
          rw [normalizeLineEndings]
          rintro rest hcons
          exact he (List.cons.inj hcons).1
  · exact ⟨c, _, normalizeLineEndings_cons h cs, Or.inl rfl⟩

theorem dropPrefix?_normalizeLineEndings {pattern : List Char}
    (h : lacksLineEndings pattern = true) (s : List Char) :
    dropPrefix? pattern (normalizeLineEndings s) =
      (dropPrefix? pattern s).map normalizeLineEndings := by
  induction pattern generalizing s with
  | nil => cases s <;> simp [dropPrefix?]
  | cons p ps ih =>
      rw [lacksLineEndings_cons] at h
      cases s with
      | nil => rfl
      | cons c cs =>
          by_cases hc : p = c
          · subst hc
            have hp : p ≠ '\r' := by
              rintro rfl
              cases h.1
            rw [normalizeLineEndings_cons hp, dropPrefix?, dropPrefix?, if_pos rfl, if_pos rfl, ih h.2]
          · obtain ⟨d, ds, hcons, hd⟩ := exists_normalizeLineEndings_cons c cs
            have hpd : p ≠ d := by
              rintro rfl
              rcases hd with rfl | ⟨_, rfl⟩
              · exact hc rfl
              · cases h.1
            rw [hcons, dropPrefix?, dropPrefix?, if_neg hc, if_neg hpd]
            rfl

theorem startsWith_normalizeLineEndings {pattern : List Char}
    (h : lacksLineEndings pattern = true) (s : List Char) :
    startsWith pattern (normalizeLineEndings s) = startsWith pattern s := by
  rw [startsWith, startsWith, dropPrefix?_normalizeLineEndings h, Option.isSome_map]

theorem cutBefore_cons_of_endsLine {p : Char} {ps : List Char} (h : endsLine p = false) {c : Char}
    (hc : endsLine c = true) (cs : List Char) :
    (cutBefore (p :: ps) (c :: cs)).2 = (cutBefore (p :: ps) cs).2 := by
  have hne : p ≠ c := by
    rintro rfl
    rw [hc] at h
    cases h
  rw [cutBefore, startsWith, dropPrefix?, if_neg hne]
  rfl

theorem cutBefore_normalizeLineEndings {p : Char} {ps : List Char}
    (h : lacksLineEndings (p :: ps) = true) (s : List Char) :
    (cutBefore (p :: ps) (normalizeLineEndings s)).2 =
      normalizeLineEndings (cutBefore (p :: ps) s).2 := by
  have hp := (lacksLineEndings_cons.mp h).1
  fun_induction normalizeLineEndings s with
  | case1 => rfl
  | case2 rest ih =>
      rw [cutBefore_cons_of_endsLine hp rfl, cutBefore_cons_of_endsLine hp rfl,
        cutBefore_cons_of_endsLine hp rfl, ih]
  | case3 rest _ ih =>
      rw [cutBefore_cons_of_endsLine hp rfl, cutBefore_cons_of_endsLine hp rfl, ih]
  | case4 c rest _ hc ih =>
      have hcons : normalizeLineEndings (c :: rest) = c :: normalizeLineEndings rest :=
        normalizeLineEndings_cons (fun heq => hc heq) rest
      have hstarts := startsWith_normalizeLineEndings h (c :: rest)
      rw [hcons] at hstarts
      rw [cutBefore, cutBefore, hstarts]
      split
      · exact hcons.symm
      · exact ih

theorem dropThrough_normalizeLineEndings {p : Char} {ps : List Char}
    (h : lacksLineEndings (p :: ps) = true) (s : List Char) :
    dropThrough (p :: ps) (normalizeLineEndings s) = normalizeLineEndings (dropThrough (p :: ps) s) := by
  rw [dropThrough, dropThrough, cutBefore_normalizeLineEndings h, dropPrefix?_normalizeLineEndings h]
  cases dropPrefix? (p :: ps) (cutBefore (p :: ps) s).2 <;> rfl

theorem takeWhile_normalizeLineEndings {f : Char → Bool} (hreturn : f '\r' = false)
    (hfeed : f '\n' = false) (s : List Char) :
    (normalizeLineEndings s).takeWhile f = s.takeWhile f := by
  fun_induction normalizeLineEndings s with
  | case1 => rfl
  | case2 rest =>
      rw [List.takeWhile_cons_of_neg (by simp [hfeed]), List.takeWhile_cons_of_neg (by simp [hreturn])]
  | case3 rest =>
      rw [List.takeWhile_cons_of_neg (by simp [hfeed]), List.takeWhile_cons_of_neg (by simp [hreturn])]
  | case4 c rest _ _ ih => rw [List.takeWhile_cons, List.takeWhile_cons, ih]

theorem dropWhile_normalizeLineEndings {f : Char → Bool} (hf : f '\r' = f '\n') (s : List Char) :
    (normalizeLineEndings s).dropWhile f = normalizeLineEndings (s.dropWhile f) := by
  fun_induction normalizeLineEndings s with
  | case1 => rfl
  | case2 rest ih =>
      rw [List.dropWhile_cons, List.dropWhile_cons, hf]
      split
      · rename_i hfeed
        rw [ih, List.dropWhile_cons, if_pos hfeed]
      · rfl
  | case3 rest hrest ih =>
      rw [List.dropWhile_cons, List.dropWhile_cons, hf]
      split
      · exact ih
      · rw [normalizeLineEndings]
        exact hrest
  | case4 c rest _ hc ih =>
      rw [List.dropWhile_cons, List.dropWhile_cons]
      split
      · exact ih
      · exact (normalizeLineEndings_cons (fun heq => hc heq) rest).symm

end MarkupModule.Text
