import MarkupModule.Markup.Writer
import Mathlib.Data.List.DropRight
import Mathlib.Data.List.Basic

/-! The words of a text, which stand between white space of markup, and its solid characters, which are
those in words. Collapsing white space keeps both. Trimming takes away Unicode white space, which is more,
so that it keeps the words only if nothing but white space of markup stands at both ends. -/

namespace MarkupModule.Text

open MarkupModule.Markup

/-- What stands between white space of markup. -/
def words (s : List Char) : List (List Char) :=
  (s.splitOnP isSpace).filter fun word => !word.isEmpty

/-- The characters that are no white space of markup. -/
def solid (s : List Char) : List Char :=
  s.filter fun c => !isSpace c

/-- What trimming takes away. -/
def margins (s : List Char) : List Char :=
  s.takeWhile isBlankChar ++ (trimStart s).rtakeWhile isBlankChar

/-! ### Words -/

theorem words_append_space {c : Char} (h : isSpace c = true) (s t : List Char) :
    words (s ++ c :: t) = words s ++ words t := by
  rw [words, List.splitOnP_append_cons s t h, List.filter_append]
  rfl

theorem words_cons_space {c : Char} (h : isSpace c = true) (s : List Char) : words (c :: s) = words s :=
  words_append_space h [] s

theorem words_append_of_all {margin : List Char} (h : margin.all isSpace = true) (s : List Char) :
    words (margin ++ s) = words s := by
  induction margin with
  | nil => rfl
  | cons c rest ih =>
      rw [List.all_cons, Bool.and_eq_true] at h
      rw [List.cons_append, words_cons_space h.1, ih h.2]

theorem words_of_all {s : List Char} (h : s.all isSpace = true) : words s = [] := by
  have := words_append_of_all h []
  rwa [List.append_nil] at this

theorem append_words_of_all {margin : List Char} (h : margin.all isSpace = true) (s : List Char) :
    words (s ++ margin) = words s := by
  cases margin with
  | nil => rw [List.append_nil]
  | cons c rest =>
      rw [List.all_cons, Bool.and_eq_true] at h
      rw [words_append_space h.1, words_of_all h.2, List.append_nil]

theorem solid_append (s t : List Char) : solid (s ++ t) = solid s ++ solid t :=
  List.filter_append ..

theorem solid_eq_nil_iff {s : List Char} : solid s = [] ↔ s.all isSpace = true := by
  simp [solid, List.filter_eq_nil_iff]

theorem flatten_filter_not_isEmpty (parts : List (List Char)) :
    (parts.filter fun part => !part.isEmpty).flatten = parts.flatten := by
  induction parts with
  | nil => rfl
  | cons part rest ih => cases part <;> simp [ih]

/-- The words of a text hold its solid characters. -/
theorem flatten_words (s : List Char) : (words s).flatten = solid s := by
  rw [words, flatten_filter_not_isEmpty]
  induction s with
  | nil => rfl
  | cons c cs ih =>
      rw [List.splitOnP_cons_eq_if_modifyHead, solid, List.filter_cons]
      by_cases hc : isSpace c = true
      · simpa [hc, solid] using ih
      · obtain ⟨first, rest, hsplit⟩ := List.exists_cons_of_ne_nil (List.splitOnP_ne_nil isSpace cs)
        rw [hsplit] at ih
        simpa [hc, hsplit, solid] using ih

/-! ### Collapsing -/

theorem solid_collapseBehind (b : Bool) (s : List Char) : solid (collapseBehind b s) = solid s := by
  induction s generalizing b with
  | nil => rfl
  | cons c cs ih =>
      rw [collapseBehind]
      by_cases hc : isSpace c = true
      · have hspace : isSpace ' ' = true := rfl
        rw [if_pos hc]
        split
        · rw [ih, solid, solid, List.filter_cons_of_neg (by simp [hc])]
        · rw [solid, List.filter_cons_of_neg (by simp [hspace])]
          change solid (collapseBehind true cs) = _
          rw [ih, solid, solid, List.filter_cons_of_neg (by simp [hc])]
      · rw [if_neg hc, solid, List.filter_cons_of_pos (by simp [hc]), solid,
          List.filter_cons_of_pos (by simp [hc])]
        exact congrArg (c :: ·) (ih false)

/-- White space collapses behind a text that does not end in any, or behind none. -/
theorem words_append_collapseBehind (s : List Char) :
    (∀ before, words (before ++ collapseBehind false s) = words (before ++ s)) ∧
      words (collapseBehind true s) = words s := by
  induction s with
  | nil => exact ⟨fun _ => rfl, rfl⟩
  | cons c cs ih =>
      obtain ⟨hbehind, hspace⟩ := ih
      by_cases hc : isSpace c = true
      · refine ⟨fun before => ?_, ?_⟩
        · rw [collapseBehind, if_pos hc, if_neg Bool.false_ne_true, words_append_space rfl, hspace,
            words_append_space hc]
        · rw [collapseBehind, if_pos hc, if_pos rfl, hspace, words_cons_space hc]
      · refine ⟨fun before => ?_, ?_⟩
        · have := hbehind (before ++ [c])
          rw [collapseBehind, if_neg hc]
          simpa using this
        · rw [collapseBehind, if_neg hc]
          exact hbehind [c]

theorem words_collapse (s : List Char) : words (collapse s) = words s :=
  (words_append_collapseBehind s).1 []

/-! ### Trimming -/

theorem trim_append_margins (s : List Char) :
    s = s.takeWhile isBlankChar ++ (trim s ++ (trimStart s).rtakeWhile isBlankChar) := by
  have hend : trim s ++ (trimStart s).rtakeWhile isBlankChar = trimStart s :=
    List.rdropWhile_append_rtakeWhile
  rw [hend]
  exact List.takeWhile_append_dropWhile.symm

/-- Trimming keeps the words of a text when all that it takes away is white space of markup. -/
theorem words_trim_iff {s : List Char} : words (trim s) = words s ↔ (margins s).all isSpace = true := by
  have hsplit := trim_append_margins s
  rw [margins, List.all_append, Bool.and_eq_true]
  constructor
  · intro h
    have hkept : solid (trim s) = solid s := by rw [← flatten_words, ← flatten_words, h]
    have hlength := congrArg (fun t => (solid t).length) hsplit
    simp only [solid_append, List.length_append, hkept] at hlength
    constructor
    · exact solid_eq_nil_iff.mp (List.eq_nil_of_length_eq_zero (by omega))
    · exact solid_eq_nil_iff.mp (List.eq_nil_of_length_eq_zero (by omega))
  · rintro ⟨hstart, hend⟩
    calc words (trim s)
        = words (trim s ++ (trimStart s).rtakeWhile isBlankChar) := (append_words_of_all hend _).symm
      _ = words (s.takeWhile isBlankChar ++ (trim s ++ (trimStart s).rtakeWhile isBlankChar)) :=
          (words_append_of_all hstart _).symm
      _ = words s := by rw [← hsplit]

/-- Nothing is left of a text once it is trimmed if it is blank. -/
theorem trim_eq_nil_iff {s : List Char} : trim s = [] ↔ isBlank s = true := by
  have htrim : trim s = (s.dropWhile isBlankChar).rdropWhile isBlankChar := rfl
  rw [htrim, List.rdropWhile_eq_nil_iff, ← List.dropWhile_eq_nil_iff, List.dropWhile_idempotent,
    List.dropWhile_eq_nil_iff, isBlank, List.all_eq_true]

/-- The words of a text that is trimmed and collapsed. -/
theorem words_collapse_trim_iff {s : List Char} :
    words (collapse (trim s)) = words s ↔ (margins s).all isSpace = true := by
  rw [words_collapse, words_trim_iff]

end MarkupModule.Text
