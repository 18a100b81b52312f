import MarkupModule.Encoding.Utf16
import MarkupModule.Text.Ascii
import Mathlib.Data.List.Basic

/-! String literals of module code, read by the rules of JavaScript. A literal runs from a quote to the
next one like it; a backslash begins an escape sequence, and a raw line break makes the literal invalid.
What it denotes is a list of UTF-16 units, since an escape sequence may give half of a surrogate pair. A
text put between quotes as it is denotes itself exactly when it has no such quote, no backslash and no
line break. -/

namespace MarkupModule.Script

open Encoding.Utf16 (unitsOf)
open Text (isHexDigit numeral)

def units (s : List Char) : List Nat :=
  s.flatMap unitsOf

/-- The UTF-16 units of a code point, which need not be a character. -/
def codePointUnits (n : Nat) : List Nat :=
  if n < 0x10000 then [n]
  else [0xD800 + (n - 0x10000) / 1024, 0xDC00 + (n - 0x10000) % 1024]

/-- A character that a line may end with. Behind a backslash it denotes nothing. -/
def isLineTerminator (c : Char) : Bool :=
  c == '\n' || c == '\r' || c == '\u2028' || c == '\u2029'

/-- The units that a single character denotes behind a backslash. -/
def characterEscape (c : Char) : List Nat :=
  if isLineTerminator c then []
  else if c = 'b' then [8]
  else if c = 't' then [9]
  else if c = 'n' then [10]
  else if c = 'v' then [11]
  else if c = 'f' then [12]
  else if c = 'r' then [13]
  else unitsOf c

/-- An escape sequence by a number of two digits, read from what follows the letter `x`. -/
def hexEscape? : List Char → Option (List Nat × List Char)
  | a :: b :: rest =>
    if [a, b].all isHexDigit then some ([numeral 16 [a, b]], rest) else none
  | _ => none

/-- An escape sequence by a number of four digits, or of any length between braces, read from what
follows the letter `u`. -/
def unicodeEscape? : List Char → Option (List Nat × List Char)
  | '\x7b' :: rest =>
    let digits := rest.takeWhile isHexDigit
    match rest.dropWhile isHexDigit with
    | '\x7d' :: rest =>
      if digits.isEmpty || 0x10FFFF < numeral 16 digits then none
      else some (codePointUnits (numeral 16 digits), rest)
    | _ => none
  | a :: b :: c :: d :: rest =>
    if [a, b, c, d].all isHexDigit then some ([numeral 16 [a, b, c, d]], rest) else none
  | _ => none

/-- An escape sequence, read from what follows the backslash: the units that it denotes, and what
follows. A digit is an escape sequence only as a zero that no digit follows. -/
def escape? : List Char → Option (List Nat × List Char)
  | [] => none
  | 'x' :: rest => hexEscape? rest
  | 'u' :: rest => unicodeEscape? rest
  | '\r' :: '\n' :: rest => some ([], rest)
  | c :: rest =>
    if c.isDigit then
      if c = '0' && !rest.head?.any Char.isDigit then some ([0], rest) else none
    else some (characterEscape c, rest)

theorem length_unitsOf_pos (c : Char) : 0 < (unitsOf c).length := by
  rw [unitsOf]
  split <;> simp

theorem units_append (s t : List Char) : units (s ++ t) = units s ++ units t :=
  List.flatMap_append

theorem units_cons (c : Char) (s : List Char) : units (c :: s) = unitsOf c ++ units s :=
  List.flatMap_cons

theorem length_le_length_units (s : List Char) : s.length ≤ (units s).length := by
  induction s with
  | nil => exact Nat.le_refl 0
  | cons c cs ih =>
      have := length_unitsOf_pos c
      rw [units_cons, List.length_append, List.length_cons]
      omega

theorem length_codePointUnits_le (n : Nat) : (codePointUnits n).length ≤ 2 := by
  rw [codePointUnits]
  split <;> simp

theorem length_characterEscape_le (c : Char) : (characterEscape c).length ≤ (unitsOf c).length := by
  have := length_unitsOf_pos c
  rw [characterEscape]
  split_ifs <;> simp <;> omega

/-- What is read and what follows it make up the text, and fewer units are denoted than were read. -/
def Shortens (s : List Char) (result : List Nat × List Char) : Prop :=
  ∃ raw, s = raw ++ result.2 ∧ result.1.length ≤ (units raw).length

theorem shortens_hexEscape? {s : List Char} {result : List Nat × List Char}
    (h : hexEscape? s = some result) : Shortens s result := by
  unfold hexEscape? at h
  split at h
  · rename_i a b rest
    split at h
    · rw [Option.some.injEq] at h
      subst h
      refine ⟨[a, b], rfl, ?_⟩
      have := length_le_length_units [a, b]
      simp only [List.length_cons, List.length_nil] at this ⊢
      omega
    · cases h
  · cases h

theorem shortens_unicodeEscape? {s : List Char} {result : List Nat × List Char}
    (h : unicodeEscape? s = some result) : Shortens s result := by
  unfold unicodeEscape? at h
  split at h
  · rename_i rest
    dsimp only at h
    split at h
    · rename_i after hafter
      split at h
      · cases h
      · rw [Option.some.injEq] at h
        subst h
        refine ⟨'\x7b' :: rest.takeWhile isHexDigit ++ ['\x7d'], ?_, ?_⟩
        · nth_rewrite 1 [← List.takeWhile_append_dropWhile (p := isHexDigit) (l := rest)]
          rw [hafter]
          simp
        · have h1 := length_codePointUnits_le (numeral 16 (rest.takeWhile isHexDigit))
          have h2 := length_le_length_units ('\x7b' :: rest.takeWhile isHexDigit ++ ['\x7d'])
          simp only [List.length_append, List.length_cons, List.length_nil] at h2 ⊢
          omega
    · cases h
  · rename_i a b c d rest _
    split at h
    · rw [Option.some.injEq] at h
      subst h
      refine ⟨[a, b, c, d], rfl, ?_⟩
      have := length_le_length_units [a, b, c, d]
      simp only [List.length_cons, List.length_nil] at this ⊢
      omega
    · cases h
  · cases h

theorem Shortens.cons {s : List Char} {result : List Nat × List Char} (h : Shortens s result)
    (c : Char) : Shortens (c :: s) result := by
  obtain ⟨raw, rfl, hlength⟩ := h
  refine ⟨c :: raw, rfl, ?_⟩
  rw [units_cons, List.length_append]
  omega

theorem shortens_escape? {s : List Char} {result : List Nat × List Char}
    (h : escape? s = some result) : Shortens s result := by
  unfold escape? at h
  split at h
  · cases h
  · exact (shortens_hexEscape? h).cons 'x'
  · exact (shortens_unicodeEscape? h).cons 'u'
  · rw [Option.some.injEq] at h
    subst h
    exact ⟨['\r', '\n'], rfl, Nat.zero_le _⟩
  · rename_i c rest _ _ _
    split at h
    · split at h
      · rw [Option.some.injEq] at h
        subst h
        exact ⟨[c], rfl, length_le_length_units [c]⟩
      · cases h
    · rw [Option.some.injEq] at h
      subst h
      exact ⟨[c], rfl, by simpa [units] using length_characterEscape_le c⟩

theorem length_escape?_le {s rest : List Char} {denoted : List Nat}
    (h : escape? s = some (denoted, rest)) : rest.length ≤ s.length := by
  obtain ⟨raw, rfl, _⟩ := shortens_escape? h
  simp

/-- Reads a literal from what follows its opening quote: the units that it denotes, and what follows its
closing quote. -/
def readTo? (quote : Char) (s : List Char) : Option (List Nat × List Char) :=
  match s with
  | [] => none
  | c :: cs =>
    if c = quote then some ([], cs)
    else if c = '\\' then
      match _found : escape? cs with
      | some (denoted, rest) => (readTo? quote rest).map fun read => (denoted ++ read.1, read.2)
      | none => none
    else if c = '\n' || c = '\r' then none
    else (readTo? quote cs).map fun read => (unitsOf c ++ read.1, read.2)
termination_by s.length
decreasing_by
  · have := length_escape?_le _found
    simp only [List.length_cons]
    omega
  · simp

/-- Reads a literal from its opening quote. -/
def literal? : List Char → Option (List Nat × List Char)
  | '\'' :: s => readTo? '\'' s
  | '"' :: s => readTo? '"' s
  | _ => none

/-- A character that stands for itself between single quotes. -/
def IsPlainChar (c : Char) : Prop :=
  c ≠ '\'' ∧ c ≠ '\\' ∧ c ≠ '\n' ∧ c ≠ '\r'

/-- A text that may be put between single quotes as it is. -/
def IsPlain (s : List Char) : Prop :=
  ∀ c ∈ s, IsPlainChar c

theorem isPlain_append_iff {s t : List Char} : IsPlain (s ++ t) ↔ IsPlain s ∧ IsPlain t :=
  List.forall_mem_append

theorem readTo?_cons_of_isPlainChar {c : Char} (h : IsPlainChar c) (s : List Char) :
    readTo? '\'' (c :: s) = (readTo? '\'' s).map fun read => (unitsOf c ++ read.1, read.2) := by
  obtain ⟨hquote, hbackslash, hfeed, hreturn⟩ := h
  rw [readTo?, if_neg hquote, if_neg hbackslash, if_neg (by simp [hfeed, hreturn])]

theorem readTo?_of_isPlain {s : List Char} (h : IsPlain s) (rest : List Char) :
    readTo? '\'' (s ++ '\'' :: rest) = some (units s, rest) := by
  induction s with
  | nil =>
      rw [List.nil_append, readTo?, if_pos rfl]
      rfl
  | cons c cs ih =>
      rw [List.cons_append, readTo?_cons_of_isPlainChar (h c List.mem_cons_self),
        ih fun d hd => h d (List.mem_cons_of_mem _ hd), units_cons]
      rfl

/-- A literal ends at a quote, and denotes fewer units than it is written with unless it is plain. -/
theorem exists_raw_of_readTo? {s rest : List Char} {denoted : List Nat}
    (h : readTo? '\'' s = some (denoted, rest)) :
    ∃ raw, s = raw ++ '\'' :: rest ∧ denoted.length ≤ (units raw).length ∧
      (denoted.length = (units raw).length → IsPlain raw) := by
  fun_induction readTo? '\'' s generalizing denoted rest with
  | case1 => cases h
  | case2 cs =>
      simp only [Option.some.injEq, Prod.mk.injEq] at h
      obtain ⟨rfl, rfl⟩ := h
      exact ⟨[], rfl, Nat.le_refl 0, fun _ c hc => by cases hc⟩
  | case3 cs escaped after hescape _ ih =>
      obtain ⟨inner, hread, heq⟩ := Option.map_eq_some_iff.mp h
      obtain ⟨rfl, rfl⟩ := Prod.mk.inj heq
      obtain ⟨raw, rfl, hle, _⟩ := ih hread
      obtain ⟨sequence, rfl, hshort⟩ := shortens_escape? hescape
      dsimp only at hshort
      -- the backslash is one more unit than the sequence denotes
      have hlength : (units ('\\' :: (sequence ++ raw))).length =
          1 + (units sequence).length + (units raw).length := by
        rw [units_cons, units_append, List.length_append, List.length_append,
          show (unitsOf '\\').length = 1 from rfl]
        omega
      refine ⟨'\\' :: (sequence ++ raw), by simp, ?_, ?_⟩
      · rw [hlength, List.length_append]
        omega
      · rw [hlength, List.length_append]
        omega
  | case4 => cases h
  | case5 => cases h
  | case6 c cs hquote hbackslash hbreak ih =>
      obtain ⟨inner, hread, heq⟩ := Option.map_eq_some_iff.mp h
      obtain ⟨rfl, rfl⟩ := Prod.mk.inj heq
      obtain ⟨raw, rfl, hle, hplain⟩ := ih hread
      refine ⟨c :: raw, rfl, ?_, ?_⟩
      · rw [units_cons, List.length_append, List.length_append]
        omega
      · rw [units_cons, List.length_append, List.length_append]
        intro hlength d hd
        rcases List.mem_cons.mp hd with rfl | hd
        · simp only [Bool.or_eq_true, decide_eq_true_eq, not_or] at hbreak
          exact ⟨hquote, hbackslash, hbreak⟩
        · exact hplain (by omega) d hd

/-- A text between single quotes ends at the quote behind it and denotes itself exactly when it is
plain. -/
theorem literal?_quoted_iff (s rest : List Char) :
    literal? ('\'' :: (s ++ '\'' :: rest)) = some (units s, rest) ↔ IsPlain s := by
  rw [literal?]
  constructor
  · intro h
    obtain ⟨raw, heq, _, hplain⟩ := exists_raw_of_readTo? h
    have hraw : s = raw := List.append_cancel_right heq
    subst hraw
    exact hplain rfl
  · intro h
    exact readTo?_of_isPlain h rest

end MarkupModule.Script
