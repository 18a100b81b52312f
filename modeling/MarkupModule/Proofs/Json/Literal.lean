import MarkupModule.Json.Literal
import MarkupModule.Json.Quote
import Mathlib.Data.List.Basic

/-! Text between quotes is read back as it was written: the reader of string literals inverts the writer,
whatever follows the literal. A literal that is written holds no control character, so it stands on one
line. Reading one never goes back in the text. -/

namespace MarkupModule.Json

open MarkupModule.Text

/-! ### Written literals hold no control characters -/

theorem hexDigit_not_control : ∀ n < 16, 0x20 ≤ (hexDigit n).toNat := by
  decide

theorem not_control_of_mem_escape {letter d : Char} (hletter : 0x20 ≤ letter.toNat)
    (h : d ∈ ['\\', letter]) : 0x20 ≤ d.toNat := by
  rw [List.mem_pair] at h
  rcases h with rfl | rfl
  · decide
  · exact hletter

theorem not_control_of_mem_quoteChar {c d : Char} (h : d ∈ quoteChar c) : 0x20 ≤ d.toNat := by
  rw [quoteChar] at h
  split_ifs at h with hquote hslash hbackspace htab hfeed hform hreturn hcontrol
  · exact not_control_of_mem_escape (by decide) h
  · exact not_control_of_mem_escape (by decide) h
  · exact not_control_of_mem_escape (by decide) h
  · exact not_control_of_mem_escape (by decide) h
  · exact not_control_of_mem_escape (by decide) h
  · exact not_control_of_mem_escape (by decide) h
  · exact not_control_of_mem_escape (by decide) h
  · simp only [List.mem_cons, List.not_mem_nil, or_false] at h
    rcases h with h | h | h | h | h | h
    · rw [h]
      decide
    · rw [h]
      decide
    · rw [h]
      decide
    · rw [h]
      decide
    · rw [h]
      exact hexDigit_not_control _ (by omega)
    · rw [h]
      exact hexDigit_not_control _ (by omega)
  · obtain rfl := List.mem_singleton.mp h
    exact Nat.le_of_not_lt hcontrol

/-- No character of a written literal is a control character. -/
theorem not_control_of_mem_quote {s : List Char} {d : Char} (h : d ∈ quote s) : 0x20 ≤ d.toNat := by
  rw [quote, List.cons_append, List.mem_cons, List.mem_append, List.mem_flatMap,
    List.mem_singleton] at h
  rcases h with rfl | ⟨c, -, hd⟩ | rfl
  · decide
  · exact not_control_of_mem_quoteChar hd
  · decide

theorem not_mem_quote {s : List Char} : '\n' ∉ quote s := by
  intro hmem
  exact absurd (not_control_of_mem_quote hmem) (by decide)

/-! ### Reading what is written -/

/-- The digits of a control character are read as its number. -/
theorem digits_of_control : ∀ n < 0x20,
    (isHexDigit (hexDigit (n / 16)) && isHexDigit (hexDigit (n % 16))) = true ∧
      numeral 16 ['0', '0', hexDigit (n / 16), hexDigit (n % 16)] = n := by
  decide

theorem fourDigits_of_control {n : Nat} (h : n < 0x20) (rest : List Char) (line column : Nat) :
    fourDigits ⟨'0' :: '0' :: hexDigit (n / 16) :: hexDigit (n % 16) :: rest, line, column⟩ =
      .ok (n, ⟨rest, line, column + 4⟩) := by
  obtain ⟨hdigits, hvalue⟩ := digits_of_control n h
  have hzero : isHexDigit '0' = true := by decide
  rw [Bool.and_eq_true] at hdigits
  simp only [fourDigits, hzero, hdigits.1, hdigits.2, Bool.and_self, if_true, hvalue]

theorem escaped_of_control {c : Char} (h : c.toNat < 0x20) (rest : List Char) (line column : Nat) :
    escaped ⟨'u' :: '0' :: '0' :: hexDigit (c.toNat / 16) :: hexDigit (c.toNat % 16) :: rest, line,
      column⟩ = .ok (c, ⟨rest, line, column + 5⟩) := by
  have hlow : (decide (0xDC00 ≤ c.toNat) && decide (c.toNat < 0xE000)) = false := by
    rw [Bool.and_eq_false_iff]
    left
    rw [decide_eq_false_iff_not]
    omega
  have hhigh : (decide (0xD800 ≤ c.toNat) && decide (c.toNat < 0xDC00)) = false := by
    rw [Bool.and_eq_false_iff]
    left
    rw [decide_eq_false_iff_not]
    omega
  have hread := fourDigits_of_control h rest line (column + 1)
  rw [escaped]
  change (fourDigits ⟨_, line, column + 1⟩ >>= _) = _
  rw [hread]
  change (if (decide (0xDC00 ≤ c.toNat) && decide (c.toNat < 0xE000)) = true then _ else
    if (decide (0xD800 ≤ c.toNat) && decide (c.toNat < 0xDC00)) = true then _ else _) = _
  rw [hlow, hhigh, if_neg Bool.false_ne_true, if_neg Bool.false_ne_true, Char.ofNat_toNat]

/-- An escape letter is read as the character that it stands for. -/
theorem literalWithin_letter {c letter : Char} (hletter : escapeLetter? letter = some c) (n : Nat)
    (rest : List Char) (line column : Nat) (read : List Char) :
    ∃ next : Cursor, next.rest = rest ∧
      literalWithin (n + 1) ⟨'\\' :: letter :: rest, line, column⟩ read =
        literalWithin n next (c :: read) := by
  refine ⟨Cursor.skip ⟨letter :: rest, line, column + 1⟩ letter rest, ?_, ?_⟩
  · rw [Cursor.skip]
    split <;> rfl
  · have hu : letter ≠ 'u' := by
      rintro rfl
      cases hletter
    have hescaped : escaped ⟨letter :: rest, line, column + 1⟩ =
        .ok (c, Cursor.skip ⟨letter :: rest, line, column + 1⟩ letter rest) := by
      rw [escaped]
      split
      · rename_i heq
        cases heq
      · rename_i heq
        exact absurd (List.cons.inj heq).1 hu
      · rename_i d ds _ heq
        obtain ⟨rfl, rfl⟩ := List.cons.inj heq
        rw [hletter]
    rw [literalWithin]
    change (escaped ⟨letter :: rest, line, column + 1⟩ >>= _) = _
    rw [hescaped]
    rfl

theorem literalWithin_control {c : Char} (h : c.toNat < 0x20) (n : Nat) (rest : List Char)
    (line column : Nat) (read : List Char) :
    ∃ next : Cursor, next.rest = rest ∧
      literalWithin (n + 1) ⟨'\\' :: 'u' :: '0' :: '0' :: hexDigit (c.toNat / 16) ::
        hexDigit (c.toNat % 16) :: rest, line, column⟩ read = literalWithin n next (c :: read) := by
  refine ⟨⟨rest, line, column + 6⟩, rfl, ?_⟩
  rw [literalWithin]
  change (escaped ⟨_, line, column + 1⟩ >>= _) = _
  rw [escaped_of_control h]
  rfl

theorem literalWithin_plain {c : Char} (hquote : c ≠ '"') (hslash : c ≠ '\\') (h : ¬c.toNat < 0x20)
    (n : Nat) (rest : List Char) (line column : Nat) (read : List Char) :
    ∃ next : Cursor, next.rest = rest ∧
      literalWithin (n + 1) ⟨c :: rest, line, column⟩ read = literalWithin n next (c :: read) := by
  refine ⟨Cursor.skip ⟨c :: rest, line, column⟩ c rest, ?_, ?_⟩
  · rw [Cursor.skip]
    split <;> rfl
  · rw [literalWithin]
    split
    · rename_i heq
      cases heq
    · rename_i heq
      exact absurd (List.cons.inj heq).1 hquote
    · rename_i heq
      exact absurd (List.cons.inj heq).1 hslash
    · rename_i d ds _ _ heq
      obtain ⟨rfl, rfl⟩ := List.cons.inj heq
      rw [if_neg h]

/-- What is written for a character is read as this character. -/
theorem literalWithin_quoteChar (c : Char) (n : Nat) (rest : List Char) (line column : Nat)
    (read : List Char) :
    ∃ next : Cursor, next.rest = rest ∧
      literalWithin (n + 1) ⟨quoteChar c ++ rest, line, column⟩ read =
        literalWithin n next (c :: read) := by
  rw [quoteChar]
  split_ifs with hquote hslash hbackspace htab hfeed hform hreturn hcontrol
  · exact literalWithin_letter (by rw [hquote]; rfl) n rest line column read
  · exact literalWithin_letter (by rw [hslash]; rfl) n rest line column read
  · exact literalWithin_letter (by rw [hbackspace]; rfl) n rest line column read
  · exact literalWithin_letter (by rw [htab]; rfl) n rest line column read
  · exact literalWithin_letter (by rw [hfeed]; rfl) n rest line column read
  · exact literalWithin_letter (by rw [hform]; rfl) n rest line column read
  · exact literalWithin_letter (by rw [hreturn]; rfl) n rest line column read
  · exact literalWithin_control hcontrol n rest line column read
  · exact literalWithin_plain hquote hslash hcontrol n rest line column read

theorem literalWithin_flatMap_quoteChar {s : List Char} {n : Nat} (h : s.length < n) (rest : List Char)
    (line column : Nat) (read : List Char) :
    ∃ next : Cursor, next.rest = rest ∧
      literalWithin n ⟨s.flatMap quoteChar ++ '"' :: rest, line, column⟩ read =
        .ok (String.ofList (read.reverse ++ s), next) := by
  induction s generalizing n line column read with
  | nil =>
      obtain ⟨m, rfl⟩ := Nat.exists_eq_add_of_lt h
      refine ⟨Cursor.skip ⟨'"' :: rest, line, column⟩ '"' rest, rfl, ?_⟩
      rw [List.append_nil]
      rfl
  | cons c cs ih =>
      obtain ⟨m, rfl⟩ := Nat.exists_eq_add_of_lt h
      rw [List.length_cons] at h
      obtain ⟨⟨_, line', column'⟩, rfl, hstep⟩ := literalWithin_quoteChar c (cs.length + 1 + m)
        (cs.flatMap quoteChar ++ '"' :: rest) line column read
      obtain ⟨next, hnext, hread⟩ := ih (show cs.length < cs.length + 1 + m by omega) line' column'
        (c :: read)
      refine ⟨next, hnext, ?_⟩
      rw [List.flatMap_cons, List.append_assoc, List.length_cons, hstep, hread, List.reverse_cons,
        List.append_assoc]
      rfl

theorem length_le_length_flatMap_quoteChar (s : List Char) :
    s.length ≤ (s.flatMap quoteChar).length := by
  induction s with
  | nil => exact Nat.le_refl 0
  | cons c cs ih =>
      have hpos : 0 < (quoteChar c).length := by
        rw [quoteChar]
        split_ifs <;> exact Nat.succ_pos _
      rw [List.flatMap_cons, List.length_append, List.length_cons]
      omega

/-- A written literal is read back as the text it was written for, up to its closing quote. -/
theorem literal_quote (s rest : List Char) (line column : Nat) :
    ∃ next : Cursor, next.rest = rest ∧
      literal ⟨s.flatMap quoteChar ++ '"' :: rest, line, column⟩ = .ok (String.ofList s, next) := by
  have hlength := length_le_length_flatMap_quoteChar s
  exact literalWithin_flatMap_quoteChar (by simp only [List.length_append]; omega) rest line column []

/-! ### Reading moves forward -/

theorem rest_skip (cursor : Cursor) (c : Char) (rest : List Char) : (cursor.skip c rest).rest = rest := by
  rw [Cursor.skip]
  split <;> rfl

theorem length_rest_fourDigits_le {cursor next : Cursor} {n : Nat} (h : fourDigits cursor = .ok (n, next)) :
    next.rest.length ≤ cursor.rest.length := by
  have hshort : ∀ cursor' : Cursor, fourDigits.short cursor' ≠ .ok (n, next) := by
    intro cursor' hshort
    rw [fourDigits.short] at hshort
    dsimp only [Cursor.fail] at hshort
    split_ifs at hshort
  unfold fourDigits at h
  split at h
  · rename_i hrest
    split_ifs at h
    · obtain ⟨-, rfl⟩ := Prod.mk.inj (Except.ok.inj h)
      rw [hrest]
      simp only [List.length_cons]
      omega
    · exact absurd h (hshort _)
  · exact absurd h (hshort _)

theorem length_rest_lowSurrogate_le {cursor next : Cursor} {high : Nat} {c : Char}
    (h : lowSurrogate high cursor = .ok (c, next)) : next.rest.length ≤ cursor.rest.length := by
  unfold lowSurrogate at h
  split at h
  · cases h
  · rename_i rest hrest
    rw [hrest]
    dsimp only at h
    split at h
    · cases h
    · rename_i rest'
      cases hdigits : fourDigits ((cursor.skip '\\' ('u' :: rest')).skip 'u' rest') with
      | error problem =>
          rw [hdigits] at h
          cases h
      | ok result =>
          obtain ⟨low, behind⟩ := result
          have hlength := length_rest_fourDigits_le hdigits
          rw [rest_skip] at hlength
          rw [hdigits] at h
          change (if (decide (0xDC00 ≤ low) && decide (low < 0xE000)) = true then
            Except.ok (_, behind) else behind.fail .loneSurrogate) = _ at h
          split at h
          · obtain ⟨-, rfl⟩ := Prod.mk.inj (Except.ok.inj h)
            simp only [List.length_cons]
            omega
          · cases h
    · rename_i hmark
      unfold Cursor.failAtNext at h
      split at h <;> cases h
  · unfold Cursor.failAtNext at h
    split at h <;> cases h

theorem length_rest_escaped_le {cursor next : Cursor} {c : Char} (h : escaped cursor = .ok (c, next)) :
    next.rest.length ≤ cursor.rest.length := by
  unfold escaped at h
  split at h
  · cases h
  · rename_i rest hrest
    rw [hrest]
    cases hdigits : fourDigits (cursor.skip 'u' rest) with
    | error problem =>
        rw [hdigits] at h
        cases h
    | ok result =>
        obtain ⟨n, behind⟩ := result
        have hlength := length_rest_fourDigits_le hdigits
        rw [rest_skip] at hlength
        rw [hdigits] at h
        change (if (decide (0xDC00 ≤ n) && decide (n < 0xE000)) = true then behind.fail .loneSurrogate
          else if (decide (0xD800 ≤ n) && decide (n < 0xDC00)) = true then lowSurrogate n behind
          else Except.ok (Char.ofNat n, behind)) = _ at h
        rw [List.length_cons]
        split at h
        · cases h
        · split at h
          · have := length_rest_lowSurrogate_le h
            omega
          · obtain ⟨-, rfl⟩ := Prod.mk.inj (Except.ok.inj h)
            omega
  · rename_i letter rest _ hrest
    rw [hrest]
    split at h
    · obtain ⟨-, rfl⟩ := Prod.mk.inj (Except.ok.inj h)
      rw [rest_skip, List.length_cons]
      omega
    · unfold Cursor.failAtNext at h
      split at h <;> cases h

theorem length_rest_literalWithin_le {n : Nat} {cursor next : Cursor} {read : List Char} {s : String}
    (h : literalWithin n cursor read = .ok (s, next)) : next.rest.length ≤ cursor.rest.length := by
  induction n generalizing cursor read with
  | zero => cases h
  | succ n ih =>
      unfold literalWithin at h
      split at h
      · cases h
      · rename_i rest hrest
        obtain ⟨-, rfl⟩ := Prod.mk.inj (Except.ok.inj h)
        rw [hrest, rest_skip, List.length_cons]
        omega
      · rename_i rest hrest
        rw [hrest]
        cases hescaped : escaped (cursor.skip '\\' rest) with
        | error problem =>
            rw [hescaped] at h
            cases h
        | ok result =>
            obtain ⟨c, behind⟩ := result
            have hlength := length_rest_escaped_le hescaped
            rw [rest_skip] at hlength
            rw [hescaped] at h
            have := ih h
            rw [List.length_cons]
            omega
      · rename_i c rest _ _ hrest
        rw [hrest]
        split at h
        · cases h
        · have := ih h
          rw [rest_skip] at this
          rw [List.length_cons]
          omega

/-- What follows a literal is no longer than the text it is read from. -/
theorem length_rest_literal_le {cursor next : Cursor} {s : String}
    (h : literal cursor = .ok (s, next)) : next.rest.length ≤ cursor.rest.length :=
  length_rest_literalWithin_le h

end MarkupModule.Json
