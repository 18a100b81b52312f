import MarkupModule.Encoding.Utf8

/-! Decoding inverts encoding: bytes are decoded to a text exactly when they are its encoding, so bytes
that are no encoding are refused and no text has two. -/

namespace MarkupModule.Encoding.Utf8

theorem toNat_ofNat_of_lt {n : Nat} (h : n < 256) : (UInt8.ofNat n).toNat = n := by
  rw [UInt8.toNat_ofNat']
  omega

theorem toNat_continuation (n : Nat) : (continuation n).toNat = 0x80 + n % 64 :=
  toNat_ofNat_of_lt (by omega)

theorem continuation_congr {m n : Nat} (h : m % 64 = n % 64) : continuation m = continuation n := by
  rw [continuation, h, continuation]

theorem checked_eq_some_iff {least n : Nat} {c : Char} :
    checked least n = some c ↔ least ≤ n ∧ c.toNat = n := by
  rw [checked]
  constructor
  · intro h
    by_cases hvalid : least ≤ n ∧ n.isValidChar
    · rw [dif_pos hvalid] at h
      obtain rfl := Option.some.inj h
      exact ⟨hvalid.1, rfl⟩
    · rw [dif_neg hvalid] at h
      cases h
  · rintro ⟨hleast, rfl⟩
    rw [dif_pos ⟨hleast, c.valid⟩]
    exact congrArg some (Char.ext rfl)

theorem continuationBits_eq_some_iff {b : UInt8} {x : Nat} :
    continuationBits b = some x ↔ x < 64 ∧ b = continuation x := by
  rw [continuationBits]
  constructor
  · intro h
    split at h
    · rename_i hbounds
      rw [Bool.and_eq_true, decide_eq_true_eq, decide_eq_true_eq] at hbounds
      obtain rfl := Option.some.inj h
      refine ⟨by omega, UInt8.toNat_inj.mp ?_⟩
      rw [toNat_continuation]
      omega
    · cases h
  · rintro ⟨hx, rfl⟩
    have hbits : (continuation x).toNat = 0x80 + x := by
      rw [toNat_continuation, Nat.mod_eq_of_lt hx]
    rw [hbits, if_pos (by simp; omega), Nat.add_sub_cancel_left]

theorem continuationBits_continuation (n : Nat) : continuationBits (continuation n) = some (n % 64) :=
  continuationBits_eq_some_iff.mpr ⟨by omega, continuation_congr (by omega)⟩

theorem toNat_lt (c : Char) : c.toNat < 0x110000 := by
  have hvalid : c.toNat.isValidChar := c.valid
  rcases hvalid with h | h <;> omega

/-! The characters that one to four bytes are read as. -/

section Step

variable {b b1 b2 b3 : UInt8} (rest : List UInt8)

theorem decode?_one (hb : b.toNat < 0x80) :
    decode? (b :: rest) = (checked 0 b.toNat).bind fun c => (decode? rest).map (c :: ·) := by
  rw [decode?.eq_def]
  dsimp only
  rw [if_pos hb]
  rfl

theorem decode?_two (hb : 0xC0 ≤ b.toNat ∧ b.toNat < 0xE0) :
    decode? (b :: b1 :: rest) = (continuationBits b1).bind fun x1 =>
      (checked 0x80 ((b.toNat - 0xC0) * 64 + x1)).bind fun c => (decode? rest).map (c :: ·) := by
  rw [decode?.eq_def]
  dsimp only
  rw [if_neg (by omega), if_pos (by simpa using hb)]
  rfl

theorem decode?_three (hb : 0xE0 ≤ b.toNat ∧ b.toNat < 0xF0) :
    decode? (b :: b1 :: b2 :: rest) = (continuationBits b1).bind fun x1 =>
      (continuationBits b2).bind fun x2 =>
        (checked 0x800 ((b.toNat - 0xE0) * 4096 + x1 * 64 + x2)).bind fun c =>
          (decode? rest).map (c :: ·) := by
  rw [decode?.eq_def]
  dsimp only
  rw [if_neg (by omega), if_neg (by simp; omega), if_pos (by simpa using hb)]
  rfl

theorem decode?_four (hb : 0xF0 ≤ b.toNat ∧ b.toNat < 0xF8) :
    decode? (b :: b1 :: b2 :: b3 :: rest) = (continuationBits b1).bind fun x1 =>
      (continuationBits b2).bind fun x2 => (continuationBits b3).bind fun x3 =>
        (checked 0x10000 ((b.toNat - 0xF0) * 262144 + x1 * 4096 + x2 * 64 + x3)).bind fun c =>
          (decode? rest).map (c :: ·) := by
  rw [decode?.eq_def]
  dsimp only
  rw [if_neg (by omega), if_neg (by simp; omega), if_neg (by simp; omega), if_pos (by simpa using hb)]
  rfl

end Step

/-- What stands behind a character is decoded on its own. -/
theorem decode?_encodeChar_append (c : Char) (rest : List UInt8) :
    decode? (encodeChar c ++ rest) = (decode? rest).map (c :: ·) := by
  have hlt := toNat_lt c
  have hchecked : ∀ {least n : Nat}, least ≤ n → c.toNat = n → checked least n = some c :=
    fun hleast hn => checked_eq_some_iff.mpr ⟨hleast, hn⟩
  rw [encodeChar]
  split
  · have hlead : (UInt8.ofNat c.toNat).toNat = c.toNat := toNat_ofNat_of_lt (by omega)
    rw [List.singleton_append, decode?_one _ (by omega), hchecked (Nat.zero_le _) hlead.symm,
      Option.bind_some]
  split
  · have hlead : (UInt8.ofNat (0xC0 + c.toNat / 64)).toNat = 0xC0 + c.toNat / 64 :=
      toNat_ofNat_of_lt (by omega)
    rw [List.cons_append, List.singleton_append, decode?_two _ (by omega), continuationBits_continuation,
      Option.bind_some, hchecked (by omega) (by omega), Option.bind_some]
  split
  · have hlead : (UInt8.ofNat (0xE0 + c.toNat / 4096)).toNat = 0xE0 + c.toNat / 4096 :=
      toNat_ofNat_of_lt (by omega)
    rw [List.cons_append, List.cons_append, List.singleton_append, decode?_three _ (by omega),
      continuationBits_continuation, Option.bind_some, continuationBits_continuation, Option.bind_some,
      hchecked (by omega) (by omega), Option.bind_some]
  · have hlead : (UInt8.ofNat (0xF0 + c.toNat / 262144)).toNat = 0xF0 + c.toNat / 262144 :=
      toNat_ofNat_of_lt (by omega)
    rw [List.cons_append, List.cons_append, List.cons_append, List.singleton_append,
      decode?_four _ (by omega), continuationBits_continuation, Option.bind_some,
      continuationBits_continuation, Option.bind_some, continuationBits_continuation, Option.bind_some,
      hchecked (by omega) (by omega), Option.bind_some]

theorem decode?_encode (s : List Char) : decode? (encode s) = some s := by
  induction s with
  | nil => rw [encode, List.flatMap_nil, decode?]
  | cons c rest ih =>
      rw [encode, List.flatMap_cons, decode?_encodeChar_append, ← encode, ih]
      rfl

/-! A character that is read from one to four bytes is encoded by these bytes. -/

section Bytes

variable {α : Type} {a : α} {b b1 b2 b3 : UInt8} {f : Char → Option α}

theorem exists_encodeChar_one (hb : b.toNat < 0x80) (h : (checked 0 b.toNat).bind f = some a) :
    ∃ c, encodeChar c = [b] ∧ f c = some a := by
  obtain ⟨c, hc, hread⟩ := Option.bind_eq_some_iff.mp h
  obtain ⟨-, hc⟩ := checked_eq_some_iff.mp hc
  refine ⟨c, ?_, hread⟩
  rw [encodeChar, if_pos (by omega), hc, UInt8.ofNat_toNat]

theorem exists_encodeChar_two (hb : 0xC0 ≤ b.toNat ∧ b.toNat < 0xE0)
    (h : ((continuationBits b1).bind fun x1 =>
      (checked 0x80 ((b.toNat - 0xC0) * 64 + x1)).bind f) = some a) :
    ∃ c, encodeChar c = [b, b1] ∧ f c = some a := by
  obtain ⟨x1, h1, hread1⟩ := Option.bind_eq_some_iff.mp h
  obtain ⟨c, hc, hread⟩ := Option.bind_eq_some_iff.mp hread1
  obtain ⟨hx1, rfl⟩ := continuationBits_eq_some_iff.mp h1
  obtain ⟨hleast, hc⟩ := checked_eq_some_iff.mp hc
  refine ⟨c, ?_, hread⟩
  rw [encodeChar, if_neg (by omega), if_pos (by omega), show 0xC0 + c.toNat / 64 = b.toNat by omega,
    UInt8.ofNat_toNat, continuation_congr (m := c.toNat) (n := x1) (by omega)]

theorem exists_encodeChar_three (hb : 0xE0 ≤ b.toNat ∧ b.toNat < 0xF0)
    (h : ((continuationBits b1).bind fun x1 => (continuationBits b2).bind fun x2 =>
      (checked 0x800 ((b.toNat - 0xE0) * 4096 + x1 * 64 + x2)).bind f) = some a) :
    ∃ c, encodeChar c = [b, b1, b2] ∧ f c = some a := by
  obtain ⟨x1, h1, hread1⟩ := Option.bind_eq_some_iff.mp h
  obtain ⟨x2, h2, hread2⟩ := Option.bind_eq_some_iff.mp hread1
  obtain ⟨c, hc, hread⟩ := Option.bind_eq_some_iff.mp hread2
  obtain ⟨hx1, rfl⟩ := continuationBits_eq_some_iff.mp h1
  obtain ⟨hx2, rfl⟩ := continuationBits_eq_some_iff.mp h2
  obtain ⟨hleast, hc⟩ := checked_eq_some_iff.mp hc
  refine ⟨c, ?_, hread⟩
  rw [encodeChar, if_neg (by omega), if_neg (by omega), if_pos (by omega),
    show 0xE0 + c.toNat / 4096 = b.toNat by omega, UInt8.ofNat_toNat,
    continuation_congr (m := c.toNat / 64) (n := x1) (by omega),
    continuation_congr (m := c.toNat) (n := x2) (by omega)]

theorem exists_encodeChar_four (hb : 0xF0 ≤ b.toNat ∧ b.toNat < 0xF8)
    (h : ((continuationBits b1).bind fun x1 => (continuationBits b2).bind fun x2 =>
      (continuationBits b3).bind fun x3 =>
        (checked 0x10000 ((b.toNat - 0xF0) * 262144 + x1 * 4096 + x2 * 64 + x3)).bind f) = some a) :
    ∃ c, encodeChar c = [b, b1, b2, b3] ∧ f c = some a := by
  obtain ⟨x1, h1, hread1⟩ := Option.bind_eq_some_iff.mp h
  obtain ⟨x2, h2, hread2⟩ := Option.bind_eq_some_iff.mp hread1
  obtain ⟨x3, h3, hread3⟩ := Option.bind_eq_some_iff.mp hread2
  obtain ⟨c, hc, hread⟩ := Option.bind_eq_some_iff.mp hread3
  obtain ⟨hx1, rfl⟩ := continuationBits_eq_some_iff.mp h1
  obtain ⟨hx2, rfl⟩ := continuationBits_eq_some_iff.mp h2
  obtain ⟨hx3, rfl⟩ := continuationBits_eq_some_iff.mp h3
  obtain ⟨hleast, hc⟩ := checked_eq_some_iff.mp hc
  refine ⟨c, ?_, hread⟩
  rw [encodeChar, if_neg (by omega), if_neg (by omega), if_neg (by omega),
    show 0xF0 + c.toNat / 262144 = b.toNat by omega, UInt8.ofNat_toNat,
    continuation_congr (m := c.toNat / 4096) (n := x1) (by omega),
    continuation_congr (m := c.toNat / 64) (n := x2) (by omega),
    continuation_congr (m := c.toNat) (n := x3) (by omega)]

end Bytes

/-- Bytes that are decoded begin with the encoding of the first character. -/
theorem exists_of_decode?_cons {b : UInt8} {bytes : List UInt8} {s : List Char}
    (h : decode? (b :: bytes) = some s) :
    ∃ c rest, encodeChar c ++ rest = b :: bytes ∧ (decode? rest).map (c :: ·) = some s := by
  rw [decode?.eq_def] at h
  simp only [Option.bind_eq_bind] at h
  split at h
  · rename_i hb
    obtain ⟨c, hc, hrest⟩ := exists_encodeChar_one hb h
    exact ⟨c, bytes, by rw [hc]; rfl, hrest⟩
  split at h
  · cases h
  rename_i b1 bytes
  split at h
  · rename_i hb
    obtain ⟨c, hc, hrest⟩ := exists_encodeChar_two (by simpa using hb) h
    exact ⟨c, bytes, by rw [hc]; rfl, hrest⟩
  split at h
  · cases h
  rename_i b2 bytes
  split at h
  · rename_i hb
    obtain ⟨c, hc, hrest⟩ := exists_encodeChar_three (by simpa using hb) h
    exact ⟨c, bytes, by rw [hc]; rfl, hrest⟩
  split at h
  · cases h
  rename_i b3 bytes
  split at h
  · rename_i hb
    obtain ⟨c, hc, hrest⟩ := exists_encodeChar_four (by simpa using hb) h
    exact ⟨c, bytes, by rw [hc]; rfl, hrest⟩
  · cases h

/-- Bytes are decoded to a text when they are its encoding, and only then. -/
theorem decode?_eq_some_iff {bytes : List UInt8} {s : List Char} :
    decode? bytes = some s ↔ bytes = encode s := by
  constructor
  · intro h
    induction s generalizing bytes with
    | nil =>
        cases bytes with
        | nil => rfl
        | cons b bytes =>
            obtain ⟨c, rest, -, hrest⟩ := exists_of_decode?_cons h
            obtain ⟨t, -, ht⟩ := Option.map_eq_some_iff.mp hrest
            cases ht
    | cons c s ih =>
        cases bytes with
        | nil =>
            rw [decode?] at h
            cases h
        | cons b bytes =>
            obtain ⟨c', rest, hbytes, hrest⟩ := exists_of_decode?_cons h
            obtain ⟨t, ht, hs⟩ := Option.map_eq_some_iff.mp hrest
            obtain ⟨rfl, rfl⟩ := List.cons.inj hs
            rw [← hbytes, ih ht, encode, encode, List.flatMap_cons]
  · rintro rfl
    exact decode?_encode s

end MarkupModule.Encoding.Utf8
