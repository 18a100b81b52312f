import MarkupModule.Proofs.Encoding.Source
import MarkupModule.Proofs.RootTags.Pieces

/-! Byte offsets into a text. A text is sliced at a byte offset only when the offset is in range and lies
between two characters, and a search answers with a byte offset. What a function on remaining texts leaves
is what stands at the offset that the search answers with, so both ways of moving through a text agree. -/

namespace MarkupModule

namespace Encoding.Utf8

open Text (isBeyondAscii)

/-! ### ASCII in the bytes of a text -/

theorem encode_append (s t : List Char) : encode (s ++ t) = encode s ++ encode t :=
  List.flatMap_append

theorem encode_singleton (c : Char) : encode [c] = encodeChar c :=
  List.flatMap_singleton encodeChar c

theorem toNat_toChar (b : UInt8) : b.toChar.toNat = b.toNat := rfl

/-- An ASCII character is encoded as itself. -/
theorem encodeChar_of_ascii {c : Char} (h : isBeyondAscii c = false) :
    ∃ b, encodeChar c = [b] ∧ b.toChar = c := by
  rw [isBeyondAscii, decide_eq_false_iff_not, Nat.not_le] at h
  refine ⟨UInt8.ofNat c.toNat, if_pos h, Char.toNat_inj.mp ?_⟩
  rw [toNat_toChar, toNat_ofNat_of_lt (by omega)]

/-- No byte of another character is one of an ASCII character. -/
theorem isBeyondAscii_of_mem_encodeChar {c : Char} (h : isBeyondAscii c = true) :
    ∀ b ∈ encodeChar c, isBeyondAscii b.toChar = true := by
  have hlt := toNat_lt c
  rw [isBeyondAscii, decide_eq_true_eq] at h
  have hlead : ∀ {n}, 0x80 ≤ n → n < 256 → isBeyondAscii (UInt8.ofNat n).toChar = true := by
    intro n hleast hn
    rw [isBeyondAscii, toNat_toChar, toNat_ofNat_of_lt hn]
    exact decide_eq_true hleast
  have hcontinuation : ∀ n, isBeyondAscii (continuation n).toChar = true := fun n =>
    hlead (by omega) (by omega)
  rw [encodeChar, if_neg (by omega)]
  split <;> [skip; split] <;>
    simp only [List.mem_cons, List.not_mem_nil, or_false, forall_eq_or_imp, forall_eq, hcontinuation,
      and_true] <;>
    exact hlead (by omega) (by omega)

theorem encodeChar_ne_nil (c : Char) : encodeChar c ≠ [] := by
  obtain ⟨b, bytes, hencode, -⟩ := exists_encodeChar_cons c
  rw [hencode]
  exact List.cons_ne_nil b bytes

/-- The byte of an ASCII character occurs only where the character does. -/
theorem not_mem_encode {b : UInt8} {s : List Char} (hb : isBeyondAscii b.toChar = false)
    (h : b.toChar ∉ s) : b ∉ encode s := by
  intro hmem
  obtain ⟨c, hc, hbyte⟩ := List.mem_flatMap.mp hmem
  cases hascii : isBeyondAscii c with
  | false =>
      obtain ⟨b', hencode, rfl⟩ := encodeChar_of_ascii hascii
      rw [hencode, List.mem_singleton] at hbyte
      exact h (hbyte ▸ hc)
  | true =>
      rw [isBeyondAscii_of_mem_encodeChar hascii b hbyte] at hb
      cases hb

/-- A run of characters of an ASCII class is a run of bytes of that class. -/
theorem takeWhile_encode {p : Char → Bool} (hp : ∀ c, isBeyondAscii c = true → p c = false)
    (s : List Char) : (encode s).takeWhile (fun b => p b.toChar) = encode (s.takeWhile p) := by
  induction s with
  | nil => rfl
  | cons c cs ih =>
      rw [encode, List.flatMap_cons]
      cases hc : isBeyondAscii c with
      | false =>
          obtain ⟨b, hencode, hb⟩ := encodeChar_of_ascii hc
          rw [hencode, List.singleton_append, List.takeWhile_cons, List.takeWhile_cons, hb]
          split
          · rw [encode, List.flatMap_cons, hencode]
            exact congrArg (b :: ·) ih
          · rfl
      | true =>
          obtain ⟨b, bs, hencode⟩ := List.exists_cons_of_ne_nil (encodeChar_ne_nil c)
          have hb : p b.toChar = false :=
            hp _ (isBeyondAscii_of_mem_encodeChar hc b (hencode ▸ List.mem_cons_self))
          rw [hencode, List.cons_append, List.takeWhile_cons_of_neg (by simp [hb]),
            List.takeWhile_cons_of_neg (by simp [hp c hc])]
          rfl

end Encoding.Utf8

namespace Text

open Encoding

/-! ### Offsets between characters -/

/-- How many bytes a text takes. -/
def byteLength (s : List Char) : Nat :=
  (Utf8.encode s).length

theorem byteLength_append (s t : List Char) : byteLength (s ++ t) = byteLength s + byteLength t := by
  rw [byteLength, Utf8.encode_append, List.length_append]
  rfl

theorem byteLength_toList (text : String) : byteLength text.toList = text.utf8ByteSize := by
  rw [byteLength, Utf8.encode_toList]
  rfl

/-- What stands behind a byte offset; nothing when the offset is out of range or inside a character. -/
def sliceFrom? (text : String) (offset : Nat) : Option String :=
  if h : String.Pos.Raw.IsValid text ⟨offset⟩ then some (text.sliceFrom (text.pos ⟨offset⟩ h)).copy
  else none

/-- What stands before a byte offset; nothing when the offset is out of range or inside a character. -/
def sliceTo? (text : String) (offset : Nat) : Option String :=
  if h : String.Pos.Raw.IsValid text ⟨offset⟩ then some (text.sliceTo (text.pos ⟨offset⟩ h)).copy
  else none

/-- Whether so much of a text is left at a byte offset, which lies between two characters. -/
def RestAt (text : String) (offset : Nat) (rest : List Char) : Prop :=
  ∃ front, text.toList = front ++ rest ∧ offset = byteLength front

theorem restAt_zero (text : String) : RestAt text 0 text.toList :=
  ⟨[], rfl, rfl⟩

theorem restAt_utf8ByteSize (text : String) : RestAt text text.utf8ByteSize [] :=
  ⟨text.toList, (List.append_nil _).symm, (byteLength_toList text).symm⟩

section

variable {text : String} {offset : Nat} {rest : List Char}

theorem restAt_iff_isValid :
    (∃ rest, RestAt text offset rest) ↔ String.Pos.Raw.IsValid text ⟨offset⟩ := by
  rw [String.Pos.Raw.isValid_iff_exists_append]
  constructor
  · rintro ⟨rest, front, htext, rfl⟩
    refine ⟨String.ofList front, String.ofList rest, ?_, ?_⟩
    · rw [← String.ofList_append, ← htext, String.ofList_toList]
    · rw [String.rawEndPos, ← byteLength_toList, String.toList_ofList]
  · rintro ⟨front, rest, rfl, hoffset⟩
    refine ⟨rest.toList, front.toList, String.toList_append, ?_⟩
    rw [byteLength_toList]
    exact congrArg String.Pos.Raw.byteIdx hoffset

theorem RestAt.isValid (h : RestAt text offset rest) : String.Pos.Raw.IsValid text ⟨offset⟩ :=
  restAt_iff_isValid.mp ⟨rest, h⟩

theorem RestAt.add_byteLength (h : RestAt text offset rest) :
    offset + byteLength rest = text.utf8ByteSize := by
  obtain ⟨front, htext, rfl⟩ := h
  rw [← byteLength_append, ← htext, byteLength_toList]

/-- Behind a part of what is left, the rest of it is left. -/
theorem RestAt.drop {part : List Char} (h : RestAt text offset (part ++ rest)) :
    RestAt text (offset + byteLength part) rest := by
  obtain ⟨front, htext, rfl⟩ := h
  exact ⟨front ++ part, by rw [htext, List.append_assoc], (byteLength_append front part).symm⟩

/-- A text is cut in two at the offset behind its first part. -/
theorem splits_pos {front : List Char} (htext : text.toList = front ++ rest)
    (h : String.Pos.Raw.IsValid text ⟨byteLength front⟩) :
    (text.pos ⟨byteLength front⟩ h).Splits (String.ofList front) (String.ofList rest) := by
  constructor
  · rw [← String.ofList_append, ← htext, String.ofList_toList]
  · rw [String.rawEndPos, ← byteLength_toList, String.toList_ofList]
    rfl

theorem RestAt.sliceFrom? (h : RestAt text offset rest) :
    Text.sliceFrom? text offset = some (String.ofList rest) := by
  have hvalid := h.isValid
  obtain ⟨front, htext, rfl⟩ := h
  rw [Text.sliceFrom?, dif_pos hvalid, (splits_pos htext hvalid).copy_sliceFrom_eq]

theorem sliceTo?_byteLength {front : List Char} (htext : text.toList = front ++ rest) :
    sliceTo? text (byteLength front) = some (String.ofList front) := by
  have hvalid : String.Pos.Raw.IsValid text ⟨byteLength front⟩ := RestAt.isValid ⟨front, htext, rfl⟩
  rw [sliceTo?, dif_pos hvalid, (splits_pos htext hvalid).copy_sliceTo_eq]

/-- A slice that is taken is what is left at its offset. -/
theorem restAt_of_sliceFrom? {slice : String} (h : Text.sliceFrom? text offset = some slice) :
    RestAt text offset slice.toList := by
  have hvalid : String.Pos.Raw.IsValid text ⟨offset⟩ := by
    by_contra hinvalid
    rw [Text.sliceFrom?, dif_neg hinvalid] at h
    cases h
  obtain ⟨rest, hrest⟩ := restAt_iff_isValid.mpr hvalid
  rw [hrest.sliceFrom?] at h
  obtain rfl := Option.some.inj h
  rwa [String.toList_ofList]

/-- The second byte of a character is no offset to slice at. -/
example : sliceFrom? "é>" 1 = none ∧ sliceFrom? "é>" 2 = some ">" := by
  cbv

end

/-! ### Searching -/

/-- The byte offset of the first occurrence of a pattern. -/
def find? (pattern : List Char) : List Char → Option Nat
  | [] => if pattern.isEmpty then some 0 else none
  | c :: cs =>
    if startsWith pattern (c :: cs) then some 0
    else (find? pattern cs).map (byteLength [c] + ·)

/-- What a text is cut before is found behind the part that is cut off. -/
theorem find?_eq {pattern : List Char} (h : pattern ≠ []) (s : List Char) :
    find? pattern s =
      if (cutBefore pattern s).2 = [] then none else some (byteLength (cutBefore pattern s).1) := by
  induction s with
  | nil => rw [find?, if_neg (by simpa using h), cutBefore, if_pos rfl]
  | cons c cs ih =>
      rw [find?, cutBefore]
      split
      · rw [if_neg (List.cons_ne_nil c cs)]
        rfl
      · rw [ih]
        split
        · rfl
        · exact congrArg some (byteLength_append [c] _).symm

theorem find?_eq_none_of_not_mem {x : Char} {s : List Char} (h : x ∉ s) : find? [x] s = none := by
  induction s with
  | nil => rfl
  | cons c cs ih =>
      rw [List.mem_cons, not_or] at h
      have hstarts : startsWith [x] (c :: cs) = false := by
        rw [startsWith, dropPrefix?, if_neg h.1]
        rfl
      rw [find?, hstarts, if_neg Bool.false_ne_true, ih h.2]
      rfl

theorem find?_append_cons {x : Char} {s : List Char} (h : x ∉ s) (rest : List Char) :
    find? [x] (s ++ x :: rest) = some (byteLength s) := by
  induction s with
  | nil =>
      rw [List.nil_append, find?, if_pos (by simp [startsWith, dropPrefix?])]
      rfl
  | cons c cs ih =>
      rw [List.mem_cons, not_or] at h
      have hstarts : startsWith [x] (c :: (cs ++ x :: rest)) = false := by
        rw [startsWith, dropPrefix?, if_neg h.1]
        rfl
      rw [List.cons_append, find?, hstarts, if_neg Bool.false_ne_true, ih h.2]
      exact congrArg some (byteLength_append [c] cs).symm

/-- The offset so many bytes beyond the next occurrence of a pattern, and the end of the text when the
pattern does not occur any more. -/
def seek? (text : String) (start : Nat) (pattern : String) (beyond : Nat) : Option Nat :=
  (sliceFrom? text start).map fun rest =>
    match find? pattern.toList rest.toList with
    | some distance => start + distance + beyond
    | none => text.utf8ByteSize

/-- The offset behind the next occurrence of a pattern, and the end of the text when there is none. -/
def skipPast? (text : String) (start : Nat) (pattern : String) : Option Nat :=
  seek? text start pattern pattern.utf8ByteSize

/-- Whether an answer is an offset, at or behind another one, at which so much of the text is left. -/
def Reaches (text : String) (start : Nat) (rest : List Char) (answer : Option Nat) : Prop :=
  ∃ stop, answer = some stop ∧ start ≤ stop ∧ RestAt text stop rest

section

variable {text pattern : String} {start : Nat} {rest : List Char}

theorem RestAt.reaches_self (h : RestAt text start rest) : Reaches text start rest (some start) :=
  ⟨start, rfl, Nat.le_refl start, h⟩

theorem RestAt.reaches_end (h : RestAt text start rest) : Reaches text start [] (some text.utf8ByteSize) :=
  ⟨text.utf8ByteSize, rfl, by have := h.add_byteLength; omega, restAt_utf8ByteSize text⟩

theorem Reaches.bind {answer : Option Nat} (h : Reaches text start rest answer) {rest' : List Char}
    {next : Nat → Option Nat} (hnext : ∀ stop, RestAt text stop rest → Reaches text stop rest' (next stop)) :
    Reaches text start rest' (answer.bind next) := by
  obtain ⟨stop, rfl, hle, hrest⟩ := h
  obtain ⟨stop', hstop', hle', hrest'⟩ := hnext stop hrest
  exact ⟨stop', hstop', Nat.le_trans hle hle', hrest'⟩

theorem RestAt.seek?_of_absent (h : RestAt text start rest) (hpattern : pattern.toList ≠ [])
    (hcut : (cutBefore pattern.toList rest).2 = []) (beyond : Nat) :
    Text.seek? text start pattern beyond = some text.utf8ByteSize := by
  rw [Text.seek?, h.sliceFrom?, Option.map_some, String.toList_ofList, find?_eq hpattern, if_pos hcut]

theorem RestAt.seek?_of_present (h : RestAt text start rest) (hpattern : pattern.toList ≠ [])
    (hcut : (cutBefore pattern.toList rest).2 ≠ []) (beyond : Nat) :
    Text.seek? text start pattern beyond =
      some (start + byteLength (cutBefore pattern.toList rest).1 + beyond) := by
  rw [Text.seek?, h.sliceFrom?, Option.map_some, String.toList_ofList, find?_eq hpattern, if_neg hcut]

theorem RestAt.behindCut (h : RestAt text start rest) (pattern : List Char) :
    RestAt text (start + byteLength (cutBefore pattern rest).1) (cutBefore pattern rest).2 := by
  apply RestAt.drop
  rwa [cutBefore_append]

/-- A search for a pattern finds where the text is cut. -/
theorem RestAt.reaches_cutBefore (h : RestAt text start rest) (hpattern : pattern.toList ≠ []) :
    Reaches text start (cutBefore pattern.toList rest).2 (Text.seek? text start pattern 0) := by
  by_cases hcut : (cutBefore pattern.toList rest).2 = []
  · rw [h.seek?_of_absent hpattern hcut, hcut]
    exact h.reaches_end
  · rw [h.seek?_of_present hpattern hcut]
    exact ⟨_, rfl, Nat.le_add_right _ _, h.behindCut pattern.toList⟩

/-- A search beyond a pattern goes through it. -/
theorem RestAt.reaches_dropThrough (h : RestAt text start rest) (hpattern : pattern.toList ≠ []) :
    Reaches text start (dropThrough pattern.toList rest) (skipPast? text start pattern) := by
  rw [skipPast?, dropThrough]
  by_cases hcut : (cutBefore pattern.toList rest).2 = []
  · have hnone : dropPrefix? pattern.toList [] = none := by
      obtain ⟨p, ps, hcons⟩ := List.exists_cons_of_ne_nil hpattern
      rw [hcons, dropPrefix?]
    rw [h.seek?_of_absent hpattern hcut, hcut, hnone]
    exact h.reaches_end
  · have hstarts := (startsWith_cutBefore pattern.toList rest).resolve_left hcut
    obtain ⟨behind, hbehind⟩ := startsWith_iff_isPrefix.mp hstarts
    have hrest := h.behindCut pattern.toList
    rw [← hbehind] at hrest
    rw [h.seek?_of_present hpattern hcut, ← hbehind, Markup.dropPrefix?_append, ← byteLength_toList]
    exact ⟨_, rfl, by omega, hrest.drop⟩

end

end Text

end MarkupModule
