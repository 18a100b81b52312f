import MarkupModule.Loader
import MarkupModule.Proofs.Encoding.Utf16
import MarkupModule.Style.Engine

/-! Source files are decoded exactly when they are encoded. A byte order mark chooses the encoding and is
taken off once; what stands behind it is read as the encoding of one text or of none. So a text has four
files, and unless the text itself begins with the mark they all become the same module. -/

namespace MarkupModule

open Markup

namespace Encoding

/-! ### The encodings -/

theorem Utf8.encodeChar_eq (c : Char) : Utf8.encodeChar c = String.utf8EncodeChar c := by
  have hlt := Utf8.toNat_lt c
  have hlast : ∀ n : Nat, UInt8.ofNat (n % 64 + 0x80) = Utf8.continuation n := fun n =>
    congrArg UInt8.ofNat (by omega)
  rw [Utf8.encodeChar, String.utf8EncodeChar]
  change _ = if c.toNat ≤ 127 then [UInt8.ofNat c.toNat]
    else if c.toNat ≤ 2047 then
      [UInt8.ofNat (c.toNat / 64 % 32 + 192), UInt8.ofNat (c.toNat % 64 + 128)]
    else if c.toNat ≤ 65535 then
      [UInt8.ofNat (c.toNat / 4096 % 16 + 224), UInt8.ofNat (c.toNat / 64 % 64 + 128),
        UInt8.ofNat (c.toNat % 64 + 128)]
    else
      [UInt8.ofNat (c.toNat / 262144 % 8 + 240), UInt8.ofNat (c.toNat / 4096 % 64 + 128),
        UInt8.ofNat (c.toNat / 64 % 64 + 128), UInt8.ofNat (c.toNat % 64 + 128)]
  rw [hlast, hlast, hlast]
  split
  · rw [if_pos (by omega)]
  split
  · rw [if_neg (by omega), if_pos (by omega), show c.toNat / 64 % 32 + 192 = 0xC0 + c.toNat / 64 by omega]
  split
  · rw [if_neg (by omega), if_neg (by omega), if_pos (by omega),
      show c.toNat / 4096 % 16 + 224 = 0xE0 + c.toNat / 4096 by omega]
  · rw [if_neg (by omega), if_neg (by omega), if_neg (by omega),
      show c.toNat / 262144 % 8 + 240 = 0xF0 + c.toNat / 262144 by omega]

/-- UTF-8 here is what the bytes of a string are. -/
theorem Utf8.encode_toList (s : String) : Utf8.encode s.toList = s.toUTF8.data.toList := by
  have hchars : Utf8.encodeChar = String.utf8EncodeChar := funext Utf8.encodeChar_eq
  rw [String.toUTF8_eq_toByteArray, ← String.utf8Encode_toList, List.utf8Encode, List.data_toByteArray,
    Utf8.encode, hchars]

theorem decode?_eq_some_iff {encoding : Encoding} {bytes : List UInt8} {s : List Char} :
    encoding.decode? bytes = some s ↔ bytes = encoding.encode s := by
  cases encoding with
  | utf8 => exact Utf8.decode?_eq_some_iff
  | utf16 order => exact Utf16.decode?_eq_some_iff

/-! ### Byte order marks -/

/-- Whether bytes begin with no byte order mark. -/
def Unmarked (bytes : List UInt8) : Prop :=
  ∀ encoding : Encoding, ¬ encoding.mark <+: bytes

/-- Whether bytes are the mark of an encoding and others, or are unmarked and so in UTF-8. -/
def Chooses (bytes : List UInt8) (encoding : Encoding) (rest : List UInt8) : Prop :=
  bytes = encoding.mark ++ rest ∨ Unmarked bytes ∧ encoding = utf8 ∧ rest = bytes

theorem detect_mark_append (encoding : Encoding) (rest : List UInt8) :
    detect (encoding.mark ++ rest) = (encoding, rest) := by
  cases encoding with
  | utf8 => rfl
  | utf16 order => cases order <;> rfl

theorem chooses_detect (bytes : List UInt8) :
    Chooses bytes (detect bytes).1 (detect bytes).2 := by
  rw [detect.eq_def]
  split
  · exact Or.inl rfl
  · exact Or.inl rfl
  · exact Or.inl rfl
  · rename_i hutf8 hlittle hbig
    refine Or.inr ⟨?_, rfl, rfl⟩
    rintro encoding ⟨rest, hrest⟩
    cases encoding with
    | utf8 => exact hutf8 rest hrest.symm
    | utf16 order =>
        cases order with
        | little => exact hlittle rest hrest.symm
        | big => exact hbig rest hrest.symm

theorem detect_eq_iff {bytes rest : List UInt8} {encoding : Encoding} :
    detect bytes = (encoding, rest) ↔ Chooses bytes encoding rest := by
  constructor
  · intro h
    have hchooses := chooses_detect bytes
    rwa [h] at hchooses
  · rintro (rfl | ⟨hunmarked, rfl, rfl⟩)
    · exact detect_mark_append encoding rest
    · rcases chooses_detect rest with hmark | ⟨-, hencoding, hrest⟩
      · exact absurd ⟨_, hmark.symm⟩ (hunmarked _)
      · exact Prod.ext hencoding hrest

/-! ### Decoding a source -/

/-- Whether bytes are a file of a text: a mark and the text in its encoding, or the text in UTF-8
without any mark. -/
def Represents (bytes : List UInt8) (text : String) : Prop :=
  (∃ encoding : Encoding, bytes = encoding.mark ++ encoding.encode text.toList) ∨
    Unmarked bytes ∧ bytes = Utf8.encode text.toList

theorem represents_iff {bytes rest : List UInt8} {encoding : Encoding}
    (h : Chooses bytes encoding rest) {text : String} :
    Represents bytes text ↔ rest = encoding.encode text.toList := by
  constructor
  · rintro (⟨encoding', hbytes⟩ | ⟨hunmarked, hbytes⟩)
    · have hdetect : detect bytes = (encoding', encoding'.encode text.toList) :=
        detect_eq_iff.mpr (Or.inl hbytes)
      rw [detect_eq_iff.mpr h] at hdetect
      obtain ⟨rfl, hrest⟩ := Prod.mk.inj hdetect
      exact hrest
    · rcases h with hmark | ⟨-, rfl, rfl⟩
      · exact absurd ⟨rest, hmark.symm⟩ (hunmarked encoding)
      · exact hbytes
  · rintro rfl
    rcases h with hmark | ⟨hunmarked, rfl, hrest⟩
    · exact Or.inl ⟨encoding, hmark⟩
    · exact Or.inr ⟨hunmarked, hrest.symm⟩

/-- The failure for bytes that are no text in the encoding that they choose. -/
def undecodable (encoding : Encoding) : Failure :=
  ⟨.parse, "", "decode source", some ("input is not valid " ++ encoding.name)⟩

end Encoding

open Encoding

theorem decodeSource_of_chooses {bytes rest : List UInt8} {encoding : Encoding}
    (h : Chooses bytes encoding rest) :
    decodeSource bytes =
      match encoding.decode? rest with
      | some s => .ok (String.ofList s)
      | none => .error (undecodable encoding) := by
  rw [decodeSource, detect_eq_iff.mpr h]
  rfl

theorem decodeSource_eq_ok_iff {bytes : List UInt8} {text : String} :
    decodeSource bytes = .ok text ↔ Represents bytes text := by
  have hchooses := chooses_detect bytes
  rw [decodeSource_of_chooses hchooses, represents_iff hchooses, ← decode?_eq_some_iff]
  cases hdecode : (detect bytes).1.decode? (detect bytes).2 with
  | none => exact iff_of_false nofun nofun
  | some s =>
      dsimp only
      rw [Except.ok.injEq, Option.some.injEq]
      constructor
      · rintro rfl
        exact String.toList_ofList.symm
      · rintro rfl
        exact String.ofList_toList

theorem decodeSource_of_not_represents {bytes rest : List UInt8} {encoding : Encoding}
    (h : Chooses bytes encoding rest) (hnone : ∀ text, ¬ Represents bytes text) :
    decodeSource bytes = .error (undecodable encoding) := by
  rw [decodeSource_of_chooses h]
  cases hdecode : encoding.decode? rest with
  | none => rfl
  | some s =>
      have hrest := decode?_eq_some_iff.mp hdecode
      have hrepresents : Represents bytes (String.ofList s) := by
        rw [represents_iff h, String.toList_ofList]
        exact hrest
      exact absurd hrepresents (hnone _)

/-- A mark and a text in its encoding are a file of the text, whatever the text begins with. -/
theorem decodeSource_mark_append (encoding : Encoding) (text : String) :
    decodeSource (encoding.mark ++ encoding.encode text.toList) = .ok text :=
  decodeSource_eq_ok_iff.mpr (Or.inl ⟨encoding, rfl⟩)

/-! ### Texts without a mark -/

theorem Encoding.Utf8.exists_encodeChar_cons (c : Char) :
    ∃ b bytes, Utf8.encodeChar c = b :: bytes ∧ b.toNat < 0xF8 := by
  have hlt := Utf8.toNat_lt c
  rw [Utf8.encodeChar]
  split
  · refine ⟨_, _, rfl, ?_⟩
    rw [Utf8.toNat_ofNat_of_lt (by omega)]
    omega
  split
  · refine ⟨_, _, rfl, ?_⟩
    rw [Utf8.toNat_ofNat_of_lt (by omega)]
    omega
  split
  · refine ⟨_, _, rfl, ?_⟩
    rw [Utf8.toNat_ofNat_of_lt (by omega)]
    omega
  · refine ⟨_, _, rfl, ?_⟩
    rw [Utf8.toNat_ofNat_of_lt (by omega)]
    omega

/-- A text in UTF-8 begins with the mark of UTF-8 only if the text does, and never with another. -/
theorem Encoding.unmarked_encode {s : List Char} (h : s.head? ≠ some '\uFEFF') :
    Unmarked (Utf8.encode s) := by
  rintro encoding ⟨rest, hrest⟩
  have hfirst : ∀ b bytes, Utf8.encode s = b :: bytes → b.toNat < 0xF8 := by
    intro b bytes hcons
    cases s with
    | nil => cases hcons
    | cons c cs =>
        obtain ⟨d, ds, hchar, hlt⟩ := Utf8.exists_encodeChar_cons c
        rw [Utf8.encode, List.flatMap_cons, hchar, List.cons_append] at hcons
        obtain ⟨rfl, -⟩ := List.cons.inj hcons
        exact hlt
  cases encoding with
  | utf8 =>
      have hmark : utf8.mark = Utf8.encodeChar '\uFEFF' := by decide
      have hdecode := Utf8.decode?_encode s
      rw [← hrest, hmark, Utf8.decode?_encodeChar_append] at hdecode
      obtain ⟨t, -, rfl⟩ := Option.map_eq_some_iff.mp hdecode
      exact h rfl
  | utf16 order =>
      cases order with
      | little =>
          have hlt := hfirst _ _ hrest.symm
          revert hlt
          decide
      | big =>
          have hlt := hfirst _ _ hrest.symm
          revert hlt
          decide

theorem Loader.processBytes_of_represents (loader : Loader) {bytes : List UInt8} {text : String}
    (h : Represents bytes text) (resource : String) :
    loader.processBytes bytes resource = loader.process text resource := by
  rw [processBytes, decodeSource_eq_ok_iff.mpr h]

/-- Decoding inverts encoding, refuses everything else and takes off one mark; so a text that does not
begin with the mark is one component in all of its files. -/
theorem decodeSource_inverts_encode :
    (∀ bytes text, decodeSource bytes = .ok text ↔ Represents bytes text) ∧
    (∀ bytes, (∀ text, ¬ Represents bytes text) → ∃ encoding rest,
      Chooses bytes encoding rest ∧ decodeSource bytes = .error (undecodable encoding)) ∧
    (∀ (encoding : Encoding) (text : String),
      decodeSource (encoding.mark ++ encoding.encode text.toList) = .ok text) ∧
    (∀ (loader : Loader) (text resource : String), text.toList.head? ≠ some '\uFEFF' →
      loader.processBytes (Utf8.encode text.toList) resource = loader.process text resource ∧
      ∀ encoding : Encoding,
        loader.processBytes (encoding.mark ++ encoding.encode text.toList) resource =
          loader.process text resource) := by
  refine ⟨fun bytes text => decodeSource_eq_ok_iff, ?_, decodeSource_mark_append, ?_⟩
  · intro bytes hnone
    have hchooses := chooses_detect bytes
    exact ⟨_, _, hchooses, decodeSource_of_not_represents hchooses hnone⟩
  · intro loader text resource h
    constructor
    · exact loader.processBytes_of_represents (Or.inr ⟨unmarked_encode h, rfl⟩) resource
    · intro encoding
      exact loader.processBytes_of_represents (Or.inl ⟨encoding, rfl⟩) resource

/-- A surrogate without its partner is refused, and a letter in UTF-16 is the letter. -/
theorem decodeSource_inverts_encode_surrogateAndLetter :
    (∃ encoding rest, Chooses [0xFF, 0xFE, 0x00, 0xD8] encoding rest ∧
      decodeSource [0xFF, 0xFE, 0x00, 0xD8] = .error (undecodable encoding)) ∧
    "a".toList.head? ≠ some '\uFEFF' ∧
    Loader.processBytes { options := {}, engine := Style.engine } [0xFE, 0xFF, 0x00, 0x61] "a.html" =
      Loader.process { options := {}, engine := Style.engine } "a" "a.html" := by
  have hnone : ∀ text, ¬ Represents [0xFF, 0xFE, 0x00, 0xD8] text := by
    intro text
    have hchooses : Chooses [0xFF, 0xFE, 0x00, 0xD8] (.utf16 .little) [0x00, 0xD8] := Or.inl rfl
    have hdecode : (Encoding.utf16 .little).decode? [0x00, 0xD8] = none := by decide
    rw [represents_iff hchooses, ← decode?_eq_some_iff, hdecode]
    nofun
  have hletter : "a".toList.head? ≠ some '\uFEFF' := by decide
  obtain ⟨-, hrefused, -, hsame⟩ := decodeSource_inverts_encode
  refine ⟨hrefused _ hnone, hletter, ?_⟩
  have hbytes : (Encoding.utf16 .big).mark ++ (Encoding.utf16 .big).encode "a".toList =
      [0xFE, 0xFF, 0x00, 0x61] := by decide
  rw [← hbytes]
  exact (hsame _ "a" "a.html" hletter).2 (.utf16 .big)

end MarkupModule
