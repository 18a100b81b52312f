import MarkupModule.Proofs.Text.Loop
import MarkupModule.Proofs.Text.Offsets

/-! The search for the end of a tag by byte indices. The search is here the loop over indices into bytes that
it is run as, with every slice checked. On any bytes no slice fails, each turn leads to a larger index, and
the search ends in range. In the bytes of a text it ends where the scan on remaining texts leaves the tag. -/

namespace MarkupModule.Markup.RootTags

open MarkupModule.Text
open Encoding.Utf8 (encode encodeChar encode_append encode_singleton encodeChar_of_ascii encodeChar_ne_nil
  isBeyondAscii_of_mem_encodeChar not_mem_encode)
open Lexer (isQuote)

/-! ### Turns of the search for the end of a tag -/

/-- Where the search for the end of a tag stands. -/
structure TagHead where
  index : Nat
  behindEquals : Bool := false
  deriving DecidableEq, Repr

/-- The bytes behind an offset that is in range. -/
def bytesFrom? (bytes : List UInt8) (offset : Nat) : Option (List UInt8) :=
  if offset ≤ bytes.length then some (bytes.drop offset) else none

/-- The index behind the value that a quote opened, which is the end of the bytes when it is never closed. -/
def behindValue? (bytes : List UInt8) (start : Nat) (quote : UInt8) : Option Nat :=
  (bytesFrom? bytes start).map fun value =>
    match value.findIdx? (· == quote) with
    | some distance => start + distance + 1
    | none => bytes.length

/-- One turn of the search, which goes on or ends behind the tag; nothing when a slice is out of range. -/
def tagTurn (bytes : List UInt8) (head : TagHead) : Option (TagHead ⊕ Nat) :=
  match bytes[head.index]? with
  | none => some (.inr bytes.length)
  | some b =>
    if b.toChar = '>' then some (.inr (head.index + 1))
    else if head.behindEquals && isQuote b.toChar then
      (behindValue? bytes (head.index + 1) b).map fun stop => .inl ⟨stop, false⟩
    else some (.inl ⟨head.index + 1, b.toChar == '=' || (head.behindEquals && isSpace b.toChar)⟩)

section

variable {bytes : List UInt8} {head : TagHead}

theorem tagTurn_of_getElem? {b : UInt8} (h : bytes[head.index]? = some b) :
    tagTurn bytes head =
      if b.toChar = '>' then some (.inr (head.index + 1))
      else if head.behindEquals && isQuote b.toChar then
        (behindValue? bytes (head.index + 1) b).map fun stop => .inl ⟨stop, false⟩
      else some (.inl ⟨head.index + 1, b.toChar == '=' || (head.behindEquals && isSpace b.toChar)⟩) := by
  rw [tagTurn, h]

theorem tagTurn_of_length_le (h : bytes.length ≤ head.index) :
    tagTurn bytes head = some (.inr bytes.length) := by
  rw [tagTurn, List.getElem?_eq_none h]

theorem exists_behindValue? {start : Nat} (h : start ≤ bytes.length) (quote : UInt8) :
    ∃ stop, behindValue? bytes start quote = some stop ∧ start ≤ stop ∧ stop ≤ bytes.length := by
  rw [behindValue?, bytesFrom?, if_pos h, Option.map_some]
  cases hfind : (bytes.drop start).findIdx? (· == quote) with
  | none => exact ⟨bytes.length, rfl, h, Nat.le_refl _⟩
  | some distance =>
      have hdistance := (List.findIdx?_eq_some_iff_findIdx_eq.mp hfind).1
      rw [List.length_drop] at hdistance
      exact ⟨start + distance + 1, rfl, by omega, by omega⟩

/-- A turn in range does not fail: it leads on to a larger index or ends at one that is no smaller, and stays
in range. -/
theorem tagTurn_cases (h : head.index ≤ bytes.length) :
    (∃ next, tagTurn bytes head = some (.inl next) ∧ head.index < next.index ∧ next.index ≤ bytes.length) ∨
      ∃ stop, tagTurn bytes head = some (.inr stop) ∧ head.index ≤ stop ∧ stop ≤ bytes.length := by
  cases hget : bytes[head.index]? with
  | none =>
      have hend := List.getElem?_eq_none_iff.mp hget
      exact Or.inr ⟨bytes.length, tagTurn_of_length_le hend, h, Nat.le_refl _⟩
  | some b =>
      obtain ⟨hlt, -⟩ := List.getElem?_eq_some_iff.mp hget
      have hturn := tagTurn_of_getElem? hget
      split at hturn
      · exact Or.inr ⟨head.index + 1, hturn, Nat.le_succ _, hlt⟩
      split at hturn
      · obtain ⟨stop, hstop, hstart, hrange⟩ := exists_behindValue? (Nat.succ_le_of_lt hlt) b
        rw [hstop] at hturn
        exact Or.inl ⟨⟨stop, false⟩, hturn, hstart, hrange⟩
      · exact Or.inl ⟨_, hturn, Nat.lt_succ_self _, hlt⟩

end

/-! ### Running the search -/

/-- The search for the end of a tag as a loop over indices. -/
def tagLoop (bytes : List UInt8) : Loop TagHead Nat where
  turn := tagTurn bytes
  position := TagHead.index
  bound := bytes.length

/-- The index behind the tag, which is the end of the bytes when the tag is never closed. -/
def endOfTag? (bytes : List UInt8) (start : Nat) : Option Nat :=
  (tagLoop bytes).run ⟨start, false⟩

/-- The run of a search from an index is safe, and ends in range at an index that is no smaller. -/
def EndsTagSafely (bytes : List UInt8) (start : Nat) : Prop :=
  (tagLoop bytes).RunsSafely ⟨start, false⟩ fun stop => start ≤ stop ∧ stop ≤ bytes.length

theorem advances_of_tagTurn {bytes : List UInt8} {head next : TagHead}
    (h : tagTurn bytes head = some (.inl next)) : (tagLoop bytes).Advances head next := by
  have hrange : head.index ≤ bytes.length := by
    by_contra hout
    rw [tagTurn_of_length_le (by omega)] at h
    cases h
  rcases tagTurn_cases hrange with ⟨next', hnext, hadvances⟩ | ⟨stop, hstop, -⟩
  · rw [h] at hnext
    obtain rfl := Sum.inl.inj (Option.some.inj hnext)
    exact hadvances
  · rw [hstop] at h
    cases h

theorem run_of_tagTurn {bytes : List UInt8} {head next : TagHead}
    (h : tagTurn bytes head = some (.inl next)) :
    (tagLoop bytes).run head = (tagLoop bytes).run next :=
  Loop.run_of_leadsTo h (advances_of_tagTurn h)

theorem keeps_tagLoop (bytes : List UInt8) (start : Nat) :
    (tagLoop bytes).Keeps (fun head => start ≤ head.index ∧ head.index ≤ bytes.length)
      fun stop => start ≤ stop ∧ stop ≤ bytes.length where
  inRange _ hhead := hhead.2
  turn head hhead := by
    rcases tagTurn_cases hhead.2 with ⟨next, hnext, hlt, hrange⟩ | ⟨stop, hstop, hle, hrange⟩
    · exact Or.inl ⟨next, hnext, ⟨hlt, hrange⟩, by omega, hrange⟩
    · exact Or.inr ⟨stop, hstop, by omega, hrange⟩

theorem endsTagSafely {bytes : List UInt8} {start : Nat} (h : start ≤ bytes.length) :
    EndsTagSafely bytes start :=
  (keeps_tagLoop bytes start).runsSafely ⟨Nat.le_refl start, h⟩

/-! ### The end of a tag in the bytes of a text -/

theorem ne_of_isBeyondAscii {c d : Char} (hc : isBeyondAscii c = true) (hd : isBeyondAscii d = false) :
    c ≠ d := by
  rintro rfl
  rw [hc] at hd
  cases hd

theorem beq_of_isBeyondAscii {c d : Char} (hc : isBeyondAscii c = true) (hd : isBeyondAscii d = false) :
    (c == d) = false :=
  beq_eq_false_iff_ne.mpr (ne_of_isBeyondAscii hc hd)

theorem isSpace_of_isBeyondAscii {c : Char} (h : isBeyondAscii c = true) : isSpace c = false := by
  rw [isSpace, beq_of_isBeyondAscii (d := ' ') h rfl, beq_of_isBeyondAscii (d := '\t') h rfl,
    beq_of_isBeyondAscii (d := '\n') h rfl, beq_of_isBeyondAscii (d := '\x0c') h rfl,
    beq_of_isBeyondAscii (d := '\r') h rfl]
  rfl

theorem isQuote_of_isBeyondAscii {c : Char} (h : isBeyondAscii c = true) : isQuote c = false := by
  rw [isQuote, beq_of_isBeyondAscii (d := '"') h rfl, beq_of_isBeyondAscii (d := '\'') h rfl]
  rfl

theorem isNameChar_of_isBeyondAscii {c : Char} (h : isBeyondAscii c = true) : isNameChar c = false := by
  have hdash : (c == '-') = false := beq_of_isBeyondAscii h rfl
  rw [isBeyondAscii, decide_eq_true_eq] at h
  have hbound : ∀ {n : UInt32}, n.toNat < 128 → ¬ c.val ≤ n := fun hn hle =>
    absurd (UInt32.le_iff_toNat_le.mp hle) (by have : c.val.toNat = c.toNat := rfl; omega)
  simp [isNameChar, Char.isAlphanum, Char.isAlpha, Char.isUpper, Char.isLower, Char.isDigit, hdash, hbound]

/-- Whether the search, which stands where a text begins behind other bytes, ends where so much of the text
is left. -/
def EndsAt (front : List UInt8) (behindEquals : Bool) (s rest : List Char) : Prop :=
  ∃ part, s = part ++ rest ∧
    (tagLoop (front ++ encode s)).run ⟨front.length, behindEquals⟩ = some (front.length + byteLength part)

section

variable {front : List UInt8} {equals : Bool} {s rest : List Char}

/-- Behind a part of the text that the search passes, it is a search in what is left. -/
theorem EndsAt.append (part : List Char) {equals' : Bool}
    (hpass : (tagLoop (front ++ encode (part ++ s))).run ⟨front.length, equals⟩ =
      (tagLoop (front ++ encode (part ++ s))).run ⟨front.length + byteLength part, equals'⟩)
    (h : EndsAt (front ++ encode part) equals' s rest) : EndsAt front equals (part ++ s) rest := by
  obtain ⟨passed, rfl, hends⟩ := h
  refine ⟨part ++ passed, (List.append_assoc _ _ _).symm, ?_⟩
  rw [hpass, encode_append, ← List.append_assoc]
  rw [List.length_append] at hends
  rw [byteLength_append, ← Nat.add_assoc]
  exact hends

/-- Bytes that are no ASCII characters are passed, and nothing is behind an equals sign any more. -/
theorem run_beyondAscii {bytes : List UInt8} (h : ∀ b ∈ bytes, isBeyondAscii b.toChar = true)
    (hne : bytes ≠ []) (front : List UInt8) (equals : Bool) (behind : List UInt8) :
    (tagLoop (front ++ (bytes ++ behind))).run ⟨front.length, equals⟩ =
      (tagLoop (front ++ (bytes ++ behind))).run ⟨front.length + bytes.length, false⟩ := by
  induction bytes generalizing front equals with
  | nil => exact absurd rfl hne
  | cons b bs ih =>
      rw [List.forall_mem_cons] at h
      have hturn : tagTurn (front ++ (b :: bs ++ behind)) ⟨front.length, equals⟩ =
          some (.inl ⟨front.length + 1, false⟩) := by
        have hget : (front ++ (b :: bs ++ behind))[front.length]? = some b := by simp
        have hequals : (b.toChar == '=') = false := beq_of_isBeyondAscii h.1 rfl
        rw [tagTurn_of_getElem? hget, if_neg (ne_of_isBeyondAscii h.1 rfl),
          isQuote_of_isBeyondAscii h.1, Bool.and_false, if_neg Bool.false_ne_true, hequals,
          isSpace_of_isBeyondAscii h.1, Bool.and_false, Bool.or_false]
      rw [run_of_tagTurn hturn]
      cases bs with
      | nil => rfl
      | cons b' bs' =>
          have hnext := ih h.2 (List.cons_ne_nil _ _) (front ++ [b]) false
          rw [List.length_append, List.length_singleton, List.append_assoc] at hnext
          rw [List.length_cons, Nat.add_comm (b' :: bs').length 1, ← Nat.add_assoc]
          exact hnext

end

theorem afterTag_outside (equals : Bool) (c : Char) (cs : List Char) :
    afterTag (.outside equals) (c :: cs) =
      if c = '>' then cs
      else afterTag (if equals && isQuote c then .quoted c
        else .outside (c == '=' || (equals && isSpace c))) cs := by
  rw [afterTag, TagScan.ends_outside, TagScan.after_outside]
  simp only [beq_iff_eq]

theorem afterTag_quoted_of_not_mem {quote : Char} {s : List Char} (h : quote ∉ s) :
    afterTag (.quoted quote) s = [] := by
  induction s with
  | nil => rfl
  | cons c cs ih =>
      rw [List.mem_cons, not_or] at h
      have hafter : TagScan.after (.quoted quote) c = .quoted quote := by
        rw [TagScan.after, if_neg (Ne.symm h.1)]
      rw [afterTag_cons rfl, hafter, ih h.2]

/-- Behind the value that a quote opened, the search goes on as the scan does. -/
theorem exists_behindValue?_encode {quote : UInt8} (hquote : encodeChar quote.toChar = [quote])
    (hascii : isBeyondAscii quote.toChar = false) (front : List UInt8) (s : List Char) :
    ∃ part rest, s = part ++ rest ∧
      behindValue? (front ++ encode s) front.length quote = some (front.length + byteLength part) ∧
      afterTag (.quoted quote.toChar) s = afterTag .plain rest := by
  have hslice : bytesFrom? (front ++ encode s) front.length = some (encode s) := by
    rw [bytesFrom?, if_pos (by simp), List.drop_left]
  have habsent : ∀ {v : List Char}, quote.toChar ∉ v → (encode v).findIdx? (· == quote) = none := by
    intro v hv
    rw [List.findIdx?_eq_none_iff]
    rintro b hb
    rw [beq_eq_false_iff_ne]
    rintro rfl
    exact not_mem_encode hascii hv hb
  rw [behindValue?, hslice, Option.map_some]
  by_cases hmem : quote.toChar ∈ s
  · obtain ⟨value, rest, rfl, hvalue⟩ := List.eq_append_cons_of_mem hmem
    refine ⟨value ++ [quote.toChar], rest, by simp, ?_, afterTag_quoted hvalue rest⟩
    have hone : encode [quote.toChar] = [quote] := (encode_singleton _).trans hquote
    have hfound : (encode (value ++ quote.toChar :: rest)).findIdx? (· == quote) =
        some (encode value).length := by
      rw [encode_append, ← List.singleton_append, encode_append, hone, List.findIdx?_append, habsent hvalue,
        List.singleton_append, List.findIdx?_cons, if_pos (beq_self_eq_true _)]
      simp
    have hlength : byteLength (value ++ [quote.toChar]) = (encode value).length + 1 := by
      rw [byteLength, encode_append, hone]
      exact List.length_append
    rw [hfound, hlength]
    rfl
  · refine ⟨s, [], (List.append_nil s).symm, ?_, afterTag_quoted_of_not_mem hmem⟩
    rw [habsent hmem, List.length_append]
    rfl

theorem EndsAt.beyondAscii {c : Char} (hc : isBeyondAscii c = true) {front : List UInt8}
    {s rest : List Char} (h : EndsAt (front ++ encode [c]) false s rest) (equals : Bool) :
    EndsAt front equals (c :: s) rest := by
  refine EndsAt.append [c] ?_ h
  rw [encode_append, byteLength, encode_singleton]
  exact run_beyondAscii (isBeyondAscii_of_mem_encodeChar hc) (encodeChar_ne_nil c) front equals _

section

variable {b : UInt8} (hencode : encodeChar b.toChar = [b])

include hencode

theorem encode_cons_of_ascii (cs : List Char) : encode (b.toChar :: cs) = b :: encode cs := by
  rw [encode, List.flatMap_cons, hencode]
  rfl

theorem byteLength_of_ascii : byteLength [b.toChar] = 1 := by
  rw [byteLength, encode_singleton, hencode]
  rfl

theorem getElem?_of_ascii (front : List UInt8) (cs : List Char) :
    (front ++ encode (b.toChar :: cs))[front.length]? = some b := by
  rw [encode_cons_of_ascii hencode, List.getElem?_append_right (Nat.le_refl _), Nat.sub_self]
  rfl

/-- A search that a quote lets into a value goes on where the scan leaves the value. -/
theorem EndsAt.ofQuote (hascii : isBeyondAscii b.toChar = false) {front : List UInt8} {equals : Bool}
    {cs : List Char} (hgt : b.toChar ≠ '>') (hopens : (equals && isQuote b.toChar) = true)
    (h : ∀ front rest, rest.length ≤ cs.length → EndsAt front false rest (afterTag .plain rest)) :
    EndsAt front equals (b.toChar :: cs) (afterTag (.quoted b.toChar) cs) := by
  obtain ⟨part, rest, rfl, hvalue, hafter⟩ := exists_behindValue?_encode hencode hascii (front ++ [b]) cs
  have hlength : byteLength (b.toChar :: part) = 1 + byteLength part := by
    rw [← List.singleton_append, byteLength_append, byteLength_of_ascii hencode]
  rw [hafter]
  refine EndsAt.append (b.toChar :: part) (run_of_tagTurn ?_) (h _ rest (by simp))
  rw [List.append_assoc, List.singleton_append, List.length_append, List.length_singleton] at hvalue
  rw [List.cons_append, tagTurn_of_getElem? (getElem?_of_ascii hencode front _),
    if_neg hgt, if_pos hopens, encode_cons_of_ascii hencode, hvalue, hlength, ← Nat.add_assoc]
  rfl

end

/-- The search ends where the scan leaves the tag. -/
theorem endsAt_afterTag (front : List UInt8) (equals : Bool) (s : List Char) :
    EndsAt front equals s (afterTag (.outside equals) s) := by
  induction hlength : s.length using Nat.strong_induction_on generalizing front equals s with
  | _ length ih =>
      subst hlength
      cases s with
      | nil =>
          refine ⟨[], by rw [afterTag]; rfl, ?_⟩
          rw [show encode [] = [] from rfl, List.append_nil]
          exact Loop.run_of_inr (tagTurn_of_length_le (Nat.le_refl _))
      | cons c cs =>
          rw [afterTag_outside]
          cases hascii : isBeyondAscii c with
          | true =>
              have hequals : (c == '=') = false := beq_of_isBeyondAscii hascii rfl
              rw [if_neg (ne_of_isBeyondAscii hascii rfl), isQuote_of_isBeyondAscii hascii, Bool.and_false,
                if_neg Bool.false_ne_true, hequals, isSpace_of_isBeyondAscii hascii, Bool.and_false,
                Bool.or_false]
              exact EndsAt.beyondAscii hascii (ih _ (Nat.lt_succ_self _) _ _ cs rfl) equals
          | false =>
              obtain ⟨b, hencode, rfl⟩ := encodeChar_of_ascii hascii
              have hturn : tagTurn _ ⟨front.length, equals⟩ = _ :=
                tagTurn_of_getElem? (getElem?_of_ascii hencode front cs)
              split
              · rename_i hgt
                rw [if_pos hgt] at hturn
                exact ⟨[b.toChar], rfl, by rw [Loop.run_of_inr hturn, byteLength_of_ascii hencode]⟩
              rename_i hgt
              split
              · rename_i hopens
                refine EndsAt.ofQuote hencode hascii hgt hopens fun front' rest hle => ?_
                exact ih _ (Nat.lt_succ_of_le hle) front' false rest rfl
              · rename_i hopens
                rw [if_neg hgt, if_neg hopens] at hturn
                refine EndsAt.append [b.toChar] ?_ (ih _ (Nat.lt_succ_self _) _ _ cs rfl)
                rw [byteLength_of_ascii hencode]
                exact run_of_tagTurn hturn

/-- In the bytes of a text, the search for the end of a tag that starts between two characters ends where the
scan leaves the tag. -/
theorem reaches_afterTag {text : String} {start : Nat} {s : List Char} (h : RestAt text start s) :
    Reaches text start (afterTag .plain s) (endOfTag? text.toUTF8.data.toList start) := by
  obtain ⟨front, htext, rfl⟩ := h
  obtain ⟨part, hpart, hends⟩ := endsAt_afterTag (encode front) false s
  rw [← encode_append, ← htext, Encoding.Utf8.encode_toList] at hends
  refine ⟨_, hends, Nat.le_add_right _ _, front ++ part, ?_, (byteLength_append front part).symm⟩
  rw [htext, List.append_assoc]
  exact congrArg (front ++ ·) hpart

/-- A mark in a value does not end a tag, and a value that is not closed leaves nothing. -/
example : endOfTag? "a='>'é>b".toUTF8.data.toList 1 = some 8 ∧
    endOfTag? "a='>".toUTF8.data.toList 1 = some 4 := by
  cbv

end MarkupModule.Markup.RootTags
