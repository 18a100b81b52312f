import MarkupModule.Proofs.Component.Scan
import MarkupModule.Proofs.RootTags.TagEnd

/-! The scan for document elements by byte offsets. The scan is here the loop over offsets into the lowered
text that it is run as: comments, declarations, tags and the text of elements are jumped over by offsets, and
every slice is checked. On every source no slice fails, each turn starts between two characters and leads to a
larger offset, and the scan ends with the answer that it has on remaining texts. -/

namespace MarkupModule.Markup.RootTags

open MarkupModule.Text
open Relation (ReflTransGen)

/-! ### A step at an offset -/

/-- The name of the tag that starts at an offset, and the offset behind it. -/
def nameAt? (text : String) (start : Nat) : Option (String × Nat) :=
  (sliceFrom? text start).bind fun rest =>
    let length := (rest.toUTF8.data.toList.takeWhile fun b => isNameChar b.toChar).length
    (sliceTo? rest length).map fun name => (name, start + length)

/-- The offset at which the scan goes on behind an element's tag, of which the name is read. -/
def elementEnd? (text name : String) (behind : Nat) : Option Nat :=
  (endOfTag? text.toUTF8.data.toList behind).bind fun stop =>
    if textElements.contains name then seek? text stop ("</" ++ name) 0 else some stop

/-- One step of the scan, at the offset behind a `<`: the name of a start tag, if this is one, and the offset
at which the scan goes on. -/
def stepAt? (text : String) (start : Nat) : Option (Option String × Nat) :=
  (sliceFrom? text start).bind fun rest =>
    if startsWith "!--".toList rest.toList then (skipPast? text (start + 3) "-->").map (none, ·)
    else if rest.toList.head?.any isMark then (skipPast? text start ">").map (none, ·)
    else if rest.toList.head?.any Char.isAlpha then
      (nameAt? text start).bind fun (name, behind) => (elementEnd? text name behind).map (some name, ·)
    else some (none, start)

section

variable {text : String} {start : Nat} {s : List Char}

theorem nameAt?_of_restAt (h : RestAt text start s) :
    nameAt? text start =
      some (String.ofList (s.takeWhile isNameChar), start + byteLength (s.takeWhile isNameChar)) := by
  have hname : ((String.ofList s).toUTF8.data.toList.takeWhile fun b => isNameChar b.toChar).length =
      byteLength (s.takeWhile isNameChar) := by
    rw [← Encoding.Utf8.encode_toList, String.toList_ofList,
      Encoding.Utf8.takeWhile_encode fun _ hc => isNameChar_of_isBeyondAscii hc]
    rfl
  have hsplit : (String.ofList s).toList = s.takeWhile isNameChar ++ s.dropWhile isNameChar := by
    rw [String.toList_ofList, List.takeWhile_append_dropWhile]
  rw [nameAt?, h.sliceFrom?, Option.bind_some, hname]
  dsimp only
  rw [sliceTo?_byteLength hsplit]
  rfl

theorem reaches_elementEnd? (h : RestAt text start s) (name : String) :
    Reaches text start (afterElement name (afterTag .plain s)) (elementEnd? text name start) := by
  refine (reaches_afterTag h).bind fun stop hstop => ?_
  rw [afterElement]
  split
  · refine hstop.reaches_cutBefore ?_
    rw [String.toList_append]
    exact List.cons_ne_nil _ _
  · exact hstop.reaches_self

/-- Whether an answer is what a step sees, with an offset, at or behind another one, at which what the step
leaves is left. -/
def StepsTo (text : String) (start : Nat) (taken : Option String × List Char)
    (answer : Option (Option String × Nat)) : Prop :=
  ∃ stop, answer = some (taken.1, stop) ∧ start ≤ stop ∧ RestAt text stop taken.2

theorem stepsTo_of_reaches {answer : Option Nat} (h : Reaches text start s answer) (seen : Option String) :
    StepsTo text start (seen, s) (answer.map (seen, ·)) := by
  obtain ⟨stop, rfl, hbounds⟩ := h
  exact ⟨stop, rfl, hbounds⟩

theorem StepsTo.mono {taken : Option String × List Char} {answer : Option (Option String × Nat)}
    (h : StepsTo text start taken answer) {start' : Nat} (hle : start' ≤ start) :
    StepsTo text start' taken answer := by
  obtain ⟨stop, hstop, hstart, hrest⟩ := h
  exact ⟨stop, hstop, Nat.le_trans hle hstart, hrest⟩

theorem stepsTo_startTag (h : RestAt text start s) :
    StepsTo text start
      (some (String.ofList (s.takeWhile isNameChar)),
        afterElement (String.ofList (s.takeWhile isNameChar)) (afterTag .plain (s.dropWhile isNameChar)))
      ((nameAt? text start).bind fun (name, behind) =>
        (elementEnd? text name behind).map (some name, ·)) := by
  have hbehind : RestAt text (start + byteLength (s.takeWhile isNameChar)) (s.dropWhile isNameChar) := by
    apply RestAt.drop
    rwa [List.takeWhile_append_dropWhile]
  rw [nameAt?_of_restAt h, Option.bind_some]
  exact (stepsTo_of_reaches (reaches_elementEnd? hbehind _) _).mono (Nat.le_add_right _ _)

/-- A step at an offset between two characters does not fail, and takes what a step on the remaining text
takes. -/
theorem stepsTo_stepAt? (h : RestAt text start s) :
    StepsTo text start (step s) (stepAt? text start) := by
  have hslice : (String.ofList s).toList = s := String.toList_ofList
  rw [stepAt?, h.sliceFrom?, Option.bind_some, hslice, startsWith]
  cases hcomment : dropPrefix? "!--".toList s with
  | some rest =>
      have hstarts : startsWith "!--".toList s = true := by
        rw [startsWith, hcomment]
        rfl
      obtain ⟨behind, rfl⟩ := startsWith_iff_isPrefix.mp hstarts
      have hbehind : RestAt text (start + 3) behind := h.drop
      have hend := hbehind.reaches_dropThrough (by decide : "-->".toList ≠ [])
      rw [Option.isSome_some, if_pos rfl, step_of_comment (dropPrefix?_append _ behind)]
      exact (stepsTo_of_reaches hend none).mono (Nat.le_add_right start 3)
  | none =>
      rw [Option.isSome_none, if_neg Bool.false_ne_true]
      cases s with
      | nil => exact ⟨start, rfl, Nat.le_refl start, h⟩
      | cons c cs =>
          rw [List.head?_cons, Option.any_some, Option.any_some]
          cases hmark : isMark c with
          | true =>
              rw [if_pos rfl, step_of_isMark hmark hcomment]
              exact stepsTo_of_reaches (h.reaches_dropThrough (by decide : ">".toList ≠ [])) none
          | false =>
              rw [if_neg Bool.false_ne_true]
              cases halpha : c.isAlpha with
              | true =>
                  rw [if_pos rfl, step_cons_of_isAlpha halpha]
                  exact stepsTo_startTag h
              | false =>
                  rw [if_neg Bool.false_ne_true, step_of_text hmark halpha]
                  exact ⟨start, rfl, Nat.le_refl start, h⟩

end

/-! ### Turns of the scan -/

/-- Where the scan stands, with the document elements that it has seen. -/
structure Head where
  offset : Nat := 0
  roots : RootTags := {}
  deriving DecidableEq, Repr

/-- One turn of the scan, which goes on behind the next tag or ends when no `<` is left; nothing when a slice
is out of range or begins inside a character. -/
def turn (text : String) (head : Head) : Option (Head ⊕ RootTags) :=
  (sliceFrom? text head.offset).bind fun rest =>
    match find? ['<'] rest.toList with
    | none => some (.inr head.roots)
    | some distance =>
      (stepAt? text (head.offset + distance + 1)).map fun (seen, stop) =>
        .inl ⟨stop, seen.toList.foldl note head.roots⟩

/-- What the scan answers when so much of the text is left. -/
def Head.answer (head : Head) (s : List Char) : RootTags :=
  (tagNames s).foldl note head.roots

section

variable {text : String} {head : Head} {s : List Char}

theorem turn_of_restAt (h : RestAt text head.offset s) :
    turn text head =
      match find? ['<'] s with
      | none => some (.inr head.roots)
      | some distance =>
        (stepAt? text (head.offset + distance + 1)).map fun (seen, stop) =>
          .inl ⟨stop, seen.toList.foldl note head.roots⟩ := by
  have hslice : (String.ofList s).toList = s := String.toList_ofList
  rw [turn, h.sliceFrom?, Option.bind_some, hslice]

/-- A turn at an offset between two characters does not fail: it ends with the answer of the scan, or it leads
to a larger offset between two characters and to the same answer. -/
theorem turn_cases (h : RestAt text head.offset s) :
    (∃ next rest, turn text head = some (.inl next) ∧ head.offset < next.offset ∧
        RestAt text next.offset rest ∧ next.answer rest = head.answer s) ∨
      turn text head = some (.inr (head.answer s)) := by
  have hturn := turn_of_restAt h
  by_cases hmem : '<' ∈ s
  · obtain ⟨before, rest, rfl, hbefore⟩ := List.eq_append_cons_of_mem hmem
    rw [find?_append_cons hbefore] at hturn
    rw [← List.singleton_append] at h
    have hrest : RestAt text (head.offset + byteLength before + 1) rest := h.drop.drop
    obtain ⟨stop, hstop, hle, hleft⟩ := stepsTo_stepAt? hrest
    refine Or.inl ⟨⟨stop, (step rest).1.toList.foldl note head.roots⟩, (step rest).2, ?_, ?_, hleft, ?_⟩
    · rw [hturn]
      dsimp only
      rw [hstop]
      rfl
    · change head.offset < stop
      omega
    · rw [Head.answer, Head.answer, tagNames_append_of_not_mem hbefore, tagNames_cons, List.foldl_append]
  · rw [find?_eq_none_of_not_mem hmem] at hturn
    have hnone : tagNames s = [] := by
      have happend := tagNames_append_of_not_mem hmem []
      rwa [List.append_nil, tagNames_nil] at happend
    refine Or.inr ?_
    rw [hturn, Head.answer, hnone]
    rfl

end

/-! ### Running the scan -/

/-- The scan of a text as a loop over byte offsets. -/
def scanLoop (text : String) : Loop Head RootTags where
  turn := turn text
  position := Head.offset
  bound := text.utf8ByteSize

/-- The run of the scan is safe and answers so, each turn starts between two characters, and each search for
the end of a tag starts between two characters, behind the name of the tag, and is as safe. -/
structure ScansSafely (text : String) (roots : RootTags) : Prop where
  run : (scanLoop text).RunsSafely {} (· = roots)
  onBoundary : ∀ head, ReflTransGen (scanLoop text).LeadsTo {} head →
    String.Pos.Raw.IsValid text ⟨head.offset⟩
  tags : ∀ start name behind, nameAt? text start = some (name, behind) →
    String.Pos.Raw.IsValid text ⟨behind⟩ ∧ EndsTagSafely text.toUTF8.data.toList behind

theorem keeps_scanLoop (text : String) (roots : RootTags) :
    (scanLoop text).Keeps (fun head => ∃ s, RestAt text head.offset s ∧ head.answer s = roots)
      (· = roots) where
  inRange head hhead := by
    obtain ⟨s, hs, -⟩ := hhead
    exact Nat.le.intro hs.add_byteLength
  turn head hhead := by
    obtain ⟨s, hs, rfl⟩ := hhead
    rcases turn_cases hs with ⟨next, rest, hnext, hlt, hrest, hanswer⟩ | hends
    · have hadvances : (scanLoop text).Advances head next := ⟨hlt, Nat.le.intro hrest.add_byteLength⟩
      exact Or.inl ⟨next, hnext, hadvances, rest, hrest, hanswer⟩
    · exact Or.inr ⟨_, hends, rfl⟩

theorem restAt_of_nameAt? {text name : String} {start behind : Nat}
    (h : nameAt? text start = some (name, behind)) : ∃ rest, RestAt text behind rest := by
  cases hslice : sliceFrom? text start with
  | none =>
      rw [nameAt?, hslice] at h
      cases h
  | some slice =>
      have hrest := restAt_of_sliceFrom? hslice
      rw [nameAt?_of_restAt hrest] at h
      obtain ⟨-, rfl⟩ := Prod.mk.inj (Option.some.inj h)
      refine ⟨slice.toList.dropWhile isNameChar, RestAt.drop ?_⟩
      rwa [List.takeWhile_append_dropWhile]

/-- The scan of every source is safe and has the answer of the scan on remaining texts. -/
theorem scansSafely (source : String) : ScansSafely (lowerName source) (scan source) := by
  have hkeeps := keeps_scanLoop (lowerName source) (scan source)
  have hfirst : ∃ s, RestAt (lowerName source) ({} : Head).offset s ∧ ({} : Head).answer s = scan source := by
    refine ⟨lower source.toList, ?_, rfl⟩
    have hstart := restAt_zero (lowerName source)
    rwa [lowerName, String.toList_ofList] at hstart
  refine ⟨hkeeps.runsSafely hfirst, ?_, ?_⟩
  · intro head hreached
    obtain ⟨s, hs, -⟩ := hkeeps.kind_of_reached hfirst hreached
    exact hs.isValid
  · intro start name behind hname
    obtain ⟨rest, hrest⟩ := restAt_of_nameAt? hname
    exact ⟨hrest.isValid, endsTagSafely (Nat.le.intro hrest.add_byteLength)⟩

end MarkupModule.Markup.RootTags
