import MarkupModule.Proofs.Markup.ScriptText

/-! The text of an element that holds text only. It is read as one piece up to the end tag of the element
behind it when no end tag is found earlier. Whether that is so can be told from the text and the end tag
alone: what is looked at behind a character is no longer than the end tag. -/

namespace MarkupModule.Markup

open MarkupModule.Text

namespace Lexer

/-- Whether a text is cut at the end tag behind it and not before. -/
def endsAtTag (content : ContentMode) (s : List Char) : Bool :=
  match content with
  | .rawText name => !contains ('<' :: '/' :: name.toList) (lower s)
  | .scriptText => (cutScript .outside (s ++ scriptEnd)).1 == s
  | _ => true

/-! ### Looking ahead -/

theorem dropPrefixIgnoringCase?_append {pattern s : List Char} (h : pattern.length ≤ s.length)
    (t : List Char) :
    dropPrefixIgnoringCase? pattern (s ++ t) = (dropPrefixIgnoringCase? pattern s).map (· ++ t) := by
  induction pattern generalizing s with
  | nil => rfl
  | cons p ps ih =>
      cases s with
      | nil => cases h
      | cons c cs =>
          rw [List.cons_append, dropPrefixIgnoringCase?, dropPrefixIgnoringCase?]
          split
          · exact ih (Nat.le_of_succ_le_succ h)
          · rfl

theorem beginsTagNamed_append {name : String} {s : List Char} (h : name.toList.length < s.length)
    (t : List Char) : beginsTagNamed name (s ++ t) = beginsTagNamed name s := by
  rw [beginsTagNamed, beginsTagNamed, dropPrefixIgnoringCase?_append (Nat.le_of_lt h)]
  cases hfound : dropPrefixIgnoringCase? name.toList s with
  | none => rfl
  | some rest =>
      have hlength := length_dropPrefixIgnoringCase?_le hfound
      cases rest with
      | nil =>
          rw [List.length_nil, Nat.zero_add] at hlength
          exact absurd hlength (Nat.ne_of_lt h)
      | cons c cs => rfl

theorem closes_append {name : String} {s : List Char} (h : name.toList.length + 1 < s.length) (t : List Char) :
    closes name (s ++ t) = closes name s := by
  cases s with
  | nil => cases h
  | cons c cs =>
      rw [List.cons_append]
      by_cases hc : c = '/'
      · subst hc
        exact beginsTagNamed_append (Nat.lt_of_succ_lt_succ h) t
      · rw [closes, closes]
        · exact fun _ heq => hc (List.cons.inj heq).1
        · exact fun _ heq => hc (List.cons.inj heq).1

theorem startsWith_append {pattern s : List Char} (h : pattern.length ≤ s.length) (t : List Char) :
    startsWith pattern (s ++ t) = startsWith pattern s := by
  induction pattern generalizing s with
  | nil => rfl
  | cons p ps ih =>
      cases s with
      | nil => cases h
      | cons c cs =>
          rw [List.cons_append, startsWith, startsWith, dropPrefix?, dropPrefix?]
          split
          · exact ih (Nat.le_of_succ_le_succ h)
          · rfl

/-- The state behind a character of a script is told from as much of what follows as an end tag is long. -/
theorem after_append (state : ScriptState) (c : Char) {s : List Char} (h : 8 < s.length) (t : List Char) :
    state.after c (s ++ t) = state.after c s := by
  have hcloses : closes "script" (s ++ t) = closes "script" s :=
    closes_append (Nat.lt_trans (by decide : "script".toList.length + 1 < 8) h) t
  have hbegins : beginsTagNamed "script" (s ++ t) = beginsTagNamed "script" s :=
    beginsTagNamed_append (Nat.lt_trans (by decide) h) t
  have hstarts : startsWith "!--".toList (s ++ t) = startsWith "!--".toList s :=
    startsWith_append (Nat.le_trans (by decide) (Nat.le_of_lt h)) t
  cases state with
  | outside => rw [ScriptState.after, ScriptState.after, hstarts]
  | opening left => rfl
  | commented hyphens => rw [ScriptState.after, ScriptState.after, hbegins]
  | nested hyphens => rw [ScriptState.after, ScriptState.after, hcloses]

/-! ### Cutting -/

theorem cutScript_append_of_ends {state : ScriptState} {s : List Char}
    (h : (cutScript state (s ++ scriptEnd)).1 = s) (rest : List Char) :
    cutScript state (s ++ (scriptEnd ++ rest)) = (s, scriptEnd ++ rest) := by
  induction s generalizing state with
  | nil =>
      rw [List.nil_append, scriptEnd, cutScript] at h
      change (if (state.mayEnd && true) = true then _ else _ : List Char × List Char).1 = [] at h
      rw [List.nil_append, scriptEnd, List.cons_append, cutScript]
      change (if (state.mayEnd && true) = true then _ else _ : List Char × List Char) = _
      cases hends : state.mayEnd with
      | true => rfl
      | false =>
          rw [hends] at h
          cases h
  | cons c cs ih =>
      have hlong : 8 < (cs ++ scriptEnd).length := by
        rw [List.length_append]
        exact Nat.lt_of_lt_of_le (by decide : 8 < scriptEnd.length) (Nat.le_add_left _ _)
      have hcloses : closes "script" (cs ++ scriptEnd ++ rest) = closes "script" (cs ++ scriptEnd) :=
        closes_append (Nat.lt_trans (by decide : "script".toList.length + 1 < 8) hlong) rest
      rw [List.cons_append, cutScript] at h
      rw [List.cons_append, ← List.append_assoc, cutScript, hcloses, after_append state c hlong]
      split at h
      · cases h
      · rename_i hgoes
        rw [if_neg hgoes, List.append_assoc, ih (List.cons.inj h).2]

theorem cutAtEndTag_append_of_ends {name : String} (hname : '<' ∉ name.toList) {s : List Char}
    (h : contains ('<' :: '/' :: name.toList) (lower s) = false) {t : List Char} (ht : closes name t = true) :
    cutAtEndTag name (s ++ '<' :: t) = (s, '<' :: t) := by
  induction s with
  | nil => rw [List.nil_append, cutAtEndTag, if_pos (by rw [ht]; rfl)]
  | cons c cs ih =>
      have hrest : contains ('<' :: '/' :: name.toList) (lower cs) = false := (contains_cons_eq_false.mp h).2
      rw [List.cons_append, cutAtEndTag, not_closes_append hname h t, if_neg Bool.false_ne_true, ih hrest]

/-- Where no markup begins, nothing is taken for an end tag. -/
theorem contains_eq_false_of_not_mem {p : Char} {ps s : List Char} (h : p ∉ s) :
    contains (p :: ps) s = false := by
  induction s with
  | nil => rfl
  | cons c cs ih =>
      rw [List.mem_cons, not_or] at h
      rw [contains_cons_eq_false]
      refine ⟨?_, ih h.2⟩
      rw [startsWith, dropPrefix?, if_neg h.1]
      rfl

/-! ### The first token -/

/-- The end tag of an element behind its text. -/
theorem closes_endTag {name : String} (h : isPlainName name.toList = true) (rest : List Char) :
    closes name ('/' :: (name.toList ++ '>' :: rest)) = true := by
  have hlower := lower_of_isPlainName h
  have hfound : ∀ {s : List Char}, lower s = s →
      dropPrefixIgnoringCase? s (s ++ '>' :: rest) = some ('>' :: rest) := by
    intro s hs
    induction s with
    | nil => rfl
    | cons c cs ih =>
        obtain ⟨hc, hcs⟩ := List.cons.inj hs
        rw [List.cons_append, dropPrefixIgnoringCase?, if_pos hc.symm, ih hcs]
  change beginsTagNamed name (name.toList ++ '>' :: rest) = true
  rw [beginsTagNamed, hfound hlower]
  rfl

/-- How the text of an element is written, as the content that it is read as asks for. -/
def heldText (content : ContentMode) (s : List Char) : List Char :=
  match content with
  | .referenceText _ => escapeText s
  | _ => s

theorem heldText_ne_nil (content : ContentMode) {s : List Char} (h : s ≠ []) : heldText content s ≠ [] := by
  unfold heldText
  split
  · exact escapeText_ne_nil h
  · exact h

/-- The content modes of elements that hold text only, with the name that ends them. -/
inductive EndsWith : ContentMode → String → Prop where
  | reference (name : String) : EndsWith (.referenceText name) name
  | raw (name : String) : EndsWith (.rawText name) name
  | script : EndsWith .scriptText "script"

variable {content : ContentMode} {name : String}

/-- In the text of an element its end tag is found. -/
theorem first_heldEnd (hcontent : EndsWith content name) (h : isPlainName name.toList = true) (sections : Bool)
    (rest : List Char) :
    first content sections '<' ('/' :: (name.toList ++ '>' :: rest)) = ⟨[.endTag name], rest⟩ := by
  have hcloses := closes_endTag h rest
  have hend : endTag (('/' :: (name.toList ++ '>' :: rest)).drop 1) = ⟨[.endTag name], rest⟩ :=
    endTag_text (isTagName_of_isPlainName h) rest
  cases hcontent with
  | reference => rw [first, if_pos (by rw [hcloses]; rfl), hend]
  | raw => rw [first, if_pos (by rw [hcloses]; rfl), hend]
  | script => rw [first, if_pos (by rw [hcloses]; rfl), hend]

/-- A text is read whole up to the end tag behind it. -/
theorem first_heldText (hcontent : EndsWith content name) (h : isPlainName name.toList = true) {s : List Char}
    (hends : endsAtTag content s = true) (hnul : '\x00' ∉ s) {c : Char} {cs : List Char}
    (hs : heldText content s = c :: cs) (sections : Bool) (rest : List Char) :
    first content sections c (cs ++ '<' :: '/' :: (name.toList ++ '>' :: rest)) =
      ⟨[.text (String.ofList s)], '<' :: '/' :: (name.toList ++ '>' :: rest)⟩ := by
  have hcloses := closes_endTag h rest
  have hname : '<' ∉ name.toList :=
    fun hmem => ne_of_isNameChar (isNameChar_of_mem h hmem) (by decide) rfl
  cases hcontent with
  | reference =>
      have hescaped : escapeText s = c :: cs := hs
      have hless : '<' ∉ c :: cs := by
        rw [← hescaped]
        exact fun hmem => (mem_escapeText hmem).1 rfl
      have hclean : '\x00' ∉ c :: cs := by
        rw [← hescaped]
        intro hmem
        rcases (mem_escapeText hmem).2 with hmem | hmem
        · exact hnul hmem
        · revert hmem
          decide
      have hplain : '<' ∉ lower cs :=
        fun hmem => hless (List.mem_cons_of_mem _ (mem_of_mem_lower (by decide) hmem))
      have hcut := cutAtEndTag_append_of_ends hname (contains_eq_false_of_not_mem hplain) hcloses
      have hc : c ≠ '<' := fun heq => hless (heq ▸ List.mem_cons_self)
      rw [first, decide_eq_false hc, Bool.false_and, if_neg Bool.false_ne_true, hcut]
      dsimp only
      rw [replaceNul_of_not_mem hclean, ← hescaped, Reference.resolve_escapeText]
      rfl
  | raw =>
      obtain rfl : s = c :: cs := hs
      have hlacks : contains ('<' :: '/' :: name.toList) (lower (c :: cs)) = false := by
        rwa [endsAtTag, Bool.not_eq_true'] at hends
      have hcut := cutAtEndTag_append_of_ends hname (contains_cons_eq_false.mp hlacks).2 hcloses
      rw [first, not_closes_append hname hlacks, if_neg Bool.false_ne_true, hcut]
      dsimp only
      rw [replaceNul_of_not_mem hnul]
      rfl
  | script =>
      obtain rfl : s = c :: cs := hs
      have hcut := cutScript_append_of_ends (beq_iff_eq.mp hends) rest
      rw [List.cons_append, cutScript] at hcut
      have hscript : cs ++ '<' :: '/' :: ("script".toList ++ '>' :: rest) = cs ++ (scriptEnd ++ rest) := by
        simp [scriptEnd]
      rw [hscript, first]
      change (if (decide (c = '<') && true && _) = true then _ else _) = _ at hcut
      rw [Bool.and_true] at hcut
      split at hcut
      · cases hcut
      · rename_i hgoes
        obtain ⟨hfirst, hrest⟩ := Prod.mk.inj hcut
        rw [if_neg hgoes]
        dsimp only
        rw [hfirst, hrest, replaceNul_of_not_mem hnul]
        rfl

end Lexer

end MarkupModule.Markup
