import MarkupModule.Proofs.Markup.WrittenTag

/-! The text of a script. A text that holds neither the opening of a comment nor the end tag of a script
in any case is read as one piece up to the end tag behind it, and the scan for document elements steps
over the same piece: no occurrence of what they look for begins in the text and ends behind it, because
none of these patterns has a second `<`. -/

namespace MarkupModule.Text

/-- A prefix without a character is found in front of the character or not at all. -/
theorem isSome_dropPrefix?_append {x : Char} {pattern : List Char} (hx : x ∉ pattern)
    (s t : List Char) :
    (dropPrefix? pattern (s ++ x :: t)).isSome = (dropPrefix? pattern s).isSome := by
  induction pattern generalizing s with
  | nil => cases s <;> rfl
  | cons p ps ih =>
      rw [List.mem_cons, not_or] at hx
      cases s with
      | nil =>
          rw [List.nil_append, dropPrefix?, dropPrefix?, if_neg (Ne.symm hx.1)]
      | cons c cs =>
          rw [List.cons_append, dropPrefix?, dropPrefix?]
          split
          · exact ih hx.2 cs
          · rfl

theorem isSome_dropPrefixIgnoringCase? (pattern s : List Char) :
    (dropPrefixIgnoringCase? pattern s).isSome = startsWith pattern (lower s) := by
  induction pattern generalizing s with
  | nil => cases s <;> rfl
  | cons p ps ih =>
      cases s with
      | nil => rfl
      | cons c cs =>
          rw [dropPrefixIgnoringCase?, startsWith, lower, List.map_cons, dropPrefix?]
          split
          · exact ih cs
          · rfl

theorem contains_cons_eq_false {pattern : List Char} {c : Char} {cs : List Char} :
    contains pattern (c :: cs) = false ↔
      startsWith pattern (c :: cs) = false ∧ contains pattern cs = false := by
  rw [contains, Bool.or_eq_false_iff]

/-- A pattern that does not occur in a text does not begin in it either when a character follows that
the pattern has at its start only. -/
theorem startsWith_append_eq_false {x p c : Char} {ps cs : List Char} (hx : x ∉ ps)
    (h : contains (p :: ps) (c :: cs) = false) (t : List Char) :
    startsWith (p :: ps) (c :: (cs ++ x :: t)) = false := by
  have hcs := (contains_cons_eq_false.mp h).1
  rw [startsWith, dropPrefix?] at hcs ⊢
  split at hcs
  · rename_i heq
    rw [if_pos heq, isSome_dropPrefix?_append hx]
    exact hcs
  · rename_i hne
    rw [if_neg hne]
    rfl

/-- A text is cut where the pattern occurs for the first time. -/
theorem cutBefore_append_eq {x p : Char} {ps s t : List Char} (hx : x ∉ ps)
    (h : contains (p :: ps) s = false) (ht : startsWith (p :: ps) (x :: t) = true) :
    cutBefore (p :: ps) (s ++ x :: t) = (s, x :: t) := by
  induction s with
  | nil => rw [List.nil_append, cutBefore, if_pos ht]
  | cons c cs ih =>
      rw [List.cons_append, cutBefore, startsWith_append_eq_false hx h,
        ih (contains_cons_eq_false.mp h).2]
      rfl

end MarkupModule.Text

namespace MarkupModule.Markup

open MarkupModule.Text

/-- The text of a script that ends at the first end tag behind it. -/
structure IsScriptBody (body : List Char) : Prop where
  noComment : contains "<!--".toList body = false
  noEndTag : contains "</script".toList (lower body) = false
  noNul : '\x00' ∉ body

def scriptEnd : List Char :=
  '<' :: '/' :: ("script".toList ++ ['>'])

theorem Lexer.startsWith_of_closes {name : String} {s : List Char} (h : closes name s = true) :
    startsWith ('/' :: name.toList) (lower s) = true := by
  unfold closes at h
  split at h
  · rename_i rest
    rw [startsWith, lower, List.map_cons, dropPrefix?,
      if_pos (by decide : '/' = Char.toLower '/')]
    change startsWith name.toList (lower rest) = true
    rw [← isSome_dropPrefixIgnoringCase?]
    unfold beginsTagNamed at h
    split at h
    · rename_i heq
      rw [heq]
      rfl
    · cases h
  · cases h

/-- No end tag begins in a text that does not hold the beginning of one in any case. -/
theorem Lexer.not_closes_append {name : String} (hname : '<' ∉ name.toList) {c : Char} {cs : List Char}
    (h : contains ('<' :: '/' :: name.toList) (lower (c :: cs)) = false) (t : List Char) :
    (decide (c = '<') && closes name (cs ++ '<' :: t)) = false := by
  have hpattern : '<' ∉ '/' :: name.toList := by
    rw [List.mem_cons, not_or]
    exact ⟨by decide, hname⟩
  have hstarts : startsWith ('<' :: '/' :: name.toList) (c.toLower :: (lower cs ++ '<' :: lower t)) = false :=
    startsWith_append_eq_false hpattern h (lower t)
  rw [Bool.and_eq_false_iff, ← Bool.not_eq_true, ← Bool.not_eq_true, decide_eq_true_eq, ← not_and_or]
  rintro ⟨rfl, hcloses⟩
  have hlower := startsWith_of_closes hcloses
  rw [lower, List.map_append] at hlower
  change startsWith ('<' :: '/' :: name.toList) ('<' :: (lower cs ++ '<' :: lower t)) = true at hlower
  rw [show Char.toLower '<' = '<' from rfl, hlower] at hstarts
  cases hstarts

namespace IsScriptBody

variable {c : Char} {cs : List Char}

theorem tail (h : IsScriptBody (c :: cs)) : IsScriptBody cs :=
  ⟨(contains_cons_eq_false.mp h.noComment).2, (contains_cons_eq_false.mp h.noEndTag).2,
    fun hmem => h.noNul (List.mem_cons_of_mem _ hmem)⟩

theorem after_outside (h : IsScriptBody (c :: cs)) (t : List Char) :
    Lexer.ScriptState.outside.after c (cs ++ '<' :: t) = .outside := by
  have hlacks : contains ('<' :: "!--".toList) (c :: cs) = false := h.noComment
  have hstarts : startsWith ('<' :: "!--".toList) (c :: (cs ++ '<' :: t)) = false :=
    startsWith_append_eq_false (by decide) hlacks t
  rw [Lexer.ScriptState.after, if_neg]
  intro hopens
  rw [Bool.and_eq_true, decide_eq_true_eq] at hopens
  obtain ⟨rfl, hopens⟩ := hopens
  rw [startsWith] at hopens
  change (dropPrefix? "!--".toList (cs ++ '<' :: t)).isSome = false at hstarts
  rw [hopens] at hstarts
  cases hstarts

theorem not_closes (h : IsScriptBody (c :: cs)) (t : List Char) :
    (decide (c = '<') && Lexer.closes "script" (cs ++ '<' :: t)) = false := by
  have hlacks : contains ('<' :: '/' :: "script".toList) (lower (c :: cs)) = false := h.noEndTag
  exact Lexer.not_closes_append (by decide) hlacks t

end IsScriptBody

namespace Lexer

theorem cutScript_append_eq {body : List Char} (h : IsScriptBody body) (rest : List Char) :
    cutScript .outside (body ++ (scriptEnd ++ rest)) = (body, scriptEnd ++ rest) := by
  induction body with
  | nil => rfl
  | cons c cs ih =>
      rw [List.cons_append, cutScript]
      change (if (decide (c = '<') && true && closes "script" (cs ++ (scriptEnd ++ rest))) = true then _
        else _) = _
      rw [Bool.and_true, scriptEnd, List.cons_append, h.not_closes, h.after_outside]
      rw [scriptEnd, List.cons_append] at ih
      rw [ih h.tail]
      rfl

/-- The first token of a text that begins with the text of a script. -/
theorem first_scriptText {c : Char} {cs : List Char} (h : IsScriptBody (c :: cs)) (sections : Bool)
    (rest : List Char) :
    first .scriptText sections c (cs ++ (scriptEnd ++ rest)) =
      ⟨[.text (String.ofList (c :: cs))], scriptEnd ++ rest⟩ := by
  have hcut := cutScript_append_eq h.tail rest
  rw [scriptEnd, List.cons_append] at hcut ⊢
  rw [first, h.not_closes, h.after_outside, hcut]
  simp only [Bool.false_eq_true, if_false, textToken, replaceNul_of_not_mem h.noNul]

/-- The first token of a text in a script that begins with the end tag of the script. -/
theorem first_scriptEnd (sections : Bool) (rest : List Char) :
    first .scriptText sections '<' ('/' :: ("script".toList ++ '>' :: rest)) =
      ⟨[.endTag "script"], rest⟩ := by
  have hcloses : closes "script" ('/' :: ("script".toList ++ '>' :: rest)) = true := rfl
  have hend : endTag ("script".toList ++ '>' :: rest) = ⟨[.endTag "script"], rest⟩ :=
    endTag_text (by decide) rest
  rw [first, hcloses]
  exact hend

end Lexer

namespace RootTags

/-- The scan steps over the text of a script. -/
theorem afterElement_script {body : List Char} (h : contains "</script".toList body = false)
    (rest : List Char) :
    afterElement "script" (body ++ (scriptEnd ++ rest)) = scriptEnd ++ rest := by
  have hlacks : contains ('<' :: "/script".toList) body = false := h
  have hcut := cutBefore_append_eq (x := '<') (t := '/' :: ("script".toList ++ ['>']) ++ rest)
    (by decide) hlacks rfl
  rw [afterElement, if_pos (by decide)]
  exact congrArg Prod.snd hcut

end RootTags

end MarkupModule.Markup
