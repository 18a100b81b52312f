/-! Searching a text for a fixed pattern. Every function works on what is left of a text, so that a
position is the remaining suffix and moving on never leaves the text. -/

namespace MarkupModule.Text

/-- What follows `pattern` at the start of the text, if the text starts with it. -/
def dropPrefix? : (pattern text : List Char) → Option (List Char)
  | [], s => some s
  | _ :: _, [] => none
  | p :: ps, c :: cs => if p = c then dropPrefix? ps cs else none

/-- What follows `pattern` at the start of the text when the case of ASCII letters is ignored;
`pattern` is in lower case. -/
def dropPrefixIgnoringCase? (pattern text : List Char) : Option (List Char) :=
  match pattern, text with
  | [], s => some s
  | _ :: _, [] => none
  | p :: ps, c :: cs => if p = c.toLower then dropPrefixIgnoringCase? ps cs else none

/-- Whether the text starts with the pattern. -/
def startsWith (pattern text : List Char) : Bool :=
  (dropPrefix? pattern text).isSome

/-- The text cut before the first occurrence of the pattern; the second part starts with the pattern,
or is empty when the pattern does not occur. -/
def cutBefore (pattern : List Char) : List Char → List Char × List Char
  | [] => ([], [])
  | c :: cs =>
    if startsWith pattern (c :: cs) then ([], c :: cs)
    else
      let cut := cutBefore pattern cs
      (c :: cut.1, cut.2)

/-- What follows the first occurrence of the pattern, and nothing when it does not occur. -/
def dropThrough (pattern text : List Char) : List Char :=
  match dropPrefix? pattern (cutBefore pattern text).2 with
  | some rest => rest
  | none => []

/-- Whether the pattern occurs in the text; the empty pattern occurs in every text. -/
def contains (pattern : List Char) : List Char → Bool
  | [] => pattern.isEmpty
  | c :: cs => startsWith pattern (c :: cs) || contains pattern cs

theorem startsWith_iff_isPrefix {pattern s : List Char} :
    startsWith pattern s = true ↔ pattern <+: s := by
  induction pattern generalizing s with
  | nil => cases s <;> simp [startsWith, dropPrefix?]
  | cons p ps ih =>
      cases s with
      | nil => simp [startsWith, dropPrefix?]
      | cons c cs =>
          rw [startsWith, dropPrefix?, List.cons_prefix_cons, ← ih]
          split
          · rename_i heq
            exact (and_iff_right heq).symm
          · rename_i hne
            exact iff_of_false Bool.false_ne_true fun h => hne h.1

/-- A pattern occurs in a text where something stands in front of it and something behind it. -/
theorem contains_iff_isInfix {pattern s : List Char} :
    contains pattern s = true ↔ pattern <:+: s := by
  induction s with
  | nil => rw [contains, List.isEmpty_iff, List.infix_nil]
  | cons c cs ih => rw [contains, Bool.or_eq_true, startsWith_iff_isPrefix, ih, List.infix_cons_iff]

/-- What follows a prefix is no longer than the text. -/
theorem length_dropPrefix?_le {pattern text rest : List Char}
    (h : dropPrefix? pattern text = some rest) : rest.length + pattern.length = text.length := by
  induction pattern generalizing text with
  | nil => simp only [dropPrefix?, Option.some.injEq] at h; simp [h]
  | cons p ps ih =>
    cases text with
    | nil => simp [dropPrefix?] at h
    | cons c cs =>
      simp only [dropPrefix?] at h
      split at h
      · have := ih h
        simp only [List.length_cons]
        omega
      · simp at h

/-- What follows a prefix found in any case is no longer than the text. -/
theorem length_dropPrefixIgnoringCase?_le {pattern text rest : List Char}
    (h : dropPrefixIgnoringCase? pattern text = some rest) :
    rest.length + pattern.length = text.length := by
  induction pattern generalizing text with
  | nil => simp only [dropPrefixIgnoringCase?, Option.some.injEq] at h; simp [h]
  | cons p ps ih =>
    cases text with
    | nil => simp [dropPrefixIgnoringCase?] at h
    | cons c cs =>
      simp only [dropPrefixIgnoringCase?] at h
      split at h
      · have := ih h
        simp only [List.length_cons]
        omega
      · simp at h

theorem cutBefore_append (pattern text : List Char) :
    (cutBefore pattern text).1 ++ (cutBefore pattern text).2 = text := by
  induction text with
  | nil => rfl
  | cons c cs ih =>
    simp only [cutBefore]
    split
    · rfl
    · simp [ih]

/-- What is left behind a cut is no longer than the text. -/
theorem length_cutBefore_le (pattern text : List Char) :
    (cutBefore pattern text).2.length ≤ text.length := by
  have h := congrArg List.length (cutBefore_append pattern text)
  simp only [List.length_append] at h
  omega

/-- Skipping through a pattern moves forward. -/
theorem length_dropThrough_le (pattern text : List Char) :
    (dropThrough pattern text).length ≤ text.length := by
  unfold dropThrough
  split
  · rename_i rest h
    have h1 := length_dropPrefix?_le h
    have h2 := length_cutBefore_le pattern text
    omega
  · simp

end MarkupModule.Text
