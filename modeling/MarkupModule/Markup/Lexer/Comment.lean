import MarkupModule.Text.Search
import MarkupModule.Markup.Token

/-! Comments and what is read as a comment: text behind `<!--`, and declarations, processing
instructions and end tags that are none. -/

namespace MarkupModule.Markup.Lexer

/-- NUL characters become the replacement character. -/
def replaceNul (s : List Char) : List Char :=
  s.map fun c => if c = '\x00' then '\uFFFD' else c

/-- What follows the end of a comment, if the text begins with one. A comment that the input leaves open
ends with the input, and hyphens that could have begun its end do not belong to it. -/
def commentEnd? : List Char → Option (List Char)
  | '-' :: '-' :: '>' :: rest => some rest
  | '-' :: '-' :: '!' :: '>' :: rest => some rest
  | ['-'] => some []
  | ['-', '-'] => some []
  | ['-', '-', '!'] => some []
  | _ => none

/-- The text of a comment up to its end, and what follows the end. -/
def cutComment : List Char → List Char × List Char
  | [] => ([], [])
  | c :: cs =>
    match commentEnd? (c :: cs) with
    | some rest => ([], rest)
    | none =>
      let cut := cutComment cs
      (c :: cut.1, cut.2)

/-- A comment, read from what follows `<!--`. Directly behind it, `>` and `->` end the comment too. -/
def comment : List Char → List Char × List Char
  | '>' :: rest => ([], rest)
  | '-' :: '>' :: rest => ([], rest)
  | s => cutComment s

def strayComment (s : List Char) : List Char × List Char :=
  (s.takeWhile (· != '>'), (s.dropWhile (· != '>')).drop 1)

theorem length_commentEnd?_le {s rest : List Char} (h : commentEnd? s = some rest) :
    rest.length ≤ s.length := by
  unfold commentEnd? at h
  split at h <;> simp only [Option.some.injEq, reduceCtorEq] at h <;> subst h <;>
    simp only [List.length_cons, List.length_nil] <;> omega

theorem length_cutComment_le (s : List Char) : (cutComment s).2.length ≤ s.length := by
  induction s with
  | nil => simp [cutComment]
  | cons c cs ih =>
    simp only [cutComment]
    split
    · rename_i rest h
      exact length_commentEnd?_le h
    · exact Nat.le_succ_of_le ih

/-- What follows a comment is no longer than what follows its opening. -/
theorem length_comment_le (s : List Char) : (comment s).2.length ≤ s.length := by
  unfold comment
  split
  · simp
  · simp only [List.length_cons]
    omega
  · exact length_cutComment_le s

/-- What follows a stray comment is no longer than the comment with it. -/
theorem length_strayComment_le (s : List Char) : (strayComment s).2.length ≤ s.length := by
  have h : (s.dropWhile (· != '>')).length ≤ s.length :=
    (List.dropWhile_suffix _).length_le
  simp only [strayComment, List.length_drop]
  omega

end MarkupModule.Markup.Lexer
