import MarkupModule.Text.Ascii
import MarkupModule.Text.Search

/-! The end of text that holds no markup. Text of an element ends at its end tag; the text of a script
has in addition comment-like parts, in which a nested `<script>` hides the next `</script>`. -/

namespace MarkupModule.Markup.Lexer

open MarkupModule.Text

/-- Whether the text begins with a name, in any case, and a character that ends the name of a tag. -/
def beginsTagNamed (name : String) (s : List Char) : Bool :=
  match dropPrefixIgnoringCase? name.toList s with
  | some (c :: _) => isSpace c || c == '/' || c == '>'
  | _ => false

/-- Whether the text behind a `<` makes it the end tag of the given name. -/
def closes (name : String) : List Char → Bool
  | '/' :: rest => beginsTagNamed name rest
  | _ => false

/-- The text before the end tag of the given name, and that end tag with all that follows. -/
def cutAtEndTag (name : String) : List Char → List Char × List Char
  | [] => ([], [])
  | c :: cs =>
    if c = '<' && closes name cs then ([], c :: cs)
    else
      let cut := cutAtEndTag name cs
      (c :: cut.1, cut.2)

/-- Where the reading of a script stands: outside of any comment, within the opening of a comment that
has so many characters left, within a comment, or within a script that is nested in a comment. The
latter two count the hyphens just read, up to two. -/
inductive ScriptState where
  | outside
  | opening (left : Nat)
  | commented (hyphens : Nat)
  | nested (hyphens : Nat)
  deriving DecidableEq, Repr

/-- The state behind a character, given what follows it. -/
def ScriptState.after : ScriptState → Char → List Char → ScriptState
  | .outside, c, cs => if c = '<' && startsWith "!--".toList cs then .opening 3 else .outside
  | .opening left, _, _ => if left ≤ 1 then .commented 2 else .opening (left - 1)
  | .commented hyphens, c, cs =>
    if c = '-' then .commented (min 2 (hyphens + 1))
    else if c = '>' && hyphens == 2 then .outside
    else if c = '<' && beginsTagNamed "script" cs then .nested 0
    else .commented 0
  | .nested hyphens, c, cs =>
    if c = '-' then .nested (min 2 (hyphens + 1))
    else if c = '>' && hyphens == 2 then .outside
    else if c = '<' && closes "script" cs then .commented 0
    else .nested 0

/-- Whether an end tag of the script ends it here. -/
def ScriptState.mayEnd : ScriptState → Bool
  | .nested _ => false
  | _ => true

/-- The text of a script before its end tag, and the end tag with all that follows. -/
def cutScript : ScriptState → List Char → List Char × List Char
  | _, [] => ([], [])
  | state, c :: cs =>
    if c = '<' && state.mayEnd && closes "script" cs then ([], c :: cs)
    else
      let cut := cutScript (state.after c cs) cs
      (c :: cut.1, cut.2)

/-- Cutting text at an end tag loses nothing of it. -/
theorem cutAtEndTag_append (name : String) (s : List Char) :
    (cutAtEndTag name s).1 ++ (cutAtEndTag name s).2 = s := by
  induction s with
  | nil => rfl
  | cons c cs ih =>
    simp only [cutAtEndTag]
    split
    · rfl
    · simp [ih]

/-- Cutting a script at its end tag loses nothing of it. -/
theorem cutScript_append (state : ScriptState) (s : List Char) :
    (cutScript state s).1 ++ (cutScript state s).2 = s := by
  induction s generalizing state with
  | nil => rfl
  | cons c cs ih =>
    simp only [cutScript]
    split
    · rfl
    · simp [ih]

theorem length_cutAtEndTag_le (name : String) (s : List Char) :
    (cutAtEndTag name s).2.length ≤ s.length := by
  have h := congrArg List.length (cutAtEndTag_append name s)
  simp only [List.length_append] at h
  omega

theorem length_cutScript_le (state : ScriptState) (s : List Char) :
    (cutScript state s).2.length ≤ s.length := by
  have h := congrArg List.length (cutScript_append state s)
  simp only [List.length_append] at h
  omega

end MarkupModule.Markup.Lexer
