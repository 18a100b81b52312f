import MarkupModule.Markup.Lexer.Comment
import MarkupModule.Markup.Lexer.Declaration
import MarkupModule.Markup.Lexer.Script
import MarkupModule.Markup.Lexer.Tag

/-! The lexer: what the text begins with and what follows it. Every step consumes at least one
character, so that a document is read in as many steps as it has characters at most. Some text makes no
token, such as a tag that the input leaves open, and some makes several. -/

namespace MarkupModule.Markup.Lexer

open MarkupModule.Text

/-- Whether a `<` with this text behind it begins markup; otherwise it stands for itself. -/
def opensMarkup : List Char → Bool
  | [] => false
  | ['/'] => false
  | c :: _ => c.isAlpha || c == '/' || c == '!' || c == '?'

/-- The text before the next markup or NUL, and what follows. -/
def cutText : List Char → List Char × List Char
  | [] => ([], [])
  | c :: cs =>
    if c = '\x00' || (c = '<' && opensMarkup cs) then ([], c :: cs)
    else
      let cut := cutText cs
      (c :: cut.1, cut.2)

/-- Tokens and the text that follows them. -/
structure Lexed where
  tokens : List Token
  rest : List Char

/-- Text with its NUL characters as tokens of their own. -/
def splitNul (s : List Char) : List Token :=
  match s with
  | [] => []
  | c :: cs =>
    if c = '\x00' then .nul :: splitNul cs
    else
      match splitNul cs with
      | .text run :: tokens => .text (String.singleton c ++ run) :: tokens
      | tokens => .text (String.singleton c) :: tokens

/-- A start tag, read from its name; the input may end before the tag does. -/
def startTag (s : List Char) : Lexed :=
  match tag? s with
  | some (tag, rest) => ⟨[.startTag tag], rest⟩
  | none => ⟨[], []⟩

/-- An end tag, read from its name; its attributes count for nothing. -/
def endTag (s : List Char) : Lexed :=
  match tag? s with
  | some (tag, rest) => ⟨[.endTag tag.name], rest⟩
  | none => ⟨[], []⟩

/-- Text that is read as a comment up to the next `>`. -/
def stray (s : List Char) : Lexed :=
  let cut := strayComment s
  ⟨[.comment (String.ofList (replaceNul cut.1))], cut.2⟩

/-- Markup behind `<!`: a comment, a document type, a character data section where those are allowed,
or anything else, which is read as a comment. -/
def declared (sections : Bool) (s : List Char) : Lexed :=
  match dropPrefix? "--".toList s with
  | some rest =>
    let cut := comment rest
    ⟨[.comment (String.ofList (replaceNul cut.1))], cut.2⟩
  | none =>
    match dropPrefixIgnoringCase? "doctype".toList s with
    | some rest =>
      let cut := declaration rest
      ⟨[.doctype cut.1], cut.2⟩
    | none =>
      match dropPrefix? "[CDATA[".toList s with
      | some rest =>
        if sections then
          ⟨splitNul (cutBefore "]]>".toList rest).1, dropThrough "]]>".toList rest⟩
        else stray s
      | none => stray s

/-- Markup, read from what follows a `<` that begins it. -/
def markup (sections : Bool) : List Char → Lexed
  | [] => ⟨[], []⟩
  | '/' :: s =>
    match s with
    | [] => ⟨[], []⟩
    | '>' :: rest => ⟨[], rest⟩
    | c :: rest => if c.isAlpha then endTag (c :: rest) else stray (c :: rest)
  | '!' :: s => declared sections s
  | c :: s => if c.isAlpha then startTag (c :: s) else stray (c :: s)

/-- The text token for a run that is not empty. -/
def textToken (run : List Char) : List Token :=
  [.text (String.ofList run)]

/-- The first tokens of a text that begins with `c`, and what follows them. The mode says what kind of
content is being read, `sections` whether character data sections are allowed. -/
def first (mode : ContentMode) (sections : Bool) (c : Char) (cs : List Char) : Lexed :=
  match mode with
  | .markup =>
    if c = '\x00' then ⟨[.nul], cs⟩
    else if c = '<' && opensMarkup cs then markup sections cs
    else
      let cut := cutText cs
      ⟨textToken (Reference.resolve false (c :: cut.1)), cut.2⟩
  | .referenceText name =>
    if c = '<' && closes name cs then endTag (cs.drop 1)
    else
      let cut := cutAtEndTag name cs
      ⟨textToken (Reference.resolve false (replaceNul (c :: cut.1))), cut.2⟩
  | .rawText name =>
    if c = '<' && closes name cs then endTag (cs.drop 1)
    else
      let cut := cutAtEndTag name cs
      ⟨textToken (replaceNul (c :: cut.1)), cut.2⟩
  | .scriptText =>
    if c = '<' && closes "script" cs then endTag (cs.drop 1)
    else
      let cut := cutScript (ScriptState.outside.after c cs) cs
      ⟨textToken (replaceNul (c :: cut.1)), cut.2⟩
  | .plainText => ⟨textToken (replaceNul (c :: cs)), []⟩

theorem cutText_append (s : List Char) : (cutText s).1 ++ (cutText s).2 = s := by
  induction s with
  | nil => rfl
  | cons c cs ih =>
    simp only [cutText]
    split
    · rfl
    · simp [ih]

theorem length_cutText_le (s : List Char) : (cutText s).2.length ≤ s.length := by
  have h := congrArg List.length (cutText_append s)
  simp only [List.length_append] at h
  omega

theorem length_startTag_le (s : List Char) : (startTag s).rest.length ≤ s.length := by
  unfold startTag
  split
  · rename_i h
    exact Nat.le_of_lt (length_tag?_lt h)
  · simp

theorem length_endTag_le (s : List Char) : (endTag s).rest.length ≤ s.length := by
  unfold endTag
  split
  · rename_i h
    exact Nat.le_of_lt (length_tag?_lt h)
  · simp

theorem length_stray_le (s : List Char) : (stray s).rest.length ≤ s.length :=
  length_strayComment_le s

theorem length_declared_le (sections : Bool) (s : List Char) :
    (declared sections s).rest.length ≤ s.length := by
  unfold declared
  split
  · rename_i rest h
    have h1 := length_dropPrefix?_le h
    have h2 := length_comment_le rest
    simp only
    omega
  · split
    · rename_i rest h
      have h1 := length_dropPrefixIgnoringCase?_le h
      have h2 := length_declaration_le rest
      simp only
      omega
    · split
      · rename_i rest h
        have h1 := length_dropPrefix?_le h
        have h2 := length_dropThrough_le "]]>".toList rest
        split
        · simp only
          omega
        · exact length_stray_le s
      · exact length_stray_le s

theorem length_markup_le (sections : Bool) (s : List Char) :
    (markup sections s).rest.length ≤ s.length := by
  unfold markup
  split
  · simp
  · split
    · simp
    · simp only [List.length_cons]
      omega
    · split
      · exact Nat.le_succ_of_le (length_endTag_le _)
      · exact Nat.le_succ_of_le (length_stray_le _)
  · exact Nat.le_succ_of_le (length_declared_le _ _)
  · split
    · exact length_startTag_le _
    · exact length_stray_le _

/-- What follows the first tokens is shorter than the text. -/
theorem length_first_lt (mode : ContentMode) (sections : Bool) (c : Char) (cs : List Char) :
    (first mode sections c cs).rest.length < (c :: cs).length := by
  have hend : (endTag (cs.drop 1)).rest.length ≤ cs.length := by
    have := length_endTag_le (cs.drop 1)
    simp only [List.length_drop] at this
    omega
  simp only [List.length_cons]
  unfold first
  cases mode with
  | markup =>
    simp only
    split
    · simp
    · split
      · exact Nat.lt_succ_of_le (length_markup_le sections cs)
      · exact Nat.lt_succ_of_le (length_cutText_le cs)
  | referenceText name =>
    simp only
    split
    · exact Nat.lt_succ_of_le hend
    · exact Nat.lt_succ_of_le (length_cutAtEndTag_le name cs)
  | rawText name =>
    simp only
    split
    · exact Nat.lt_succ_of_le hend
    · exact Nat.lt_succ_of_le (length_cutAtEndTag_le name cs)
  | scriptText =>
    simp only
    split
    · exact Nat.lt_succ_of_le hend
    · exact Nat.lt_succ_of_le (length_cutScript_le _ cs)
  | plainText => simp

/-- The tokens of a text that is read as markup throughout. -/
def tokens (s : List Char) : List Token :=
  match s with
  | [] => []
  | c :: cs => (first .markup false c cs).tokens ++ tokens (first .markup false c cs).rest
termination_by s.length
decreasing_by exact length_first_lt .markup false c cs

end MarkupModule.Markup.Lexer
