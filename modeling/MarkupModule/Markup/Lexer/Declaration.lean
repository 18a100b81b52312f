import MarkupModule.Markup.Lexer.Comment
import MarkupModule.Text.Ascii

/-! Document type declarations. A declaration that breaks off or goes on with anything that is not
expected asks for the older layout rules, which is all that is kept of the mistake. -/

namespace MarkupModule.Markup.Lexer

open MarkupModule.Text

def skipDeclaration (s : List Char) : List Char :=
  (s.dropWhile (· != '>')).drop 1

/-- A quoted identifier: its text, whether its closing quote was found, and what follows. -/
structure QuotedId where
  value : String
  closed : Bool
  rest : List Char

/-- The identifier up to its closing quote. It also ends at `>`, which then ends the declaration. -/
def quotedId (quote : Char) (s : List Char) : QuotedId :=
  let rest := s.dropWhile fun c => c != quote && c != '>'
  { value := String.ofList (replaceNul (s.takeWhile fun c => c != quote && c != '>'))
    closed := rest.head? == some quote
    rest := rest.drop 1 }

/-- Whether a character opens a quoted identifier. -/
def isQuote (c : Char) : Bool :=
  c == '"' || c == '\''

/-- The end of a declaration whose parts are all read; other text before the `>` is skipped. -/
def declarationEnd (declaration : DocumentType) (s : List Char) : DocumentType × List Char :=
  match s.dropWhile isSpace with
  | [] => ({ declaration with forceQuirks := true }, [])
  | '>' :: rest => (declaration, rest)
  | rest => (declaration, skipDeclaration rest)

/-- The system identifier, which may be left out behind a public identifier. -/
def systemPart (required : Bool) (declaration : DocumentType) (s : List Char) :
    DocumentType × List Char :=
  match s.dropWhile isSpace with
  | [] => ({ declaration with forceQuirks := true }, [])
  | c :: rest =>
    if isQuote c then
      let id := quotedId c rest
      let found := { declaration with systemId := some id.value }
      if id.closed then declarationEnd found id.rest
      else ({ found with forceQuirks := true }, id.rest)
    else if c = '>' then ({ declaration with forceQuirks := declaration.forceQuirks || required }, rest)
    else ({ declaration with forceQuirks := true }, skipDeclaration rest)

/-- The public identifier and what may follow it. -/
def publicPart (declaration : DocumentType) (s : List Char) : DocumentType × List Char :=
  match s.dropWhile isSpace with
  | [] => ({ declaration with forceQuirks := true }, [])
  | c :: rest =>
    if isQuote c then
      let id := quotedId c rest
      let found := { declaration with publicId := some id.value }
      if id.closed then systemPart false found id.rest
      else ({ found with forceQuirks := true }, id.rest)
    else if c = '>' then ({ declaration with forceQuirks := true }, rest)
    else ({ declaration with forceQuirks := true }, skipDeclaration rest)

/-- What follows the name of a document type. -/
def identifiers (declaration : DocumentType) (s : List Char) : DocumentType × List Char :=
  match s.dropWhile isSpace with
  | [] => ({ declaration with forceQuirks := true }, [])
  | '>' :: rest => (declaration, rest)
  | c :: rest =>
    match dropPrefixIgnoringCase? "public".toList (c :: rest) with
    | some rest' => publicPart declaration rest'
    | none =>
      match dropPrefixIgnoringCase? "system".toList (c :: rest) with
      | some rest' => systemPart true declaration rest'
      | none => ({ declaration with forceQuirks := true }, skipDeclaration rest)

/-- A document type declaration, read from what follows the word `doctype`. -/
def declaration (s : List Char) : DocumentType × List Char :=
  match s.dropWhile isSpace with
  | [] => (⟨none, none, none, true⟩, [])
  | '>' :: rest => (⟨none, none, none, true⟩, rest)
  | c :: rest =>
    let name := (c :: rest).takeWhile fun c => !isSpace c && c != '>'
    identifiers ⟨some (String.ofList (replaceNul (lower name))), none, none, false⟩
      ((c :: rest).dropWhile fun c => !isSpace c && c != '>')

theorem length_dropWhile_le_of_eq {p : Char → Bool} {s rest : List Char}
    (h : s.dropWhile p = rest) : rest.length ≤ s.length :=
  h ▸ (List.dropWhile_suffix p).length_le

theorem length_skipDeclaration_le (s : List Char) : (skipDeclaration s).length ≤ s.length := by
  have := length_dropWhile_le_of_eq (s := s) (p := (· != '>')) rfl
  simp only [skipDeclaration, List.length_drop]
  omega

theorem length_quotedId_le (quote : Char) (s : List Char) :
    (quotedId quote s).rest.length ≤ s.length := by
  have := length_dropWhile_le_of_eq (s := s) (p := fun c => c != quote && c != '>') rfl
  simp only [quotedId, List.length_drop]
  omega

theorem length_declarationEnd_le (declaration : DocumentType) (s : List Char) :
    (declarationEnd declaration s).2.length ≤ s.length := by
  unfold declarationEnd
  split
  · simp
  · rename_i rest h
    have := length_dropWhile_le_of_eq h
    simp only [List.length_cons] at this
    simp only
    omega
  · have := length_dropWhile_le_of_eq (s := s) (p := isSpace) rfl
    have := length_skipDeclaration_le (s.dropWhile isSpace)
    simp only
    omega

theorem length_systemPart_le (required : Bool) (declaration : DocumentType) (s : List Char) :
    (systemPart required declaration s).2.length ≤ s.length := by
  unfold systemPart
  split
  · simp
  · rename_i c rest h
    have h1 := length_dropWhile_le_of_eq h
    simp only [List.length_cons] at h1
    have h2 := length_quotedId_le c rest
    have h3 := length_skipDeclaration_le rest
    split
    · simp only
      split
      · have h4 := length_declarationEnd_le
          { declaration with systemId := some (quotedId c rest).value } (quotedId c rest).rest
        omega
      · simp only
        omega
    · split <;> simp only <;> omega

theorem length_publicPart_le (declaration : DocumentType) (s : List Char) :
    (publicPart declaration s).2.length ≤ s.length := by
  unfold publicPart
  split
  · simp
  · rename_i c rest h
    have h1 := length_dropWhile_le_of_eq h
    simp only [List.length_cons] at h1
    have h2 := length_quotedId_le c rest
    have h3 := length_skipDeclaration_le rest
    split
    · simp only
      split
      · have h4 := length_systemPart_le false
          { declaration with publicId := some (quotedId c rest).value } (quotedId c rest).rest
        omega
      · simp only
        omega
    · split <;> simp only <;> omega

theorem length_identifiers_le (declaration : DocumentType) (s : List Char) :
    (identifiers declaration s).2.length ≤ s.length := by
  unfold identifiers
  split
  · simp
  · rename_i rest h
    have := length_dropWhile_le_of_eq h
    simp only [List.length_cons] at this
    simp only
    omega
  · rename_i c rest _ h
    have h1 := length_dropWhile_le_of_eq h
    simp only [List.length_cons] at h1
    split
    · rename_i rest' hp
      have h2 := length_dropPrefixIgnoringCase?_le hp
      have h3 := length_publicPart_le declaration rest'
      simp only [List.length_cons] at h2
      omega
    · split
      · rename_i rest' hp
        have h2 := length_dropPrefixIgnoringCase?_le hp
        have h3 := length_systemPart_le true declaration rest'
        simp only [List.length_cons] at h2
        omega
      · have := length_skipDeclaration_le rest
        simp only
        omega

/-- What follows a declaration is no longer than what follows its keyword. -/
theorem length_declaration_le (s : List Char) : (declaration s).2.length ≤ s.length := by
  unfold declaration
  split
  · simp
  · rename_i rest h
    have := length_dropWhile_le_of_eq h
    simp only [List.length_cons] at this
    simp only
    omega
  · rename_i c rest _ h
    have h1 := length_dropWhile_le_of_eq h
    have h2 := length_dropWhile_le_of_eq (s := c :: rest)
      (p := fun c => !isSpace c && c != '>') rfl
    simp only
    exact Nat.le_trans (length_identifiers_le _ _) (Nat.le_trans h2 h1)

end MarkupModule.Markup.Lexer
