/-! Reading JSON text character by character. Positions are given as line, from one, and column, the number
of bytes on the line up to there. A mistake is reported where it is noticed, which for some is in front of
the character in question and for others behind it. -/

namespace MarkupModule.Json

/-- What is left of a text, and how far it is read. -/
structure Cursor where
  rest : List Char
  line : Nat
  column : Nat
  deriving DecidableEq, Repr, Inhabited

namespace Cursor

def ofString (s : String) : Cursor := ⟨s.toList, 1, 0⟩

def skip (cursor : Cursor) (c : Char) (rest : List Char) : Cursor :=
  if c = '\n' then ⟨rest, cursor.line + 1, 0⟩
  else ⟨rest, cursor.line, cursor.column + c.utf8Size⟩

/-- The cursor behind the next character, or where it is at the end of the text. -/
def advance (cursor : Cursor) : Cursor :=
  match cursor.rest with
  | [] => cursor
  | c :: rest => cursor.skip c rest

/-- Whether a character is white space between tokens. -/
def isSpace (c : Char) : Bool :=
  c == ' ' || c == '\n' || c == '\t' || c == '\r'

def skipSpace (cursor : Cursor) : Cursor :=
  go cursor.line cursor.column cursor.rest
where
  /-- Behind white space, given a position and the text there. -/
  go (line column : Nat) : List Char → Cursor
    | [] => ⟨[], line, column⟩
    | c :: rest =>
      if isSpace c then if c = '\n' then go (line + 1) 0 rest else go line (column + 1) rest
      else ⟨c :: rest, line, column⟩

def peek? (cursor : Cursor) : Option Char := cursor.rest.head?

end Cursor

/-- What is wrong with a text that should be the expected JSON. -/
inductive Mistake where
  | expectedValue
  | expectedWord
  | endInValue
  | endInObject
  | endInList
  | endInString
  | keyNoString
  | expectedColon
  | expectedObjectCommaOrEnd
  | expectedListCommaOrEnd
  | trailingComma
  | trailingCharacters
  | invalidNumber
  | numberOutOfRange
  | invalidEscape
  | loneSurrogate
  | endOfSurrogates
  | controlCharacter
  | duplicateField (name : String)
  | invalidType (found expected : String)
  deriving DecidableEq, Repr

def Mistake.message : Mistake → String
  | expectedValue => "expected value"
  | expectedWord => "expected ident"
  | endInValue => "EOF while parsing a value"
  | endInObject => "EOF while parsing an object"
  | endInList => "EOF while parsing a list"
  | endInString => "EOF while parsing a string"
  | keyNoString => "key must be a string"
  | expectedColon => "expected \x60:\x60"
  | expectedObjectCommaOrEnd => "expected \x60,\x60 or \x60\x7d\x60"
  | expectedListCommaOrEnd => "expected \x60,\x60 or \x60]\x60"
  | trailingComma => "trailing comma"
  | trailingCharacters => "trailing characters"
  | invalidNumber => "invalid number"
  | numberOutOfRange => "number out of range"
  | invalidEscape => "invalid escape"
  | loneSurrogate => "lone leading surrogate in hex escape"
  | endOfSurrogates => "unexpected end of hex escape"
  | controlCharacter => "control character (\\u0000-\\u001F) found while parsing a string"
  | duplicateField name => "duplicate field \x60" ++ name ++ "\x60"
  | invalidType found expected => "invalid type: " ++ found ++ ", expected " ++ expected

/-- A mistake and where it was noticed. -/
structure Problem where
  mistake : Mistake
  line : Nat
  column : Nat
  deriving DecidableEq, Repr

def Problem.message (problem : Problem) : String :=
  problem.mistake.message ++ " at line " ++ toString problem.line ++ " column " ++
    toString problem.column

namespace Cursor

/-- Reports a mistake at the position of the cursor. -/
def fail {α : Type} (cursor : Cursor) (mistake : Mistake) : Except Problem α :=
  .error ⟨mistake, cursor.line, cursor.column⟩

/-- Reports a mistake behind the first byte of the next character, if there is one. -/
def failAtNext {α : Type} (cursor : Cursor) (mistake : Mistake) : Except Problem α :=
  match cursor.rest with
  | [] => cursor.fail mistake
  | '\n' :: _ => .error ⟨mistake, cursor.line + 1, 0⟩
  | _ :: _ => .error ⟨mistake, cursor.line, cursor.column + 1⟩

end Cursor

end MarkupModule.Json
