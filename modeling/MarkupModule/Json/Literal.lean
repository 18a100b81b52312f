import MarkupModule.Json.Cursor
import MarkupModule.Text.Ascii

/-! String literals. A literal that is only skipped is checked less strictly than one that is read: its
escapes may name lone surrogates. -/

namespace MarkupModule.Json

open MarkupModule.Text

/-- The character that an escape letter stands for. -/
def escapeLetter? : Char → Option Char
  | '"' => some '"'
  | '\\' => some '\\'
  | '/' => some '/'
  | 'b' => some '\x08'
  | 'f' => some '\x0c'
  | 'n' => some '\n'
  | 'r' => some '\r'
  | 't' => some '\t'
  | _ => none

def byteLength (s : List Char) : Nat :=
  s.foldl (fun n c => n + c.utf8Size) 0

/-- The four hexadecimal digits of an escape. Four bytes are looked at together: a text with fewer left
ends too early, and any that is no digit is found behind the fourth. -/
def fourDigits (cursor : Cursor) : Except Problem (Nat × Cursor) :=
  match cursor.rest with
  | a :: b :: c :: d :: rest =>
    if isHexDigit a && isHexDigit b && isHexDigit c && isHexDigit d then
      .ok (numeral 16 [a, b, c, d], ⟨rest, cursor.line, cursor.column + 4⟩)
    else short cursor
  | _ => short cursor
where
  /-- The report for digits that are missing or wrong. -/
  short (cursor : Cursor) : Except Problem (Nat × Cursor) :=
    if byteLength cursor.rest < 4 then
      (cursor.rest.foldl (fun c _ => c.advance) cursor).fail .endInString
    else
      let bytes := (cursor.rest.take 4).flatMap fun c => c :: List.replicate (c.utf8Size - 1) ' '
      let four := bytes.take 4
      let breaks := four.count '\n'
      if breaks = 0 then .error ⟨.invalidEscape, cursor.line, cursor.column + 4⟩
      else
        .error ⟨.invalidEscape, cursor.line + breaks,
          (four.reverse.takeWhile (· != '\n')).length⟩

def lowSurrogate (high : Nat) (cursor : Cursor) : Except Problem (Char × Cursor) :=
  match cursor.rest with
  | [] => cursor.fail .endInString
  | '\\' :: rest =>
    let behind := cursor.skip '\\' rest
    match rest with
    | [] => behind.fail .endInString
    | 'u' :: rest' => do
      let (low, next) ← fourDigits (behind.skip 'u' rest')
      if 0xDC00 ≤ low && low < 0xE000 then
        .ok (Char.ofNat (0x10000 + (high - 0xD800) * 1024 + (low - 0xDC00)), next)
      else next.fail .loneSurrogate
    | _ :: _ => behind.failAtNext .endOfSurrogates
  | _ :: _ => cursor.failAtNext .endOfSurrogates

/-- The character that an escape denotes, read from what follows the backslash. -/
def escaped (cursor : Cursor) : Except Problem (Char × Cursor) :=
  match cursor.rest with
  | [] => cursor.fail .endInString
  | 'u' :: rest => do
    let (n, next) ← fourDigits (cursor.skip 'u' rest)
    if 0xDC00 ≤ n && n < 0xE000 then next.fail .loneSurrogate
    else if 0xD800 ≤ n && n < 0xDC00 then lowSurrogate n next
    else .ok (Char.ofNat n, next)
  | c :: rest =>
    match escapeLetter? c with
    | some d => .ok (d, cursor.skip c rest)
    | none => (cursor.failAtNext .invalidEscape)

def skipEscape (cursor : Cursor) : Except Problem Cursor :=
  match cursor.rest with
  | [] => cursor.fail .endInString
  | 'u' :: rest => (fourDigits (cursor.skip 'u' rest)).map (·.2)
  | c :: rest =>
    match escapeLetter? c with
    | some _ => .ok (cursor.skip c rest)
    | none => (cursor.failAtNext .invalidEscape)

/-- The text of a literal, read from what follows its opening quote, with a bound on its length. -/
def literalWithin : Nat → Cursor → List Char → Except Problem (String × Cursor)
  | 0, cursor, _ => cursor.fail .endInString
  | n + 1, cursor, read =>
    match cursor.rest with
    | [] => cursor.fail .endInString
    | '"' :: rest => .ok (String.ofList read.reverse, cursor.skip '"' rest)
    | '\\' :: rest => do
      let (c, next) ← escaped (cursor.skip '\\' rest)
      literalWithin n next (c :: read)
    | c :: rest =>
      if c.toNat < 0x20 then (cursor.skip c rest).fail .controlCharacter
      else literalWithin n (cursor.skip c rest) (c :: read)

/-- The text of a literal, read from what follows its opening quote. -/
def literal (cursor : Cursor) : Except Problem (String × Cursor) :=
  literalWithin (cursor.rest.length + 1) cursor []

/-- The cursor behind a literal that is skipped, with a bound on its length. -/
def skipLiteralWithin : Nat → Cursor → Except Problem Cursor
  | 0, cursor => cursor.fail .endInString
  | n + 1, cursor =>
    match cursor.rest with
    | [] => cursor.fail .endInString
    | '"' :: rest => .ok (cursor.skip '"' rest)
    | '\\' :: rest => do
      let next ← skipEscape (cursor.skip '\\' rest)
      skipLiteralWithin n next
    | c :: rest =>
      if c.toNat < 0x20 then cursor.fail .controlCharacter
      else skipLiteralWithin n (cursor.skip c rest)

/-- The cursor behind a literal that is skipped. -/
def skipLiteral (cursor : Cursor) : Except Problem Cursor :=
  skipLiteralWithin (cursor.rest.length + 1) cursor

end MarkupModule.Json
