import MarkupModule.Text.Ascii

/-! How names, texts and addresses are spelled in style sheets, so that they are read back as they
are. -/

namespace MarkupModule.Style.Spelling

open MarkupModule.Text

def numbered (c : Char) : List Char :=
  '\\' :: Nat.toDigits 16 c.toNat ++ [' ']

/-- A character of control, which no text holds as it is. -/
def isControl (c : Char) : Bool :=
  c < ' ' || c == '\x7f'

def nameChar (c : Char) : List Char :=
  if c.isAlphanum || c == '_' || c == '-' || isBeyondAscii c then [c]
  else if c = '\x00' then ['\uFFFD']
  else if isControl c then numbered c
  else ['\\', c]

def name (s : List Char) : List Char :=
  s.flatMap nameChar

/-- The start of a name, where a digit would be read as a number. -/
def nameStart : List Char → List Char
  | [] => []
  | c :: cs => if c.isDigit then numbered c ++ name cs else name (c :: cs)

/-- A name that is read back as one identifier. -/
def identifier : List Char → List Char
  | '-' :: '-' :: rest => '-' :: '-' :: name rest
  | ['-'] => ['\\', '-']
  | '-' :: rest => '-' :: nameStart rest
  | s => nameStart s

/-- A character of a text between double quotes. -/
def quotedChar (c : Char) : List Char :=
  if c = '"' then ['\\', '"']
  else if c = '\\' then ['\\', '\\']
  else if c = '\x00' then ['\uFFFD']
  else if isControl c then numbered c
  else [c]

def quoted (s : List Char) : List Char :=
  '"' :: s.flatMap quotedChar ++ ['"']

/-- A character of an address without quotes. -/
def addressChar (c : Char) : List Char :=
  if c ≤ ' ' || c = '\x7f' then numbered c
  else if c = '(' || c = ')' || c = '"' || c = '\'' || c = '\\' then ['\\', c]
  else [c]

def size (s : List Char) : Nat :=
  (String.ofList s).utf8ByteSize

/-- An address in the shorter of its two spellings, without quotes when they are equally long. -/
def address (s : List Char) : List Char :=
  let bare := "url(".toList ++ s.flatMap addressChar ++ [')']
  let inQuotes := "url(".toList ++ quoted s ++ [')']
  if size inQuotes < size bare then inQuotes else bare

/-- A text as a name when that is shorter than quotes around it. -/
def nameOrQuoted (s : List Char) : List Char :=
  let bare := identifier s
  let inQuotes := quoted s
  if !bare.isEmpty && size bare < size inQuotes then bare else inQuotes

end MarkupModule.Style.Spelling
