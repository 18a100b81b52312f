/-! Classes and comparisons of ASCII text. `Char.isAlpha`, `Char.isDigit` and `Char.toLower` of the
core library are ASCII only, which is the alphabet that markup names are written in; this module adds
the five whitespace characters of markup and the comparison of two texts up to ASCII case. -/

namespace MarkupModule.Text

/-- The whitespace of markup: space, tab, line feed, form feed and carriage return. -/
def isSpace (c : Char) : Bool :=
  c == ' ' || c == '\t' || c == '\n' || c == '\x0c' || c == '\r'

/-- Every ASCII letter in lower case, all other characters kept. -/
def lower (s : List Char) : List Char :=
  s.map Char.toLower

def lowerName (s : String) : String :=
  String.ofList (lower s.toList)

/-- Two names that differ at most in the case of ASCII letters. -/
def sameIgnoringCase (s t : String) : Bool :=
  lower s.toList == lower t.toList

def isBeyondAscii (c : Char) : Bool :=
  128 ≤ c.toNat

/-- One of the hexadecimal digits, in either case. -/
def isHexDigit (c : Char) : Bool :=
  c.isDigit || ('a' ≤ c && c ≤ 'f') || ('A' ≤ c && c ≤ 'F')

/-- The value of a hexadecimal digit, and zero for any other character. -/
def hexValue (c : Char) : Nat :=
  if c.isDigit then c.toNat - '0'.toNat
  else if 'a' ≤ c && c ≤ 'f' then c.toNat - 'a'.toNat + 10
  else if 'A' ≤ c && c ≤ 'F' then c.toNat - 'A'.toNat + 10
  else 0

/-- The number that a list of digits denotes in a base, most significant digit first. -/
def numeral (base : Nat) (digits : List Char) : Nat :=
  digits.foldl (fun n c => n * base + hexValue c) 0

end MarkupModule.Text
