/-! Unicode white space, and texts that consist of it. A text is *blank* when nothing is left of it
once the white space on both sides is trimmed. -/

namespace MarkupModule.Text

/-- The characters with the Unicode property `White_Space`. -/
def isBlankChar (c : Char) : Bool :=
  let n := c.toNat
  (9 ≤ n && n ≤ 13) || n == 0x20 || n == 0x85 || n == 0xA0 || n == 0x1680 ||
    (0x2000 ≤ n && n ≤ 0x200A) || n == 0x2028 || n == 0x2029 || n == 0x202F ||
    n == 0x205F || n == 0x3000

/-- The text without the white space at its start. -/
def trimStart (s : List Char) : List Char :=
  s.dropWhile isBlankChar

/-- The text without the white space at its end. -/
def trimEnd (s : List Char) : List Char :=
  (s.reverse.dropWhile isBlankChar).reverse

/-- The text without the white space on both sides. -/
def trim (s : List Char) : List Char :=
  trimEnd (trimStart s)

/-- A text of white space only; the empty text is blank. -/
def isBlank (s : List Char) : Bool :=
  s.all isBlankChar

end MarkupModule.Text
