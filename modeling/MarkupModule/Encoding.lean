import MarkupModule.Encoding.Utf16
import MarkupModule.Encoding.Utf8
import MarkupModule.Failure

/-! Source files as bytes. A byte order mark at the start tells the encoding and is no part of the text;
without one a file is UTF-8. -/

namespace MarkupModule

/-- The encodings of source files. -/
inductive Encoding where
  | utf8
  | utf16 (order : Encoding.Utf16.ByteOrder)
  deriving DecidableEq, Repr, Inhabited

namespace Encoding

def name : Encoding → String
  | utf8 => "UTF-8"
  | utf16 .little => "UTF-16LE"
  | utf16 .big => "UTF-16BE"

def mark : Encoding → List UInt8
  | utf8 => [0xEF, 0xBB, 0xBF]
  | utf16 .little => [0xFF, 0xFE]
  | utf16 .big => [0xFE, 0xFF]

/-- The bytes of a text in an encoding, without a byte order mark. -/
def encode : Encoding → List Char → List UInt8
  | utf8 => Utf8.encode
  | utf16 order => Utf16.encode order

/-- The text that bytes encode, if they encode one. -/
def decode? : Encoding → List UInt8 → Option (List Char)
  | utf8 => Utf8.decode?
  | utf16 order => Utf16.decode? order

/-- The encoding of a file and its bytes behind the byte order mark. -/
def detect : List UInt8 → Encoding × List UInt8
  | 0xEF :: 0xBB :: 0xBF :: rest => (utf8, rest)
  | 0xFF :: 0xFE :: rest => (utf16 .little, rest)
  | 0xFE :: 0xFF :: rest => (utf16 .big, rest)
  | bytes => (utf8, bytes)

end Encoding

def decodeSource (bytes : List UInt8) : Except Failure String :=
  let (encoding, rest) := Encoding.detect bytes
  match encoding.decode? rest with
  | some s => .ok (String.ofList s)
  | none => .error ⟨.parse, "", "decode source", some ("input is not valid " ++ encoding.name)⟩

end MarkupModule
