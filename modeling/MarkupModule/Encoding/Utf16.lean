/-! UTF-16 in either byte order. A character is one unit or a pair of surrogates; a surrogate without
its partner and an odd byte at the end encode nothing. -/

namespace MarkupModule.Encoding.Utf16

/-- The order of the two bytes of a unit. -/
inductive ByteOrder where
  | little
  | big
  deriving DecidableEq, Repr, Inhabited

def unitsOf (c : Char) : List Nat :=
  let n := c.toNat
  if n < 0x10000 then [n]
  else [0xD800 + (n - 0x10000) / 1024, 0xDC00 + (n - 0x10000) % 1024]

def unitBytes (order : ByteOrder) (unit : Nat) : List UInt8 :=
  match order with
  | .little => [UInt8.ofNat (unit % 256), UInt8.ofNat (unit / 256)]
  | .big => [UInt8.ofNat (unit / 256), UInt8.ofNat (unit % 256)]

def encode (order : ByteOrder) (s : List Char) : List UInt8 :=
  (s.flatMap unitsOf).flatMap (unitBytes order)

/-- The units that the bytes form, if their number is even. -/
def units? (order : ByteOrder) : List UInt8 → Option (List Nat)
  | [] => some []
  | [_] => none
  | a :: b :: rest =>
    let unit :=
      match order with
      | .little => b.toNat * 256 + a.toNat
      | .big => a.toNat * 256 + b.toNat
    (units? order rest).map (unit :: ·)

/-- The text that the units encode, if they encode one. -/
def ofUnits? : List Nat → Option (List Char)
  | [] => some []
  | u :: rest =>
    if h : u.isValidChar then (ofUnits? rest).map (Char.ofNatAux u h :: ·)
    else if 0xD800 ≤ u && u < 0xDC00 then
      match rest with
      | [] => none
      | v :: rest' =>
        if 0xDC00 ≤ v && v < 0xE000 then
          (ofUnits? rest').map (Char.ofNat (0x10000 + (u - 0xD800) * 1024 + (v - 0xDC00)) :: ·)
        else none
    else none

/-- The text that the bytes encode, if they encode one. -/
def decode? (order : ByteOrder) (bytes : List UInt8) : Option (List Char) :=
  (units? order bytes).bind ofUnits?

end MarkupModule.Encoding.Utf16
