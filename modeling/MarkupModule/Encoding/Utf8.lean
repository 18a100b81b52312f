/-! UTF-8. A character takes one to four bytes; decoding accepts exactly the shortest encodings of
characters, so that no surrogate and no number beyond Unicode is read. -/

namespace MarkupModule.Encoding.Utf8

/-- A byte that continues a character, with the low six bits of a number. -/
def continuation (n : Nat) : UInt8 :=
  UInt8.ofNat (0x80 + n % 64)

def encodeChar (c : Char) : List UInt8 :=
  let n := c.toNat
  if n < 0x80 then [UInt8.ofNat n]
  else if n < 0x800 then [UInt8.ofNat (0xC0 + n / 64), continuation n]
  else if n < 0x10000 then [UInt8.ofNat (0xE0 + n / 4096), continuation (n / 64), continuation n]
  else
    [UInt8.ofNat (0xF0 + n / 262144), continuation (n / 4096), continuation (n / 64),
      continuation n]

def encode (s : List Char) : List UInt8 :=
  s.flatMap encodeChar

/-- The bits that a continuation byte carries. -/
def continuationBits (b : UInt8) : Option Nat :=
  if 0x80 ≤ b.toNat && b.toNat < 0xC0 then some (b.toNat - 0x80) else none

/-- The character of a number that must be at least `least`. -/
def checked (least n : Nat) : Option Char :=
  if h : least ≤ n ∧ n.isValidChar then some (Char.ofNatAux n h.2) else none

/-- The text that the bytes encode, if they encode one. -/
def decode? : List UInt8 → Option (List Char)
  | [] => some []
  | b :: rest =>
    let n := b.toNat
    if n < 0x80 then do
      let c ← checked 0 n
      (decode? rest).map (c :: ·)
    else
      match rest with
      | [] => none
      | b1 :: rest1 =>
        if 0xC0 ≤ n && n < 0xE0 then do
          let x1 ← continuationBits b1
          let c ← checked 0x80 ((n - 0xC0) * 64 + x1)
          (decode? rest1).map (c :: ·)
        else
          match rest1 with
          | [] => none
          | b2 :: rest2 =>
            if 0xE0 ≤ n && n < 0xF0 then do
              let x1 ← continuationBits b1
              let x2 ← continuationBits b2
              let c ← checked 0x800 ((n - 0xE0) * 4096 + x1 * 64 + x2)
              (decode? rest2).map (c :: ·)
            else
              match rest2 with
              | [] => none
              | b3 :: rest3 =>
                if 0xF0 ≤ n && n < 0xF8 then do
                  let x1 ← continuationBits b1
                  let x2 ← continuationBits b2
                  let x3 ← continuationBits b3
                  let c ← checked 0x10000 ((n - 0xF0) * 262144 + x1 * 4096 + x2 * 64 + x3)
                  (decode? rest3).map (c :: ·)
                else none

end MarkupModule.Encoding.Utf8
