import MarkupModule.Decimal.Shortest
import MarkupModule.Json.Cursor

/-! Numbers. The options have none, so that a number is read only to say what was found: an integer of
64 bits, or a number with a fraction, an exponent or too many digits, which is written with the fewest
digits that tell it apart. A number that is skipped is checked for its form alone. -/

namespace MarkupModule.Json

/-- A number that was read. -/
inductive Number where
  | unsigned (n : Nat)
  | negative (n : Nat)
  | real (isNegative : Bool) (magnitude : Float)

/-- How numbers with a point are written: up to which place of the point in front of the digits zeros
are filled in, and up to which place behind them; otherwise there is an exponent with its sign. -/
structure RealFormat where
  zerosInFront : Int
  lastPlace : Int
  plusSign : Bool

/-- Numbers between a hundred thousandth and ten to the sixteenth are written without an exponent, and
an exponent has a sign in any case. -/
def realFormat : RealFormat := ⟨-5, 16, true⟩

/-- The text of a decimal in a format. `place` is the place of the point counted from the first digit. -/
def RealFormat.write (format : RealFormat) (d : Decimal.Scaled) : String :=
  let digits := (toString d.digits).toList
  let count : Int := digits.length
  let place := count + d.exponent
  let zeros := fun n : Int => List.replicate n.toNat '0'
  if 0 ≤ d.exponent && place ≤ format.lastPlace then
    String.ofList (digits ++ zeros d.exponent ++ ".0".toList)
  else if 0 < place && place ≤ format.lastPlace then
    String.ofList (digits.take place.toNat ++ '.' :: digits.drop place.toNat)
  else if format.zerosInFront < place && place ≤ 0 then
    String.ofList ("0.".toList ++ zeros (-place) ++ digits)
  else
    let exponent := place - 1
    let sign := if exponent < 0 then "-" else if format.plusSign then "+" else ""
    String.ofList (digits.take 1) ++
      (if digits.length = 1 then "" else "." ++ String.ofList (digits.drop 1)) ++
      "e" ++ sign ++ toString exponent.natAbs

/-- A finite number that is not negative, in words. -/
def magnitudeText (x : Float) : String :=
  let bits := x.toBits.toNat
  if bits = 0 then "0.0" else realFormat.write (Decimal.shortest64 bits)

def Number.found : Number → String
  | unsigned n => "integer \x60" ++ toString n ++ "\x60"
  | negative n => "integer \x60-" ++ toString n ++ "\x60"
  | real isNegative magnitude =>
    "floating point \x60" ++ (if isNegative then "-" else "") ++ magnitudeText magnitude ++ "\x60"

def digitValue (c : Char) : Nat := c.toNat - '0'.toNat

/-- The greatest integer that is kept exactly. -/
def greatest : Nat := 18446744073709551615

/-- Digits gathered into a number that stays below a bound: the number, how many digits went into it, and
the cursor in front of the first digit that did not fit or of what follows the digits. -/
def gather : Nat → Nat → Cursor → Nat × Nat × Cursor
  | n, count, ⟨[], line, column⟩ => (n, count, ⟨[], line, column⟩)
  | n, count, ⟨c :: rest, line, column⟩ =>
    if c.isDigit && n * 10 + digitValue c ≤ greatest then
      gather (n * 10 + digitValue c) (count + 1) ⟨rest, line, column + 1⟩
    else (n, count, ⟨c :: rest, line, column⟩)
termination_by _ _ cursor => cursor.rest.length

/-- The cursor behind digits, and their number. -/
def skipDigits (cursor : Cursor) : Nat × Cursor :=
  let digits := cursor.rest.takeWhile Char.isDigit
  (digits.length, ⟨cursor.rest.dropWhile Char.isDigit, cursor.line, cursor.column + digits.length⟩)

def powerOfTen (n : Nat) : Float := Float.ofScientific 1 false n

/-- An integer times ten to an exponent, in steps of at most the greatest power of ten. -/
def scale : Nat → Float → Int → Option Float
  | 0, _, _ => none
  | steps + 1, f, exponent =>
    if exponent.natAbs ≤ 308 then
      if 0 ≤ exponent then
        let product := f * powerOfTen exponent.natAbs
        if product.isInf then none else some product
      else some (f / powerOfTen exponent.natAbs)
    else if f == 0.0 then some f
    else if 0 ≤ exponent then none
    else scale steps (f / powerOfTen 308) (exponent + 308)

def realOf (isNegative : Bool) (significand : Nat) (exponent : Int) (cursor : Cursor) :
    Except Problem (Number × Cursor) :=
  match scale (exponent.natAbs / 308 + 2) (Float.ofNat significand) exponent with
  | some magnitude => .ok (.real isNegative magnitude, cursor)
  | none => cursor.fail .numberOutOfRange

/-- The exponent of a number, read from its letter on. -/
def exponentPart (isNegative : Bool) (significand : Nat) (exponent : Int) (cursor : Cursor) :
    Except Problem (Number × Cursor) :=
  let behind := cursor.advance
  let (isDown, signed) :=
    match behind.peek? with
    | some '+' => (false, behind.advance)
    | some '-' => (true, behind.advance)
    | _ => (false, behind)
  match signed.peek? with
  | none => signed.fail .endInValue
  | some c =>
    if !c.isDigit then signed.failAtNext .invalidNumber
    else
      let value := (signed.rest.takeWhile Char.isDigit).foldl (fun n d => n * 10 + digitValue d) 0
      let (_, next) := skipDigits signed
      if value ≤ 2147483647 then
        realOf isNegative significand (if isDown then exponent - value else exponent + value) next
      else if significand ≠ 0 && !isDown then next.fail .numberOutOfRange
      else .ok (.real isNegative 0.0, next)

/-- What may follow the digits of a fraction. -/
def afterFraction (isNegative : Bool) (significand : Nat) (exponent : Int) (cursor : Cursor) :
    Except Problem (Number × Cursor) :=
  match cursor.peek? with
  | some 'e' => exponentPart isNegative significand exponent cursor
  | some 'E' => exponentPart isNegative significand exponent cursor
  | _ => realOf isNegative significand exponent cursor

/-- The fraction of a number, read from its point on. -/
def fractionPart (isNegative : Bool) (significand : Nat) (exponent : Int) (cursor : Cursor) :
    Except Problem (Number × Cursor) :=
  let (n, count, next) := gather significand 0 cursor.advance
  match next.peek? with
  | some c =>
    if c.isDigit then afterFraction isNegative n (exponent - count) (skipDigits next).2
    else if count = 0 then next.failAtNext .invalidNumber
    else afterFraction isNegative n (exponent - count) next
  | none =>
    if count = 0 then next.fail .endInValue
    else afterFraction isNegative n (exponent - count) next

def afterInteger (isNegative : Bool) (significand : Nat) (cursor : Cursor) : Except Problem (Number × Cursor) :=
  match cursor.peek? with
  | some '.' => fractionPart isNegative significand 0 cursor
  | some 'e' => exponentPart isNegative significand 0 cursor
  | some 'E' => exponentPart isNegative significand 0 cursor
  | _ =>
    if !isNegative then .ok (.unsigned significand, cursor)
    else if 0 < significand && significand ≤ 9223372036854775808 then .ok (.negative significand, cursor)
    else .ok (.real true (Float.ofNat significand), cursor)

/-- A number with more digits than are kept: the others only count. -/
def longInteger (isNegative : Bool) (significand : Nat) (cursor : Cursor) : Except Problem (Number × Cursor) :=
  let (count, next) := skipDigits cursor
  match next.peek? with
  | some '.' => fractionPart isNegative significand count next
  | _ => afterFraction isNegative significand count next

def number (isNegative : Bool) (cursor : Cursor) : Except Problem (Number × Cursor) :=
  match cursor.peek? with
  | none => cursor.fail .endInValue
  | some c =>
    if c = '0' then
      let next := cursor.advance
      match next.peek? with
      | some d => if d.isDigit then next.failAtNext .invalidNumber else afterInteger isNegative 0 next
      | none => afterInteger isNegative 0 next
    else if c.isDigit then
      let (n, _, next) := gather 0 0 cursor
      match next.peek? with
      | some d => if d.isDigit then longInteger isNegative n next else afterInteger isNegative n next
      | none => afterInteger isNegative n next
    else cursor.failAtNext .invalidNumber

/-- The cursor behind an exponent that is skipped, read from its letter on. -/
def skipExponent (cursor : Cursor) : Except Problem Cursor :=
  let behind := cursor.advance
  let signed :=
    match behind.peek? with
    | some '+' => behind.advance
    | some '-' => behind.advance
    | _ => behind
  if signed.peek?.any Char.isDigit then .ok (skipDigits signed).2
  else signed.failAtNext .invalidNumber

/-- The cursor behind what may follow an integer part or a fraction that is skipped. -/
def skipTail (mayHaveFraction : Bool) (cursor : Cursor) : Except Problem Cursor :=
  match cursor.peek? with
  | some 'e' => skipExponent cursor
  | some 'E' => skipExponent cursor
  | some '.' =>
    if mayHaveFraction then
      let (count, next) := skipDigits cursor.advance
      if count = 0 then next.failAtNext .invalidNumber
      else
        match next.peek? with
        | some 'e' => skipExponent next
        | some 'E' => skipExponent next
        | _ => .ok next
    else .ok cursor
  | _ => .ok cursor

/-- The cursor behind a number that is skipped, read from behind its sign. -/
def skipNumber (cursor : Cursor) : Except Problem Cursor :=
  match cursor.peek? with
  | none => cursor.fail .invalidNumber
  | some c =>
    if c = '0' then
      let next := cursor.advance
      if next.peek?.any Char.isDigit then next.failAtNext .invalidNumber else skipTail true next
    else if c.isDigit then skipTail true (skipDigits cursor).2
    else cursor.failAtNext .invalidNumber

end MarkupModule.Json
