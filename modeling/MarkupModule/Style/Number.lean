import MarkupModule.Decimal.Power

/-! Decimal numbers as style sheets write them. A number is kept exactly, as an integer over a power of
ten in lowest terms; it is written with six significant digits, without a zero before the point and
without zeros at the end. -/

namespace MarkupModule.Style

open MarkupModule.Decimal

/-- The number `± digits / 10 ^ places`. -/
structure Number where
  negative : Bool
  digits : Nat
  places : Nat
  deriving DecidableEq, Repr, Inhabited

namespace Number

/-- A fraction over a power of ten without zeros at its end. -/
def lowest (digits : Nat) : Nat → Nat × Nat
  | 0 => (digits, 0)
  | places + 1 => if digits % 10 = 0 then lowest (digits / 10) places else (digits, places + 1)

def of (negative : Bool) (digits places : Nat) : Number :=
  let fraction := lowest digits places
  ⟨negative, fraction.1, fraction.2⟩

def ofNat (n : Nat) : Number := ⟨false, n, 0⟩

/-- How many decimal digits a natural number has. -/
def width (n : Nat) : Nat := (Nat.toDigits 10 n).length

/-- The largest number in the range of single precision, which larger ones are replaced by. -/
def greatest (negative : Bool) : Number :=
  of negative (340282350 * tenTo 30) 0

/-- The number `± digits / 10 ^ places * 10 ^ exponent`, held within the range of single precision. -/
def scaled (negative : Bool) (digits places : Nat) (exponent : Int) : Number :=
  let magnitude : Int := (width digits : Int) - places + exponent
  if digits = 0 || magnitude < -44 then ⟨negative, 0, 0⟩
  else if 39 < magnitude then greatest negative
  else
    let shift := exponent - places
    if 0 ≤ shift then of negative (digits * tenTo shift.toNat) 0
    else of negative digits (-shift).toNat

/-- Whether a number is zero, of either sign. -/
def isZero (n : Number) : Bool := n.digits == 0

def isBelowZero (n : Number) : Bool := n.negative && n.digits != 0

def opposite (n : Number) : Number := { n with negative := !n.negative }

/-- The numerator of a number over `10 ^ places`, for at least as many places as it has. -/
def numerator (n : Number) (places : Nat) : Int :=
  let m : Int := (n.digits * tenTo (places - n.places) : Nat)
  if n.negative then -m else m

/-- The number with a numerator over `10 ^ places`. -/
def ofNumerator (m : Int) (places : Nat) : Number :=
  of (m < 0) m.natAbs places

def add (a b : Number) : Number :=
  let places := max a.places b.places
  ofNumerator (a.numerator places + b.numerator places) places

def mul (a b : Number) : Number :=
  of (a.negative != b.negative) (a.digits * b.digits) (a.places + b.places)

/-- The quotient by a number other than zero, to twelve places behind those of the dividend. -/
def div (a b : Number) : Number :=
  let places := a.places + 12
  let numerator := a.digits * tenTo (12 + b.places)
  of (a.negative != b.negative) ((2 * numerator + b.digits) / (2 * b.digits)) places

/-- Whether the first number is less than the second. -/
def isLess (a b : Number) : Bool :=
  let places := max a.places b.places
  a.numerator places < b.numerator places

def shiftUp (n : Number) (k : Nat) : Number :=
  of n.negative (n.digits * tenTo k) n.places

def shiftDown (n : Number) (k : Nat) : Number :=
  of n.negative n.digits (n.places + k)

/-- The nearest natural number to the magnitude of a number; a half goes up. -/
def nearest (n : Number) : Nat :=
  (2 * n.digits + tenTo n.places) / (2 * tenTo n.places)

/-- The number to six significant digits; a half goes up. -/
def rounded (n : Number) : Number :=
  let count := width n.digits
  if count ≤ 6 then n
  else
    let dropped := count - 6
    let kept := (n.digits + 5 * tenTo (dropped - 1)) / tenTo dropped
    if dropped ≤ n.places then of n.negative kept (n.places - dropped)
    else of n.negative (kept * tenTo (dropped - n.places)) 0

/-- A text of at least `n` digits, filled with zeros in front. -/
def padded (n : Nat) (digits : List Char) : List Char :=
  List.replicate (n - digits.length) '0' ++ digits

/-- A significand and an exponent of ten, for numbers that have few digits far from the point. -/
def scientific (digits : List Char) (exponent : Int) : List Char :=
  let fraction := (digits.drop 1).reverse.dropWhile (· == '0') |>.reverse
  let point := if fraction.isEmpty then [] else '.' :: fraction
  digits.take 1 ++ point ++ 'e' :: (toString exponent).toList

/-- The digits of a number around its point. An empty integer part stands for a zero. -/
def parts (n : Number) : List Char × List Char :=
  let digits := padded n.places (Nat.toDigits 10 n.digits)
  let cut := digits.length - n.places
  let integer := digits.take cut
  (if integer == ['0'] then [] else integer, digits.drop cut)

def sign (n : Number) : List Char := if n.negative then ['-'] else []

/-- The text of a number. Numbers below a millionth and from `10 ^ 21` on have an exponent. -/
def text (n : Number) : List Char :=
  let r := n.rounded
  let digits := Nat.toDigits 10 r.digits
  let exponent : Int := (digits.length : Int) - r.places - 1
  if r.digits != 0 && (exponent < -6 || 21 ≤ exponent) then
    r.sign ++ scientific digits exponent
  else
    let (integer, fraction) := r.parts
    let whole := if integer.isEmpty && fraction.isEmpty then ['0'] else integer
    r.sign ++ whole ++ (if fraction.isEmpty then [] else '.' :: fraction)

/-- The text of a number with at least one digit on both sides of the point. -/
def fullText (n : Number) : List Char :=
  let (integer, fraction) := n.parts
  n.sign ++ (if integer.isEmpty then ['0'] else integer) ++
    '.' :: (if fraction.isEmpty then ['0'] else fraction)

end Number

end MarkupModule.Style
