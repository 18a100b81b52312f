import MarkupModule.Style.Amount
import MarkupModule.Style.ColorNames

/-! Colors. A color is written as the shorter of its name and its number; parts that consist of twice the
same digit are written with one. -/

namespace MarkupModule.Style

open MarkupModule.Text
open MarkupModule.Decimal

/-- A color: four parts of at most 255 each, or the color of the text. -/
inductive Color
  | rgba (red green blue alpha : Nat)
  | current
  deriving DecidableEq, Repr, Inhabited

namespace Color

def ofNumber (n : Nat) : Color :=
  rgba (n / 65536 % 256) (n / 256 % 256) (n % 256) 255

def ofName? (written : String) : Option Color :=
  let name := lowerName written
  if name == "transparent" then some (rgba 0 0 0 0)
  else if name == "currentcolor" then some current
  else (colorNames.lookup name).map ofNumber

/-- The color with a hexadecimal number of three, four, six or eight digits. -/
def ofHash? (written : String) : Option Color :=
  let digits := written.toList
  if !digits.all isHexDigit then none
  else
    match digits.map hexValue with
    | [r, g, b] => some (rgba (17 * r) (17 * g) (17 * b) 255)
    | [r, g, b, a] => some (rgba (17 * r) (17 * g) (17 * b) (17 * a))
    | [r, r', g, g', b, b'] => some (rgba (16 * r + r') (16 * g + g') (16 * b + b') 255)
    | [r, r', g, g', b, b', a, a'] =>
      some (rgba (16 * r + r') (16 * g + g') (16 * b + b') (16 * a + a'))
    | _ => none

/-- A number brought into the range from zero to `top` and rounded. -/
def clamped (n : Number) (top : Nat) : Nat :=
  if n.isBelowZero then 0 else min n.nearest top

/-- The size of a part between zero and 255 that is given in hundredths. -/
def ofHundredths (n : Number) : Nat :=
  clamped ((n.mul (.ofNat 255)).shiftDown 2) 255

/-- A part of a color given as a number or a percentage. -/
def part? (a : Amount) : Option Nat :=
  match a.measure with
  | .none => some (clamped a.number 255)
  | .percent => some (ofHundredths a.number)
  | .unit _ => none

/-- How opaque a color is, given as a number up to one or a percentage. -/
def alpha? (a : Amount) : Option Nat :=
  match a.measure with
  | .none => some (clamped (a.number.mul (.ofNat 255)) 255)
  | .percent => some (ofHundredths a.number)
  | .unit _ => none

/-- The amounts of a color function: three, and one more that says how opaque it is. They are separated
by commas, or by spaces and a slash. -/
def arguments? (words : List Component) : Option (Amount × Amount × Amount × Option Amount) :=
  let amounts : List (Token × Option Amount) :=
    words.map fun c => (c.first, Amount.ofToken? c.first)
  match amounts with
  | [(_, some a), (.comma, _), (_, some b), (.comma, _), (_, some c)] => some (a, b, c, none)
  | [(_, some a), (.comma, _), (_, some b), (.comma, _), (_, some c), (.comma, _), (_, some d)] =>
    some (a, b, c, some d)
  | [(_, some a), (_, some b), (_, some c)] => some (a, b, c, none)
  | [(_, some a), (_, some b), (_, some c), (.delim '/', _), (_, some d)] => some (a, b, c, some d)
  | _ => none

/-- A number in millionths; what is smaller is left out. -/
def millionths (n : Number) : Int :=
  (n.shiftUp 6).numerator n.places / Int.ofNat (tenTo n.places)

def one : Int := 1000000

/-- A hue in millionths of a degree, below a full turn. -/
def hue? (a : Amount) : Option Int :=
  let degrees : Option Int :=
    match a.measure with
    | .none | .unit "deg" => some (millionths a.number)
    | .unit "turn" => some (millionths (a.number.mul (.ofNat 360)))
    | .unit "grad" => some (millionths ((a.number.mul (.ofNat 9)).shiftDown 1))
    | _ => none
  degrees.map (· % (360 * one))

/-- A percentage brought into the range from zero to one, in millionths. -/
def share (a : Amount) : Int :=
  max 0 (min one (millionths (a.number.shiftDown 2)))

/-- The part at an offset of the hue circle in degrees, for a saturation and a lightness. A slope as
wide as 30 degrees leads from the darkest to the lightest of its values and back. -/
def hslPart (hue saturation lightness : Int) (offset : Int) : Nat :=
  let wide := 30 * one
  let angle := (offset * one + hue) % (360 * one)
  let slope := max (-wide) (min (min (angle - 90 * one) (270 * one - angle)) wide)
  let spread := saturation * min lightness (one - lightness)
  let value := lightness * one * wide - spread * slope
  let whole := one * one * wide
  min 255 ((2 * 255 * value + whole) / (2 * whole)).toNat

/-- A color given by hue, saturation and lightness. -/
def ofHsl? (a b c : Amount) (alpha : Nat) : Option Color := do
  let hue ← hue? a
  if !b.isPercentage || !c.isPercentage then none
  else
    let part := hslPart hue (share b) (share c)
    some (rgba (part 0) (part 240) (part 120) alpha)

/-- The color that a function makes of its arguments. -/
def ofFunction? (function : String) (inner : List Component) : Option Color := do
  let (a, b, c, d) ← arguments? (inner.filter (!·.isSpace))
  let alpha ← match d with
    | none => some 255
    | some d => alpha? d
  let name := lowerName function
  if name == "rgb" || name == "rgba" then
    if a.isPercentage == b.isPercentage && b.isPercentage == c.isPercentage then
      some (rgba (← part? a) (← part? b) (← part? c) alpha)
    else none
  else if name == "hsl" || name == "hsla" then ofHsl? a b c alpha
  else none

def ofComponent? : Component → Option Color
  | .token _ (.ident name) => ofName? name
  | .token _ (.hash name _) => ofHash? name
  | .block _ (.function name) inner _ => ofFunction? name inner
  | _ => none

def hexPair (n : Nat) : List Char :=
  Nat.toDigits 16 (n / 16 % 16) ++ Nat.toDigits 16 (n % 16)

/-- Parts in hexadecimal, with one digit each where that is enough for all of them. -/
def hexText (parts : List Nat) : List Char :=
  if parts.all (· % 17 == 0) then '#' :: parts.flatMap fun n => Nat.toDigits 16 (n / 17)
  else '#' :: parts.flatMap hexPair

def text : Color → List Char
  | current => "currentColor".toList
  | rgba r g b a =>
    if a = 255 then
      match shortColorNames.find? fun name => colorNames.lookup name == some (r * 65536 + g * 256 + b) with
      | some name => name.toList
      | none => hexText [r, g, b]
    else hexText [r, g, b, a]

end Color

end MarkupModule.Style
