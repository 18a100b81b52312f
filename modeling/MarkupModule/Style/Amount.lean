import MarkupModule.Style.Component
import MarkupModule.Text.Ascii

/-! Amounts: numbers with a unit, and sums of them. -/

namespace MarkupModule.Style

open MarkupModule.Text

/-- What a number counts: nothing in particular, hundredths, or a unit. -/
inductive Measure
  | none
  | percent
  | unit (name : String)
  deriving DecidableEq, Repr, Inhabited

/-- A number with what it counts. -/
structure Amount where
  number : Number
  measure : Measure
  deriving DecidableEq, Repr, Inhabited

def lengthUnits : List String := [
  "px", "in", "cm", "mm", "q", "pt", "pc", "em", "rem", "ex", "rex", "ch", "rch", "cap", "rcap", "ic",
  "ric", "lh", "rlh", "vw", "lvw", "svw", "dvw", "cqw", "vh", "lvh", "svh", "dvh", "cqh", "vi", "lvi",
  "svi", "dvi", "cqi", "vb", "lvb", "svb", "dvb", "cqb", "vmin", "lvmin", "svmin", "dvmin", "cqmin",
  "vmax", "lvmax", "svmax", "dvmax", "cqmax"]

def otherUnits : List String := [
  "deg", "grad", "rad", "turn", "s", "ms", "dpi", "dpcm", "dppx", "x"]

/-- The measure of a unit as written. Known units are in lower case. -/
def Measure.ofUnit (written : String) : Measure :=
  let name := lowerName written
  .unit (if lengthUnits.contains name || otherUnits.contains name then name else written)

namespace Amount

def zeroLength : Amount := ⟨.ofNat 0, .unit "px"⟩

def isLength (a : Amount) : Bool :=
  match a.measure with
  | .unit name => lengthUnits.contains name
  | _ => false

def isTime (a : Amount) : Bool :=
  a.measure == .unit "s" || a.measure == .unit "ms"

def isPercentage (a : Amount) : Bool := a.measure == .percent

def isNumber (a : Amount) : Bool := a.measure == .none

def ofToken? : Token → Option Amount
  | .number n => some ⟨n.number, .none⟩
  | .percentage n => some ⟨n.number, .percent⟩
  | .dimension n unit => some ⟨n.number, .ofUnit unit⟩
  | _ => none

/-- A time in the shorter of its two units: below a tenth of a second in thousandths. -/
def tidyTime (a : Amount) : Amount :=
  if a.measure == .unit "s" && 0 < a.number.digits && !a.number.negative &&
      a.number.isLess ⟨false, 1, 1⟩ then
    ⟨a.number.shiftUp 3, .unit "ms"⟩
  else if a.measure == .unit "ms" &&
      (a.number.isZero || !a.number.isLess (.ofNat 100)) then
    ⟨a.number.shiftDown 3, .unit "s"⟩
  else a

/-- An amount with its unit, whatever the number. -/
def fullText (a : Amount) : List Char :=
  let tidy := a.tidyTime
  tidy.number.text ++
    match tidy.measure with
    | .none => []
    | .percent => ['%']
    | .unit "dppx" => ['x']
    | .unit name => name.toList

/-- An amount as a value, where no length needs a unit. -/
def text (a : Amount) : List Char :=
  if a.isLength && a.number.isZero then ['0'] else a.fullText

def opposite (a : Amount) : Amount := { a with number := a.number.opposite }

def times (a : Amount) (n : Number) : Amount := { a with number := a.number.mul n }

def dividedBy (a : Amount) (n : Number) : Amount := { a with number := a.number.div n }

/-- A sum with one more amount, which joins an amount of the same measure. -/
def plus (a : Amount) : List Amount → List Amount
  | [] => [a]
  | b :: rest =>
    if a.measure = b.measure then ⟨b.number.add a.number, b.measure⟩ :: rest else b :: plus a rest

def sumText : List Amount → List Char
  | [] => []
  | a :: rest =>
    a.fullText ++ rest.flatMap fun b =>
      if b.number.isBelowZero then " - ".toList ++ b.opposite.fullText
      else " + ".toList ++ b.fullText

end Amount

/-! ### Sums that are written out -/

/-- A part of a sum: space, a sign of arithmetic, or a sum of its own if it is one. -/
inductive SumPart
  | space
  | operator (c : Char)
  | value (amounts : Option (List Amount))
  deriving Inhabited

namespace SumPart

/-- A sign that binds more tightly than a sum and needs no space. -/
def isTight : Char → Bool := fun c => c == '*' || c == '/'

/-- The parts without the space around signs that need none; `after` says whether one went before. -/
def tighten (after : Bool) : List SumPart → List SumPart
  | [] => []
  | space :: rest =>
    match rest with
    | operator c :: _ => if after || isTight c then tighten false rest else space :: tighten false rest
    | _ => if after then tighten false rest else space :: tighten false rest
  | operator c :: rest => operator c :: tighten (isTight c) rest
  | value v :: rest => value v :: tighten false rest

/-- The product of two sums, of which one has to be a bare number. -/
def product? : List Amount → List Amount → Option (List Amount)
  | [a], bs =>
    if a.isNumber then some (bs.map (·.times a.number))
    else
      match bs with
      | [b] => if b.isNumber then some [a.times b.number] else none
      | _ => none
  | as, [b] => if b.isNumber then some (as.map (·.times b.number)) else none
  | _, _ => none

/-- The quotient of a sum by a bare number other than zero. -/
def quotient? : List Amount → List Amount → Option (List Amount)
  | as, [b] => if b.isNumber && !b.number.isZero then some (as.map (·.dividedBy b.number)) else none
  | _, _ => none

def join (as bs : List Amount) : List Amount :=
  bs.foldl (fun sum b => Amount.plus b sum) as

/-- What follows a finished sum and a summand that may still be multiplied. -/
def total? (done current : List Amount) : List SumPart → Option (List Amount)
  | [] => some (join done current)
  | operator '*' :: value (some v) :: rest => do total? done (← product? current v) rest
  | operator '/' :: value (some v) :: rest => do total? done (← quotient? current v) rest
  | space :: operator '+' :: space :: value (some v) :: rest => total? (join done current) v rest
  | space :: operator '-' :: space :: value (some v) :: rest =>
    total? (join done current) (v.map Amount.opposite) rest
  | _ => none

def sum? (parts : List SumPart) : Option (List Amount) :=
  match tighten true parts with
  | value (some v) :: rest =>
    let trimmed := match rest.getLast? with
      | some space => rest.dropLast
      | _ => rest
    total? [] v trimmed
  | _ => none

end SumPart

mutual

/-- The sum that a component stands for: a number, or a sum in brackets. -/
def Component.sum? : Component → Option (List Amount)
  | .token _ content => (Amount.ofToken? content).map fun a => [a]
  | .block _ (.bracket .round) inner _ => SumPart.sum? (Component.sumParts inner)
  | .block _ (.function name) inner _ =>
    if sameIgnoringCase name "calc" then SumPart.sum? (Component.sumParts inner) else none
  | .block _ (.bracket _) _ _ => none

def Component.sumParts : List Component → List SumPart
  | [] => []
  | c :: rest =>
    (match c.first with
      | .delim op => .operator op
      | t => if t.isSpace then .space else .value c.sum?) :: Component.sumParts rest

end

end MarkupModule.Style
