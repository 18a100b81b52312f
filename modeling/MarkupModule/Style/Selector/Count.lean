import MarkupModule.Style.Selector

/-! Reading a count of elements, such as `2n + 1`, `odd` or `-n+3`. -/

namespace MarkupModule.Style.Count

open MarkupModule.Text

def numeralText (n : Numeral) : List Char :=
  (if n.number.negative then ['-'] else if n.signed then ['+'] else []) ++
    Nat.toDigits 10 n.number.digits

/-- The text of a token of a count in lower case, and a mark that fits no count for any other token. -/
def tokenText : Token → List Char
  | .ident name => lower name.toList
  | .dimension n unit => if n.whole then numeralText n ++ lower unit.toList else ['?']
  | .number n => if n.whole then numeralText n else ['?']
  | .delim '+' => ['+']
  | .delim '-' => ['-']
  | t => if t.isSpace then [] else ['?']

def natural? (s : List Char) : Option Int :=
  if s.isEmpty || !s.all Char.isDigit then none else some (numeral 10 s)

def signed? : List Char → Option Int
  | '+' :: s => natural? s
  | '-' :: s => (natural? s).map (- ·)
  | _ => none

def whole? (s : List Char) : Option Int :=
  signed? s <|> natural? s

/-- The step before the letter, which is one where there is none. -/
def step? : List Char → Option Int
  | [] => some 1
  | ['+'] => some 1
  | ['-'] => some (-1)
  | s => whole? s

def ofText? (s : List Char) : Option (Int × Int) :=
  if s = "odd".toList then some (2, 1)
  else if s = "even".toList then some (2, 0)
  else
    match s.span (· != 'n') with
    | (_, []) => (whole? s).map fun offset => (0, offset)
    | (front, [_]) => (step? front).map fun step => (step, 0)
    | (front, _ :: rest) => do some (← step? front, ← signed? rest)

/-- The step and the offset that tokens denote. -/
def ofTokens? (tokens : List Token) : Option (Int × Int) :=
  ofText? (tokens.flatMap tokenText)

/-- The state that a count of a kind amounts to, when it counts to the first. -/
def firstOf? (name : String) : Option String :=
  [("nth-child", "first-child"), ("nth-last-child", "last-child"), ("nth-of-type", "first-of-type"),
    ("nth-last-of-type", "last-of-type")].lookup name

def part (name : String) (count : Int × Int) (among : List Selector) : Part :=
  match firstOf? name, count, among with
  | some simple, (0, 1), [] => .pseudo false simple
  | _, (step, offset), _ => .nth name step offset among

end MarkupModule.Style.Count
