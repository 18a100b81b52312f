import MarkupModule.Style.Value

/-! Grammars of values. A grammar reads the words of a value, which are its components without the space
between them, and gives the terms in the form in which they are written: in a fixed order, without what
follows from the rest. A value that does not fit is not understood. -/

namespace MarkupModule.Style.Grammar

open MarkupModule.Text

abbrev Word := Component → Option Term

/-- Reads all words of a value, into layers of terms. -/
abbrev Shape := List Component → Option (List (List Term))

/-! ### Words -/

def ident? (c : Component) : Option String :=
  match c.first with
  | .ident name => some (lowerName name)
  | _ => none

def keyword (names : List String) : Word := fun c =>
  match ident? c with
  | some name => if names.contains name then some (.word name) else none
  | none => none

/-- An amount or a sum of amounts that pass a test. -/
def amount (test : Amount → Bool) : Word := fun c =>
  match c.sum? with
  | some [a] => if test a then some (.amount a) else none
  | some amounts => if amounts.all test then some (.sum amounts) else none
  | none => none

def lengthOr (test : Amount → Bool) : Word := fun c =>
  match c.first with
  | .number n => if n.number.isZero then some (.amount .zeroLength) else none
  | _ => amount (fun a => a.isLength || test a) c

def length : Word := lengthOr fun _ => false

def lengthPercentage : Word := lengthOr Amount.isPercentage

def number : Word := amount Amount.isNumber

def integer : Word := fun c =>
  match c.first with
  | .number n => n.integer?.map .integer
  | _ => none

def share : Word := fun c =>
  match number c with
  | some t => some t
  | none =>
    match amount Amount.isPercentage c with
    | some (.amount a) => some (.amount ⟨a.number.shiftDown 2, .none⟩)
    | _ => none

def time : Word := fun c =>
  match amount Amount.isTime c with
  | some (.amount a) => some (.amount a.tidyTime)
  | found => found

def color : Word := fun c => (Color.ofComponent? c).map .color

def url : Word := fun c =>
  match c with
  | .token _ (.url address) => some (.url address)
  | .block _ (.function name) inner _ =>
    if sameIgnoringCase name "url" then (quotedAddress? inner).map .url else none
  | _ => none

def either (a b : Word) : Word := fun c => a c <|> b c

def lengthOrAuto : Word := either lengthPercentage (keyword ["auto"])

/-! ### Shapes -/

def one (word : Word) : Shape := fun words =>
  match words with
  | [c] => (word c).map fun t => [[t]]
  | _ => none

def unread : Shape := fun _ => none

/-- At least one and at most `n` words of one kind. -/
def upTo (n : Nat) (word : Word) (words : List Component) : Option (List Term) :=
  if words.isEmpty || n < words.length then none else words.mapM word

/-- The values of four sides from those that are written: a side that is left out is like the one
opposite, or like the first. -/
def allSides : List Term → List Term
  | [a] => [a, a, a, a]
  | [a, b] => [a, b, a, b]
  | [a, b, c] => [a, b, c, b]
  | terms => terms

/-- The values of four sides without those that need not be written. -/
def fewSides : List Term → List Term
  | [a, b, c, d] =>
    if b = d then
      if a = c then if a = b then [a] else [a, b]
      else [a, b, c]
    else [a, b, c, d]
  | terms => terms

def sides (word : Word) : Shape := fun words =>
  (upTo 4 word words).map fun terms => [fewSides (allSides terms)]

/-- Two values, of which the second is left out when it is like the first. -/
def fewTwo : List Term → List Term
  | [a, b] => if a = b then [a] else [a, b]
  | terms => terms

/-- One value for two directions, or one for each. -/
def twice (word : Word) : Shape := fun words =>
  (upTo 2 word words).map fun terms => [fewTwo terms]

/-- Radii of four corners: across, and down behind a slash where they differ. -/
def fewRadii (across down : List Term) : List Term :=
  let a := fewSides (allSides across)
  let b := fewSides (allSides down)
  if a = b then a else a ++ .slash :: b

def isSlash (c : Component) : Bool := c.first == .delim '/'

/-- The words before and behind the first slash. -/
def cutAtSlash (words : List Component) : List Component × Option (List Component) :=
  match words.dropWhile (!isSlash ·) with
  | [] => (words, none)
  | _ :: rest => (words.takeWhile (!isSlash ·), some rest)

def radii : Shape := fun words => do
  let (before, behind) := cutAtSlash words
  let across ← upTo 4 lengthPercentage before
  let down ← match behind with
    | some rest => upTo 4 lengthPercentage rest
    | none => some across
  some [fewRadii across down]

def layersOf (words : List Component) : List (List Component) :=
  (Stretch.mk words 0).splitOnComma.map Stretch.items

def layers (layer : List Component → Option (List Term)) : Shape := fun words =>
  (layersOf words).mapM layer

/-- A single word on its own, or layers of another form. -/
def wordOr (alone : Word) (shape : Shape) : Shape := fun words =>
  one alone words <|> shape words

/-! ### Words in any order -/

/-- A part of a value that is written in any order: how its word is read, and the value it has when it is
left out. -/
structure Part where
  read : Word
  initial : Term

/-- Puts a word into the first free part that reads it. -/
def place (c : Component) : List (Part × Option Term) → Option (List (Part × Option Term))
  | [] => none
  | (part, found) :: rest =>
    match found, part.read c with
    | none, some t => some ((part, some t) :: rest)
    | _, _ => (place c rest).map fun more => (part, found) :: more

/-- Words in any order. The parts that differ from their initial values are written; `lead` is written
where all have them. -/
def anyOrder (parts : List Part) (lead : Term) (words : List Component) : Option (List Term) := do
  if words.isEmpty then none
  let filled ← words.foldlM (fun filled c => place c filled) (parts.map fun part => (part, none))
  let written := filled.filterMap fun (part, found) => found.filter (· != part.initial)
  some (if written.isEmpty then [lead] else written)

def lineStyles : List String := [
  "none", "hidden", "inset", "groove", "outset", "ridge", "dotted", "dashed", "solid", "double"]

def lineWidth : Word := either (keyword ["thin", "medium", "thick"]) length

def line (styles : List String) : Shape := fun words =>
  (anyOrder [⟨lineWidth, .word "medium"⟩, ⟨keyword styles, .word "none"⟩, ⟨color, .color .current⟩]
    (.word "none") words).map fun terms => [terms]

def textLine : Shape := fun words =>
  (anyOrder [⟨keyword ["none", "underline", "overline", "line-through", "blink"], .word "none"⟩,
    ⟨either (keyword ["auto", "from-font"]) lengthPercentage, .word "auto"⟩,
    ⟨keyword ["solid", "double", "dotted", "dashed", "wavy"], .word "solid"⟩,
    ⟨color, .color .current⟩] (.word "none") words).map fun terms => [terms]

/-! ### Values with rules of their own -/

/-- The weight of a font, as a number where a word stands for one. -/
def fontWeight : Word := fun c =>
  match ident? c with
  | some "normal" => some (.amount ⟨.ofNat 400, .none⟩)
  | some "bold" => some (.amount ⟨.ofNat 700, .none⟩)
  | _ => either number (keyword ["bolder", "lighter"]) c

def fontSize : Word :=
  either (keyword ["xx-small", "x-small", "small", "medium", "large", "x-large", "xx-large", "xxx-large",
    "smaller", "larger"]) lengthPercentage

def lineHeight : Word :=
  either number (either lengthPercentage (keyword ["normal"]))

/-- The name of a font: a text, a generic name, or words. -/
def family? (words : List Component) : Option Term :=
  match words with
  | [.token _ (.text content)] => some (.family content)
  | [.token _ (.ident name)] =>
    if genericFamilies.contains (lowerName name) then some (.word (lowerName name))
    else some (.family name)
  | [] => none
  | _ => do
    let names ← words.mapM fun c => match c.first with
      | .ident name => some name
      | _ => none
    some (.family (" ".intercalate names))

def fontNames : Shape := fun words =>
  ((layersOf words).mapM family?).map fun names => names.eraseDups.map fun name => [name]

/-- What stands before the size of a font, in any order. The word for the usual form says nothing. -/
def fontForm (words : List Component) : Option (List Term) :=
  let special := words.filter fun c => ident? c != some "normal"
  if 4 < words.length then none
  else if special.isEmpty then some []
  else anyOrder [⟨keyword ["italic", "oblique"], .word "normal"⟩, ⟨keyword ["small-caps"], .word "normal"⟩,
    ⟨fontWeight, .word "normal"⟩,
    ⟨keyword ["ultra-condensed", "extra-condensed", "condensed", "semi-condensed", "semi-expanded",
      "expanded", "extra-expanded", "ultra-expanded"], .word "normal"⟩] (.word "normal") special

/-- A font: its form, its size, which a height of lines may follow, and its names. -/
def font : Shape := fun words =>
  match layersOf words with
  | [] => none
  | first :: more => do
    let isForm (c : Component) : Bool := (fontSize c).isNone
    let form ← fontForm (first.takeWhile isForm)
    let (size, behind) ← match first.dropWhile isForm with
      | [] => none
      | c :: rest => (fontSize c).map fun t => (t, rest)
    let (height, names) ← match behind with
      | slash :: c :: rest =>
        if isSlash slash then
          (lineHeight c).map fun t => (if t = .word "normal" then [] else [.slash, t], rest)
        else some ([], behind)
      | _ => some ([], behind)
    let name ← family? names
    let others ← more.mapM family?
    some ((form ++ size :: height ++ [name]) :: others.map ([·]))

/-- A value of the shorthand for flexible boxes: how much a box grows, how much it shrinks, and its size
before that. -/
structure Flexibility where
  grow : Option Number
  shrink : Option Number
  basis : Option Term
  deriving Inhabited

def Flexibility.read (f : Flexibility) (c : Component) : Option Flexibility :=
  let given : Option Number :=
    match number c with
    | some (.amount a) => some a.number
    | _ => none
  match f.grow, f.shrink, given with
  | none, _, some n => some { f with grow := some n }
  | some _, none, some n => some { f with shrink := some n }
  | _, _, _ =>
    match f.basis, lengthOrAuto c with
    | none, some t => some { f with basis := some t }
    | _, _ => none

/-- The words of a flexibility. A basis of no percent need not be written, and one of no length needs
both numbers before it. -/
def fewFlexibility (grow shrink : Number) (basis : Term) : List Term :=
  let unit : Number := .ofNat 1
  let isZero (test : Amount → Bool) : Bool :=
    match basis with
    | .amount a => test a && a.number.isZero
    | _ => false
  let noLength := isZero Amount.isLength
  let noPercent := isZero Amount.isPercentage
  if grow.isZero && shrink.isZero && basis = .word "auto" then [.word "none"]
  else
    let numbers := if grow != unit || shrink != unit || noLength || noPercent then
        .amount ⟨grow, .none⟩ ::
          (if shrink != unit || noLength then [Term.amount ⟨shrink, .none⟩] else [])
      else []
    numbers ++ (if noPercent then [] else [basis])

def flexibility : Shape := fun words =>
  match words with
  | [] => none
  | [c] =>
    if ident? c == some "none" then some [[.word "none"]] else several words
  | _ => several words
where
  several (words : List Component) : Option (List (List Term)) := do
    let f ← words.foldlM Flexibility.read (default : Flexibility)
    let unit : Number := .ofNat 1
    let noPercent : Term := .amount ⟨.ofNat 0, .percent⟩
    some [fewFlexibility (f.grow.getD unit) (f.shrink.getD unit) (f.basis.getD noPercent)]

/-- Offset, blur and spread of a shadow, and its color. -/
def shadow (words : List Component) : Option (List Term) := do
  let (insets, rest) := words.partition fun c => ident? c == some "inset"
  let (lengths, colors) := rest.partition fun c => (length c).isSome
  let amounts ← lengths.mapM length
  let zero : Term := .amount .zeroLength
  let isNone (t : Term) : Bool :=
    match t with
    | .amount a => a.number.isZero
    | _ => false
  let shadowColor ← match colors with
    | [] => some []
    | [c] => (color c).map fun t => if t = .color .current then [] else [t]
    | _ => none
  let (x, y, blur, spread) ← match amounts with
    | [x, y] => some (x, y, zero, zero)
    | [x, y, blur] => some (x, y, blur, zero)
    | [x, y, blur, spread] => some (x, y, blur, spread)
    | _ => none
  if 1 < insets.length then none
  let extent := if !isNone spread then [blur, spread] else if !isNone blur then [blur] else []
  some (insets.map (fun _ => .word "inset") ++ [x, y] ++ extent ++ shadowColor)

/-- A transition of a property: its duration, course and delay. -/
def transition (words : List Component) : Option (List Term) := do
  if words.isEmpty then none
  let (times, rest) := words.partition fun c => (time c).isSome
  let courses := ["ease", "linear", "ease-in", "ease-out", "ease-in-out", "step-start", "step-end"]
  let (timing, names) := rest.partition fun c => (keyword courses c).isSome
  let zero : Term := .amount ⟨.ofNat 0, .unit "s"⟩
  let property ← match names with
    | [] => some "all"
    | [c] => ident? c
    | _ => none
  let course ← match timing with
    | [] => some []
    | [c] => (keyword courses c).map fun t => if t = .word "ease" then [] else [t]
    | _ => none
  let (duration, delay) ← match ← times.mapM time with
    | [] => some (zero, zero)
    | [a] => some (a, zero)
    | [a, b] => some (a, b)
    | _ => none
  let durations := if duration = zero && delay = zero then [] else [duration]
  some (.word property :: durations ++ course ++ (if delay = zero then [] else [delay]))

/-- An animation: its duration, course, delay, count, direction and states, and last its name. -/
def animation (words : List Component) : Option (List Term) := do
  let (times, rest) := words.partition fun c => (time c).isSome
  let zero : Term := .amount ⟨.ofNat 0, .unit "s"⟩
  let courses := ["ease", "linear", "ease-in", "ease-out", "ease-in-out", "step-start", "step-end"]
  let name : Word := fun c =>
    match c.first with
    | .ident name => some (.word name)
    | _ => none
  let once : Term := .amount ⟨.ofNat 1, .none⟩
  let parts : List Part := [⟨keyword courses, .word "ease"⟩,
    ⟨either number (keyword ["infinite"]), once⟩,
    ⟨keyword ["normal", "reverse", "alternate", "alternate-reverse"], .word "normal"⟩,
    ⟨keyword ["none", "forwards", "backwards", "both"], .word "none"⟩,
    ⟨keyword ["running", "paused"], .word "running"⟩, ⟨name, .word "none"⟩]
  let others ← if rest.isEmpty then some [.word "none"] else anyOrder parts (.word "none") rest
  let (course, tail) := others.partition fun t => courses.any fun word => t == .word word
  match ← times.mapM time with
  | [] => if words.isEmpty then none else some others
  | [a] => some (if a = zero then others else a :: others)
  | [a, b] => some (if b = zero then (if a = zero then others else a :: others) else a :: course ++ b :: tail)
  | _ => none

/-! ### Backgrounds -/

def place? (low high : String) (c : Component) : Option Term :=
  match ident? c with
  | some name =>
    if name == low then some (.amount .zeroLength)
    else if name == high then some (.amount ⟨.ofNat 100, .percent⟩)
    else if name == "center" then some (.amount ⟨.ofNat 50, .percent⟩)
    else none
  | none => lengthPercentage c

/-- A place within a box, across and down. The middle downwards need not be written. -/
def position (words : List Component) : Option (List Term) :=
  let middle : Term := .amount ⟨.ofNat 50, .percent⟩
  let written (x y : Term) : List Term := if y = middle then [x] else [x, y]
  let across := place? "left" "right"
  let down := place? "top" "bottom"
  match words with
  | [c] =>
    match across c with
    | some x => some [x]
    | none => (keyword ["top", "bottom"] c).map fun t => [t]
  | [c, d] =>
    if ident? c == some "center" && (keyword ["top", "bottom"] d).isSome then
      (keyword ["top", "bottom"] d).map fun t => [t]
    else
      match across c, down d with
      | some x, some y => some (written x y)
      | _, _ =>
        match down c, across d with
        | some y, some x => if (ident? c).isSome then some (written x y) else none
        | _, _ => none
  | _ => none

/-- How an image is repeated, in two directions. -/
def repetition (words : List Component) : Option (List Term) :=
  let styles := keyword ["repeat", "space", "round", "no-repeat"]
  match words with
  | [c] => (either styles (keyword ["repeat-x", "repeat-y"]) c).map fun t => [t]
  | [c, d] =>
    match styles c, styles d with
    | some (.word "repeat"), some (.word "no-repeat") => some [.word "repeat-x"]
    | some (.word "no-repeat"), some (.word "repeat") => some [.word "repeat-y"]
    | some a, some b => some (fewTwo [a, b])
    | _, _ => none
  | _ => none

def imageSize (words : List Component) : Option (List Term) :=
  match words with
  | [c] => (either (keyword ["cover", "contain"]) lengthOrAuto c).map fun t => [t]
  | [c, d] =>
    match lengthOrAuto c, lengthOrAuto d with
    | some a, some (.word "auto") => some [a]
    | some a, some b => some [a, b]
    | _, _ => none
  | _ => none

def image : Word := either url (keyword ["none"])

/-- The words of a background, sorted by what they say. -/
structure Background where
  colors : List Component
  images : List Component
  places : List Component
  repetitions : List Component
  attachments : List Component
  deriving Inhabited

def Background.sort (words : List Component) : Option Background :=
  words.foldrM (fun c b =>
    if (image c).isSome then some { b with images := c :: b.images }
    else if (Color.ofComponent? c).isSome then some { b with colors := c :: b.colors }
    else if (repetition [c]).isSome then some { b with repetitions := c :: b.repetitions }
    else if (keyword ["scroll", "fixed", "local"] c).isSome then
      some { b with attachments := c :: b.attachments }
    else if (position [c]).isSome then some { b with places := c :: b.places }
    else none) default

/-- A background: color, image, place and size, repetition and attachment. A background that says
nothing is written as the place where it begins. -/
def background (words : List Component) : Option (List Term) := do
  let (before, behind) := cutAtSlash words
  let isSize (c : Component) : Bool := (either (keyword ["cover", "contain"]) lengthOrAuto c).isSome
  let sizes := (behind.getD []).takeWhile isSize
  let b ← Background.sort (before ++ (behind.getD []).dropWhile isSize)
  let zero : Term := .amount .zeroLength
  let colors ← match b.colors with
    | [] => some []
    | [c] => (color c).map fun t => if t = .color (.rgba 0 0 0 0) then [] else [t]
    | _ => none
  let images ← match b.images with
    | [] => some []
    | [c] => (image c).map fun t => if t = .word "none" then [] else [t]
    | _ => none
  let size ← if behind.isSome then
      (imageSize sizes).map fun t => if t = [.word "auto"] then [] else .slash :: t
    else some []
  let place ← if b.places.isEmpty then some [] else position b.places
  let placed := if size.isEmpty then (if place = [zero, zero] then [] else place)
    else (if place.isEmpty then [zero, zero] else place) ++ size
  let repeated ← if b.repetitions.isEmpty then some []
    else (repetition b.repetitions).map fun t => if t = [.word "repeat"] then [] else t
  let attached ← match b.attachments with
    | [] => some []
    | [c] => (ident? c).map fun name => if name == "scroll" then [] else [.word name]
    | _ => none
  let written := colors ++ images ++ placed ++ repeated ++ attached
  some (if written.isEmpty then [zero, zero] else written)

/-- Layers of backgrounds, of which only the last may have a color. -/
def backgrounds : Shape := fun words =>
  let parts := layersOf words
  if parts.any List.isEmpty then none
  else if parts.dropLast.any fun part => part.any fun c => (Color.ofComponent? c).isSome then none
  else parts.mapM background

end MarkupModule.Style.Grammar
