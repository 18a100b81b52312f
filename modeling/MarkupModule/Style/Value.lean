import MarkupModule.Style.Color
import MarkupModule.Style.Problem
import MarkupModule.Style.Spelling

/-! The value of a declaration: terms that were understood, or pieces of text that are kept in order
because no meaning is known for them. Pieces lose the space that separates nothing. -/

namespace MarkupModule.Style

open MarkupModule.Text

/-- A piece of text that is kept as it is. -/
inductive Piece
  | plain (t : Token)
  | color (c : Color)
  | amount (a : Amount)
  | url (address : String)
  | reference (name : String) (fallback : Option (List Piece))
  | call (function : String) (arguments : List Piece)
  deriving Inhabited, BEq

/-- A term that was understood. -/
inductive Term
  | word (name : String)
  | amount (a : Amount)
  | sum (amounts : List Amount)
  | integer (n : Int)
  | color (c : Color)
  | url (address : String)
  | text (content : String)
  | family (name : String)
  | slash
  deriving DecidableEq, Repr, Inhabited

/-- Layers of terms, separated by commas, or pieces. -/
inductive Value
  | typed (layers : List (List Term))
  | raw (pieces : List Piece)
  deriving Inhabited, BEq

/-! ### Reading pieces -/

/-- Pieces without space at their ends, unless they are a single space. -/
def Piece.trim (pieces : List Piece) : List Piece :=
  if pieces.length < 2 then pieces
  else
    let isSpace (p : Piece) : Bool := p == .plain .space
    let tail := if pieces.head?.any isSpace then pieces.drop 1 else pieces
    if tail.getLast?.any isSpace then tail.dropLast else tail

/-- The piece that a token other than space is. -/
def Piece.ofToken (t : Token) : Piece :=
  match t with
  | .hash name _ =>
    match Color.ofHash? name with
    | some found => .color found
    | none => .plain t
  | .url address => .url address
  | .number n => .amount ⟨n.number, .none⟩
  | .dimension n unit => .amount ⟨n.number, .ofUnit unit⟩
  | _ => .plain t

/-- Whether space behind a token separates nothing. -/
def Token.endsPiece : Token → Bool
  | .delim _ | .comma => true
  | _ => false

/-- The address in the brackets of a function that holds a text and nothing else. -/
def quotedAddress? (inner : List Component) : Option String :=
  match inner.filter (!·.isSpace) with
  | [.token _ (.text content)] => some content
  | _ => none

/-- The first component that is no space, or the end of the input where there is none. -/
def Stretch.require (s : Stretch) : Except Problem Component :=
  match s.skipSpace.items with
  | c :: _ => .ok c
  | [] => .error ⟨.endOfInput, s.skipSpace.here⟩

/-- A problem with a token that stands where none may. -/
def Stretch.unexpected (s : Stretch) (c : Component) : Problem :=
  ⟨.unexpected c.first, s.here⟩

/-- The name of a variable, which begins with two hyphens. -/
def Stretch.variableName (s : Stretch) : Except Problem String := do
  let c ← s.require
  match c.first with
  | .ident name =>
    if startsWith "--".toList name.toList then .ok name else .error (s.unexpected c)
  | _ => .error (s.unexpected c)

def Piece.space (due : Bool) : List Piece :=
  if due then [.plain .space] else []

mutual

/-- The pieces that components stand for. `due` says that space was read that has not been kept yet, and
`behind` that space would separate nothing here. -/
def Piece.read (due behind : Bool) : List Component → Except Problem (List Piece)
  | [] => .ok (Piece.space due)
  | .token left t :: rest =>
    if t.isSpace then Piece.read (!behind) behind rest
    else if t.isStray then .error ⟨.unexpected t, left⟩
    else do
      let kept := match t with
        | .delim _ => false
        | _ => due
      let more ← Piece.read false t.endsPiece rest
      .ok (Piece.space kept ++ Piece.ofToken t :: more)
  | .block left opening inner close :: rest => do
    let pieces ← Piece.ofBlock left opening inner close
    let isClosed := match opening with
      | .bracket _ => true
      | .function name =>
        (Color.ofFunction? name inner).isNone &&
          !(sameIgnoringCase name "url" && (quotedAddress? inner).isSome)
    let more ← Piece.read false isClosed rest
    .ok (Piece.space due ++ pieces ++ more)

def Piece.ofBlock (left : Nat) (opening : Opening) (inner : List Component) (close : Nat) :
    Except Problem (List Piece) :=
  match opening with
  | .bracket b => do
    let pieces ← Piece.read false false inner
    .ok (.plain (.opening b) :: pieces ++ [.plain (.closing b)])
  | .function name =>
    match Color.ofFunction? name inner with
    | some found => .ok [.color found]
    | none =>
      if sameIgnoringCase name "url" then
        match quotedAddress? inner with
        | some found => .ok [.url found]
        | none => .error ⟨.unexpected (.function name), left⟩
      else if sameIgnoringCase name "var" then do
        let s : Stretch := ⟨inner, close⟩
        let name ← s.variableName
        let fallback ← Piece.fallback inner close
        .ok [.reference name fallback]
      else do
        let arguments ← Piece.read false false inner
        .ok [.call name (Piece.trim arguments)]

/-- What takes the place of a variable without value: the pieces behind the comma after its name. -/
def Piece.fallback (inner : List Component) (close : Nat) : Except Problem (Option (List Piece)) :=
  match inner with
  | [] => .ok none
  | c :: rest =>
    if c.isSpace then Piece.fallback rest close
    else
      match c.first with
      | .comma => do
        let pieces ← Piece.read false false rest
        .ok (some (Piece.trim pieces))
      | .ident _ => Piece.fallback rest close
      | t => .error ⟨.unexpected t, c.left⟩

end

/-- The pieces of a stretch, without space around them. -/
def Piece.ofStretch (s : Stretch) : Except Problem (List Piece) :=
  (Piece.read false false s.items).map Piece.trim

/-! ### Writing values -/

/-- A numeral as a percentage that keeps its form. -/
def percentageText (n : Numeral) : List Char :=
  let digits := n.number.rounded
  let (integer, fraction) := digits.parts
  let point :=
    if !fraction.isEmpty then '.' :: fraction
    else if n.whole then []
    else ".0".toList
  (if n.signed && !n.number.negative then ['+'] else digits.sign) ++
    (if integer.isEmpty then ['0'] else integer) ++ point ++ ['%']

def Token.spelling : Token → List Char
  | .ident name => Spelling.identifier name.toList
  | .atKeyword name => '@' :: Spelling.identifier name.toList
  | .hash name _ => '#' :: Spelling.name name.toList
  | .text content => Spelling.quoted content.toList
  | .url address => Spelling.address address.toList
  | .delim c => if c = '+' || c = '-' then [' ', c, ' '] else [c]
  | .number n => n.number.text
  | .percentage n => percentageText n
  | .dimension n unit => n.number.text ++ Spelling.identifier unit.toList
  | .space => [' ']
  | .comment content => "/*".toList ++ content.toList ++ "*/".toList
  | .colon => [':']
  | .semicolon => [';']
  | .comma => [',']
  | .includes => "~=".toList
  | .dashes => "|=".toList
  | .begins => "^=".toList
  | .ends => "$=".toList
  | .holds => "*=".toList
  | .commentOpen => "<!--".toList
  | .commentClose => "-->".toList
  | .function name => Spelling.identifier name.toList ++ ['(']
  | .opening .round => ['(']
  | .opening .square => ['[']
  | .opening .curly => ['\x7b']
  | .closing .round => [')']
  | .closing .square => [']']
  | .closing .curly => ['\x7d']
  | .badUrl content => "url(".toList ++ content.toList ++ [')']
  | .badText content => Spelling.quoted content.toList

mutual

def Piece.text : Piece → List Char
  | .plain t => t.spelling
  | .color c => c.text
  | .amount a => a.fullText
  | .url address => Spelling.address address.toList
  | .reference name none => "var(".toList ++ Spelling.identifier name.toList ++ [')']
  | .reference name (some fallback) =>
    "var(".toList ++ Spelling.identifier name.toList ++ ',' :: Piece.texts fallback ++ [')']
  | .call function arguments =>
    Spelling.identifier function.toList ++ '(' :: Piece.texts arguments ++ [')']

def Piece.texts : List Piece → List Char
  | [] => []
  | p :: rest => p.text ++ Piece.texts rest

end

/-- Names that mean something else than a font when they stand without quotes. -/
def genericFamilies : List String := [
  "serif", "sans-serif", "cursive", "fantasy", "monospace", "system-ui", "emoji", "math", "fangsong",
  "ui-serif", "ui-sans-serif", "ui-monospace", "ui-rounded", "initial", "inherit", "unset", "default",
  "revert", "revert-layer"]

/-- The words of a name, between single spaces. -/
def splitOnSpace : List Char → List (List Char)
  | [] => [[]]
  | c :: cs =>
    match splitOnSpace cs with
    | word :: more => if c = ' ' then [] :: word :: more else (c :: word) :: more
    | [] => [[c]]

/-- The name of a font, without quotes where they are not needed and not shorter. -/
def familyText (name : String) : List Char :=
  let s := name.toList
  let bare := List.intercalate [' '] ((splitOnSpace s).map Spelling.identifier)
  if !s.isEmpty && !genericFamilies.contains (lowerName name) &&
      Spelling.size bare < name.utf8ByteSize + 2 then bare
  else Spelling.quoted s

def Term.spelling : Term → List Char
  | .word name => Spelling.identifier name.toList
  | .amount a => a.text
  | .sum amounts => "calc(".toList ++ Amount.sumText amounts ++ [')']
  | .integer n => (toString n).toList
  | .color c => c.text
  | .url address => Spelling.address address.toList
  | .text content => Spelling.quoted content.toList
  | .family name => familyText name
  | .slash => ['/']

/-- Terms with spaces between them; a slash needs none. -/
def Term.line : List Term → List Char
  | [] => []
  | [t] => t.spelling
  | t :: u :: rest =>
    t.spelling ++ (if t = .slash || u = .slash then [] else [' ']) ++ Term.line (u :: rest)

def Value.text : Value → List Char
  | .typed layers => List.intercalate [','] (layers.map Term.line)
  | .raw pieces => Piece.texts pieces

end MarkupModule.Style
