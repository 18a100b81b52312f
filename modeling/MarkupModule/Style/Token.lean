import MarkupModule.Style.Number
import MarkupModule.Text.Debug

/-! The tokens of style sheets. -/

namespace MarkupModule.Style

open MarkupModule.Text

/-- A number with the form it was written in: `signed` when a sign stands before it, and `whole` when it
has neither fraction nor exponent. -/
structure Numeral where
  number : Number
  signed : Bool
  whole : Bool
  deriving DecidableEq, Repr, Inhabited

/-- The integer that a numeral denotes, if it is written as one, held within the range of 32 bits. -/
def Numeral.integer? (n : Numeral) : Option Int :=
  if n.whole then some (max (-2147483648) (min 2147483647 (n.number.numerator 0))) else none

/-- The three kinds of brackets. -/
inductive Bracket
  | round
  | square
  | curly
  deriving DecidableEq, Repr, Inhabited

/-- A token. Space and comments are tokens too. A function token ends with a round bracket, and a `hash`
may or may not be fit to name an element. -/
inductive Token
  | ident (name : String)
  | atKeyword (name : String)
  | hash (name : String) (names : Bool)
  | text (content : String)
  | url (address : String)
  | delim (c : Char)
  | number (n : Numeral)
  | percentage (n : Numeral)
  | dimension (n : Numeral) (unit : String)
  | space
  | comment (content : String)
  | colon
  | semicolon
  | comma
  | includes
  | dashes
  | begins
  | ends
  | holds
  | commentOpen
  | commentClose
  | function (name : String)
  | opening (bracket : Bracket)
  | closing (bracket : Bracket)
  | badUrl (content : String)
  | badText (content : String)
  deriving DecidableEq, Repr, Inhabited

namespace Token

/-- Space and comments, which separate tokens and mean nothing else. -/
def isSpace : Token → Bool
  | space | comment _ => true
  | _ => false

/-- Tokens that no text of values may hold: brackets without partner, and what was left open. -/
def isStray : Token → Bool
  | closing _ | badUrl _ | badText _ => true
  | _ => false

/-- A named record of a numeral, with further fields behind it. -/
def showNumeral (kind field : String) (value : Number) (n : Numeral) (more : List Char) : List Char :=
  let whole :=
    match n.integer? with
    | some value => "Some(".toList ++ (toString value).toList ++ [')']
    | none => "None".toList
  kind.toList ++ " \x7b has_sign: ".toList ++ (if n.signed then "true" else "false").toList ++ ", ".toList ++
    field.toList ++ ": ".toList ++ value.fullText ++ ", int_value: ".toList ++ whole ++ more ++
    " \x7d".toList

/-- The name of a kind of token with the text it holds. -/
def showText (kind content : String) : List Char :=
  kind.toList ++ '(' :: (shown content).toList ++ [')']

def describe : Token → List Char
  | ident name => showText "Ident" name
  | atKeyword name => showText "AtKeyword" name
  | hash name names => showText (if names then "IDHash" else "Hash") name
  | text content => showText "QuotedString" content
  | url address => showText "UnquotedUrl" address
  | delim c => "Delim('".toList ++ showChar c ++ "')".toList
  | number n => showNumeral "Number" "value" n.number n []
  | percentage n => showNumeral "Percentage" "unit_value" (n.number.shiftDown 2) n []
  | dimension n unit =>
    showNumeral "Dimension" "value" n.number n (", unit: ".toList ++ (shown unit).toList)
  | space => "WhiteSpace(\" \")".toList
  | comment content => showText "Comment" content
  | colon => "Colon".toList
  | semicolon => "Semicolon".toList
  | comma => "Comma".toList
  | includes => "IncludeMatch".toList
  | dashes => "DashMatch".toList
  | begins => "PrefixMatch".toList
  | ends => "SuffixMatch".toList
  | holds => "SubstringMatch".toList
  | commentOpen => "CDO".toList
  | commentClose => "CDC".toList
  | function name => showText "Function" name
  | opening .round => "ParenthesisBlock".toList
  | opening .square => "SquareBracketBlock".toList
  | opening .curly => "CurlyBracketBlock".toList
  | closing .round => "CloseParenthesis".toList
  | closing .square => "CloseSquareBracket".toList
  | closing .curly => "CloseCurlyBracket".toList
  | badUrl content => showText "BadUrl" content
  | badText content => showText "BadString" content

end Token

end MarkupModule.Style
