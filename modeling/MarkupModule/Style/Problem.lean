import MarkupModule.Style.Component

/-! Why a style text is refused, and where. -/

namespace MarkupModule.Style

open MarkupModule.Text

/-- The causes for which style text is refused. Causes that name a token hold it. -/
inductive Cause
  | endOfInput
  | unexpected (found : Token)
  | unknownRule (name : String)
  | badMediaQuery
  | badBody
  | lateImport
  | lateNamespace
  | emptySelector
  | danglingCombinator
  | className (found : Token)
  | pseudoName (found : Token)
  | attributeName (found : Token)
  | attributeOperator (found : Token)
  | attributeValue (found : Token)
  | afterPseudoElement (found : Token)
  | selectorState
  deriving DecidableEq, Repr, Inhabited

def Cause.message : Cause → List Char
  | endOfInput => "Unexpected end of input".toList
  | unexpected found => "Unexpected token ".toList ++ found.describe
  | unknownRule name => "Unknown at rule: @".toList ++ name.toList
  | badMediaQuery => "Invalid media query".toList
  | badBody => "Invalid @ rule body".toList
  | lateImport =>
    "@import rules must precede all rules aside from @charset and @layer statements".toList
  | lateNamespace =>
    "@namespace rules must precede all rules aside from @charset, @import, and @layer statements".toList
  | emptySelector => "Invalid empty selector".toList
  | danglingCombinator => "Invalid dangling combinator in selector".toList
  | className found => "Expected identifier in class selector, got ".toList ++ found.describe
  | pseudoName found => "Invalid token in pseudo element: ".toList ++ found.describe
  | attributeName found => "No qualified name in attribute selector: ".toList ++ found.describe ++ ['.']
  | attributeOperator found => "Unexpected token in attribute selector: ".toList ++ found.describe
  | attributeValue found => "Invalid value in attribute selector: ".toList ++ found.describe
  | afterPseudoElement found =>
    "Pseudo-elements like '::before' or '::after' can't be followed by selectors like '".toList ++
      found.describe ++ ['\'']
  | selectorState => "Invalid state".toList

/-- A cause and the place where it was found, told by how many characters are left from there. -/
structure Problem where
  cause : Cause
  left : Nat
  deriving DecidableEq, Repr, Inhabited

/-- A position for readers: lines from zero, columns from one in units of UTF-16. -/
structure Position where
  line : Nat
  column : Nat
  deriving DecidableEq, Repr, Inhabited

/-- The position behind a character; `next` is the character after it. A carriage return before a line
feed does not end a line. -/
def Position.behind (p : Position) (c : Char) (next : Option Char) : Position :=
  if c = '\r' && next == some '\n' then p
  else if Lexer.isNewline c then ⟨p.line + 1, 1⟩
  else ⟨p.line, p.column + (if 0x10000 ≤ c.toNat then 2 else 1)⟩

/-- The position reached after `n` characters of a text. -/
def Position.after (p : Position) : Nat → List Char → Position
  | n + 1, c :: cs => Position.after (p.behind c cs.head?) n cs
  | _, _ => p

/-- The message about a problem found in a text. -/
def Problem.message (problem : Problem) (css : List Char) : String :=
  let position := Position.after ⟨0, 1⟩ (css.length - problem.left) css
  String.ofList (problem.cause.message ++ " at :".toList ++ Nat.toDigits 10 position.line ++
    ':' :: Nat.toDigits 10 position.column)

end MarkupModule.Style
