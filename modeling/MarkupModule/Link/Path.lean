import MarkupModule.Text.Ascii

/-! Paths of links and scripts. A path is *external* when it names its own host or scheme; all other
paths are local to the component and become import specifiers. -/

namespace MarkupModule.Link

/-- Characters that are ignored at both ends of an address. -/
def isControlOrSpace (c : Char) : Bool :=
  c.toNat ≤ 0x20

/-- Characters that are ignored everywhere in an address. -/
def isLineBreakOrTab (c : Char) : Bool :=
  c == '\t' || c == '\n' || c == '\r'

def significant (path : List Char) : List Char :=
  (((path.dropWhile isControlOrSpace).reverse.dropWhile isControlOrSpace).reverse).filter
    fun c => !isLineBreakOrTab c

/-- Whether an address begins with a scheme: a letter, then letters, digits and the signs plus, hyphen
and dot, up to a colon. -/
def hasScheme (address : List Char) : Bool :=
  match address with
  | [] => false
  | c :: cs =>
    c.isAlpha &&
      (cs.dropWhile fun d => d.isAlphanum || d == '+' || d == '-' || d == '.').head? == some ':'

/-- Whether a path names its own host or scheme. -/
def isExternal (path : String) : Bool :=
  match path.toList with
  | '/' :: '/' :: _ => true
  | s => hasScheme (significant s)

/-- The import specifier for a path. A path that begins with a letter is meant relative to the
component, while a bundler would take it for the name of a package. -/
def relativeSpecifier (path : String) : String :=
  match path.toList with
  | c :: _ => if c.isAlpha then "./" ++ path else path
  | [] => path

end MarkupModule.Link
