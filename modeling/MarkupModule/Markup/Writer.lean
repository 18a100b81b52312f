import MarkupModule.Failure
import MarkupModule.Markup.Node
import MarkupModule.Text.Ascii
import MarkupModule.Text.Blank
import MarkupModule.Text.Search

/-! Writing a node as markup, minified on the way. White space in text is collapsed to single spaces,
also across nodes that are left out; comments are dropped; style sheets and style attributes are
minified by an engine that may refuse them. Each of these can be switched off. -/

namespace MarkupModule.Markup

open MarkupModule.Text

/-- What is minified. `conservativeCollapse` keeps a space for text that is blank. -/
structure Minification where
  collapseWhitespace : Bool := true
  conservativeCollapse : Bool := true
  minifyStyle : Bool := true
  removeComments : Bool := true
  deriving DecidableEq, Repr, Inhabited

def Minification.none : Minification := ⟨false, false, false, false⟩

/-- The steps of minifying a style sheet. Each of them may refuse it. -/
inductive SheetStep where
  | parse
  | minify
  | print
  deriving DecidableEq, Repr, Inhabited

def SheetStep.operation : SheetStep → String
  | parse => "parse stylesheet"
  | minify => "minify stylesheet"
  | print => "print stylesheet"

/-- The steps of minifying the declarations of a style attribute that may refuse them. -/
inductive DeclarationStep where
  | parse
  | print
  deriving DecidableEq, Repr, Inhabited

def DeclarationStep.operation : DeclarationStep → String
  | parse => "parse style attribute"
  | print => "print style attribute"

/-- A minifier of styles: of whole style sheets and of the declarations in a style attribute. A refusal
names the step that refuses and gives the reason in words. -/
structure StyleEngine where
  stylesheet : String → Except (SheetStep × String) String
  declarations : String → Except (DeclarationStep × String) String

/-- Applies an engine to styles, of which blank ones need no engine. -/
def minifyStyle {Step : Type} (engine : String → Except (Step × String) String)
    (operation : Step → String) (css : String) : Except Failure String :=
  if isBlank css.toList then .ok ""
  else
    match engine css with
    | .ok minified => .ok minified
    | .error (step, cause) => .error ⟨.minify, "", operation step, some cause⟩

def StyleEngine.minifyStylesheet (engine : StyleEngine) (css : String) : Except Failure String :=
  minifyStyle engine.stylesheet SheetStep.operation css

/-- The minified declarations of a style attribute. -/
def StyleEngine.minifyDeclarations (engine : StyleEngine) (css : String) : Except Failure String :=
  minifyStyle engine.declarations DeclarationStep.operation css

/-- Every run of white space replaced by one space; a run that continues one before the text is
dropped. -/
def collapseBehind : Bool → List Char → List Char
  | _, [] => []
  | behindSpace, c :: cs =>
    if isSpace c then
      if behindSpace then collapseBehind true cs else ' ' :: collapseBehind true cs
    else c :: collapseBehind false cs

/-- Every run of white space replaced by one space. -/
def collapse (s : List Char) : List Char :=
  collapseBehind false s

/-- A character of text, written so that it is read back as text. -/
def escapeTextChar (c : Char) : List Char :=
  if c = '&' then "&amp;".toList
  else if c = '\u00a0' then "&nbsp;".toList
  else if c = '<' then "&lt;".toList
  else if c = '>' then "&gt;".toList
  else [c]

/-- Text, written so that it is read back as text. -/
def escapeText (s : List Char) : List Char :=
  s.flatMap escapeTextChar

/-- A character of an attribute value, written between double quotes. -/
def escapeAttributeChar (c : Char) : List Char :=
  if c = '&' then "&amp;".toList
  else if c = '\u00a0' then "&nbsp;".toList
  else if c = '"' then "&quot;".toList
  else [c]

/-- An attribute value, written between double quotes. -/
def escapeAttribute (s : List Char) : List Char :=
  s.flatMap escapeAttributeChar

/-- Whether a value is filled in when the component runs, so that it is no style yet. -/
def hasBinding (value : String) : Bool :=
  contains "\x7b\x7b".toList value.toList || contains "[[".toList value.toList

/-- Whether a comment is kept: conditional comments and those that begin with an exclamation mark. -/
def isKeptComment (content : String) : Bool :=
  startsWith "!".toList content.toList || startsWith "[if ".toList content.toList ||
    startsWith "<![endif]".toList content.toList

/-- Elements that are written without contents and end tag. -/
def voidNames : List String := [
  "area", "base", "basefont", "bgsound", "br", "col", "embed", "frame", "hr", "img", "input",
  "keygen", "link", "meta", "param", "source", "track", "wbr"]

def rawTextNames : List String := [
  "style", "script", "xmp", "iframe", "noembed", "noframes", "plaintext", "noscript"]

def keepsWhitespace (name : String) : Bool :=
  name == "pre" || name == "textarea"

/-- How nodes are written: what is minified, by which engine, and which nodes are left out. -/
structure Writer where
  minification : Minification
  engine : StyleEngine
  skips : Address → Bool

namespace Writer

/-- Text put behind what is written already, which is held last character first. -/
def put (s : List Char) (out : List Char) : List Char :=
  s.reverse ++ out

/-- The value of an attribute as it is written. -/
def attributeValue (w : Writer) (a : Attribute) : Except Failure String :=
  if a.name == "style" && w.minification.minifyStyle && !hasBinding a.value then
    w.engine.minifyDeclarations a.value
  else if a.name == "class" && w.minification.collapseWhitespace then
    .ok (String.ofList (collapse (trim a.value.toList)))
  else .ok a.value

def writeAttributes (w : Writer) (out : List Char) : List Attribute → Except Failure (List Char)
  | [] => .ok out
  | a :: rest => do
    let value ← w.attributeValue a
    let written := " ".toList ++ a.name.toList ++ "=\"".toList ++ escapeAttribute value.toList ++ ['"']
    w.writeAttributes (put written out) rest

/-- Writes text. A space that would follow a space is left out. -/
def writeText (w : Writer) (preserve : Bool) (out : List Char) (content : String) : List Char :=
  let s := content.toList
  if preserve || !w.minification.collapseWhitespace then put (escapeText s) out
  else if !w.minification.conservativeCollapse && isBlank s then out
  else
    let collapsed := collapse s
    let joined :=
      if out.head? == some ' ' && collapsed.head? == some ' ' then collapsed.drop 1 else collapsed
    put (escapeText joined) out

def writeComment (w : Writer) (out : List Char) (content : String) : List Char :=
  if !w.minification.removeComments || isKeptComment content then
    put ("<!--".toList ++ content.toList ++ "-->".toList) out
  else out

/-- The texts among the children from position `start` on, except those left out. -/
def rawText (w : Writer) (address : Address) (start : Nat) : List Node → List Char
  | [] => []
  | .text content :: rest =>
    (if w.skips (address ++ [start]) then [] else content.toList) ++
      w.rawText address (start + 1) rest
  | _ :: rest => w.rawText address (start + 1) rest

/-- The text of an element that holds no markup, as it is written. -/
def rawBody (w : Writer) (name : String) (raw : List Char) : Except Failure (List Char) :=
  if name == "style" && w.minification.minifyStyle then
    (w.engine.minifyStylesheet (String.ofList raw)).map String.toList
  else .ok raw

mutual

/-- Writes the node at an address. `preserve` keeps its white space. -/
def writeNode (w : Writer) (preserve : Bool) (address : Address) (out : List Char) :
    Node → Except Failure (List Char)
  | .element name attributes children =>
    if w.skips address then .ok out
    else do
      let tag := name.name
      let opened ← w.writeAttributes (put ('<' :: tag.toList) out) attributes
      let start := put ['>'] opened
      if voidNames.contains tag then .ok start
      else
        let inside ←
          if rawTextNames.contains tag then
            (w.rawBody tag (w.rawText address 0 children)).map fun body => put body start
          else w.writeNodes (preserve || keepsWhitespace tag) address 0 start children
        .ok (put ("</".toList ++ tag.toList ++ ['>']) inside)
  | .text content => .ok (if w.skips address then out else w.writeText preserve out content)
  | .comment content => .ok (if w.skips address then out else w.writeComment out content)
  | .doctype _ _ _ => .ok out
  | .contents children =>
    if w.skips address then .ok out else w.writeNodes preserve address 0 out children

/-- Writes the children of the node at an address from position `start` on. -/
def writeNodes (w : Writer) (preserve : Bool) (address : Address) (start : Nat) (out : List Char) :
    List Node → Except Failure (List Char)
  | [] => .ok out
  | node :: rest => do
    let out' ← w.writeNode preserve (address ++ [start]) out node
    w.writeNodes preserve address (start + 1) out' rest

end

def write (w : Writer) (located : Located) : Except Failure String :=
  (w.writeNode false located.address [] located.node).map fun out => String.ofList out.reverse

end Writer

end MarkupModule.Markup
