import MarkupModule.Markup.Construction.Branch
import MarkupModule.Markup.Construction.Groups

/-! The state of tree construction: the tree so far, the elements that are still open, the formatting
that the next block takes up, and the insertion mode, which says what is expected next. This module holds
the operations that the rules of all modes share. -/

namespace MarkupModule.Markup.Construction

/-- What part of a document is expected next. -/
inductive Mode where
  | initial
  | beforeHtml
  | beforeHead
  | inHead
  | afterHead
  | inBody
  | text
  | inTable
  | inTableText
  | inCaption
  | inColumnGroup
  | inTableBody
  | inRow
  | inCell
  | inSelect
  | inSelectInTable
  | inTemplate
  | afterBody
  | inFrameset
  | afterFrameset
  | afterAfterBody
  | afterAfterFrameset
  deriving DecidableEq, Repr, Inhabited

/-- What tree construction is told about the input: a token, with text split into white space and other
text, or the end of the input. -/
inductive Event where
  | startTag (tag : Tag)
  | endTag (name : String)
  | blank (run : String)
  | words (run : String)
  | nul
  | comment (content : String)
  | endOfInput
  deriving DecidableEq, Repr, Inhabited

/-- Text in a table that is held back: a run of white space or of other characters. -/
structure HeldRun where
  isBlank : Bool
  content : String
  deriving DecidableEq, Repr, Inhabited

def HeldRun.event (run : HeldRun) : Event :=
  if run.isBlank then .blank run.content else .words run.content

/-- An element that may still get children. -/
structure OpenElement where
  serial : Nat
  name : ElementName
  deriving DecidableEq, Repr, Inhabited

/-- An entry in the list of formatting to take up again: an element, or a mark that nothing is taken up
across. -/
inductive Formatting where
  | mark
  | element (serial : Nat) (tag : Tag)
  deriving DecidableEq, Repr, Inhabited

/-- The state of tree construction. Open elements and formatting are listed innermost and latest
first. -/
structure Builder where
  branches : List Branch := []
  nextSerial : Nat := 0
  openElements : List OpenElement := []
  formatting : List Formatting := []
  mode : Mode := .initial
  returnMode : Mode := .initial
  templateModes : List Mode := []
  content : ContentMode := .markup
  head : Option OpenElement := none
  form : Option OpenElement := none
  framesetAllowed : Bool := true
  fosterParenting : Bool := false
  skipLineFeed : Bool := false
  olderRules : Bool := false
  tableText : List HeldRun := []
  deriving Inhabited

/-- The result of a rule: the event is dealt with, or it is to be looked at again in the mode that the
state is in now. -/
inductive Outcome where
  | done (builder : Builder)
  | again (builder : Builder) (event : Event)

namespace Builder

def enter (b : Builder) (mode : Mode) : Builder :=
  { b with mode }

/-- Whether the innermost open element satisfies a condition. -/
def currentIs (b : Builder) (condition : ElementName → Bool) : Bool :=
  match b.openElements with
  | e :: _ => condition e.name
  | [] => false

/-- Whether an HTML element of this name is open. -/
def hasOpen (b : Builder) (name : String) : Bool :=
  b.openElements.any fun e => isHtml name e.name

/-- Whether, from the innermost open element outwards, a target is found before the scope ends. -/
def reaches (ends : ElementName → Bool) (target : OpenElement → Bool) : List OpenElement → Bool
  | [] => false
  | e :: rest => target e || (!ends e.name && reaches ends target rest)

/-- Whether an HTML element of this name is in scope. -/
def inScope (b : Builder) (ends : ElementName → Bool) (name : String) : Bool :=
  reaches ends (fun e => isHtml name e.name) b.openElements

def pop (b : Builder) : Builder :=
  { b with openElements := b.openElements.drop 1 }

/-- Closes open elements up to and including the first that satisfies a condition. -/
def popThrough (b : Builder) (condition : ElementName → Bool) : Builder :=
  { b with openElements := (b.openElements.dropWhile fun e => !condition e.name).drop 1 }

/-- Closes open elements up to the first that satisfies a condition. -/
def popTo (b : Builder) (condition : ElementName → Bool) : Builder :=
  { b with openElements := b.openElements.dropWhile fun e => !condition e.name }

/-- Closes the innermost elements while their end tags may be left out. -/
def closeImplied (b : Builder) (implied : ElementName → Bool) : Builder :=
  { b with openElements := b.openElements.dropWhile fun e => implied e.name }

/-- Closes the innermost elements whose end tags may be left out, except those of one name. -/
def closeImpliedExcept (b : Builder) (name : String) : Builder :=
  b.closeImplied fun e => !isHtml name e && endsImplied e

/-- Closes an element of this name and everything inside it. -/
def closeNamed (b : Builder) (name : String) : Builder :=
  b.popThrough (isHtml name)

/-- Takes an element off the list of open elements, wherever it is there. -/
def forgetOpen (b : Builder) (serial : Nat) : Builder :=
  { b with openElements := b.openElements.filter fun e => e.serial != serial }

/-- Where a new node goes: to the document, into an element, into the contents of a template, or before
a table, or into the element around it when the table has no place in the tree. -/
inductive Place where
  | document
  | within (serial : Nat)
  | contentsOf (serial : Nat)
  | beforeTable (table around : Nat)

def placeIn (e : OpenElement) : Place :=
  if isHtml "template" e.name then .contentsOf e.serial else .within e.serial

/-- The place for content that a table does not take: before the innermost table, or inside a template
that is further in. -/
def fosterPlace : List OpenElement → Place
  | [] => .document
  | [e] => .within e.serial
  | e :: around :: rest =>
    if isHtml "template" e.name then .contentsOf e.serial
    else if isHtml "table" e.name then .beforeTable e.serial around.serial
    else fosterPlace (around :: rest)

/-- The place for a new node with an open element as its intended parent. -/
def placeFor (b : Builder) (target : OpenElement) : Place :=
  if b.fosterParenting && htmlIn ["table", "tbody", "tfoot", "thead", "tr"] target.name then
    fosterPlace b.openElements
  else placeIn target

def place (b : Builder) : Place :=
  match b.openElements with
  | [] => .document
  | e :: _ => b.placeFor e

def insertAt (b : Builder) (new : Branch) : Place → Builder
  | .document => { b with branches := Branch.append new b.branches }
  | .within serial =>
    { b with branches := Branch.adjustAll serial (Branch.append new) b.branches }
  | .contentsOf serial =>
    { b with branches := Branch.adjustAll serial (Branch.appendToContents new) b.branches }
  | .beforeTable table around =>
    if (Branch.findAny? table b.branches).isSome then
      { b with branches := Branch.insertInsideEach table new b.branches }
    else { b with branches := Branch.adjustAll around (Branch.append new) b.branches }

def insert (b : Builder) (new : Branch) : Builder :=
  b.insertAt new b.place

def addText (b : Builder) (run : String) : Builder :=
  b.insert (.text run)

def addComment (b : Builder) (content : String) : Builder :=
  b.insert (.comment content)

def addDocumentComment (b : Builder) (content : String) : Builder :=
  b.insertAt (.comment content) .document

def addRootComment (b : Builder) (content : String) : Builder :=
  match b.openElements.getLast? with
  | some root => b.insertAt (.comment content) (.within root.serial)
  | none => b

/-- A new branch for an element; a template gets its contents with it. -/
def newBranch (serial : Nat) (name : ElementName) (attributes : List Attribute) : Branch :=
  .element serial name attributes (if isHtml "template" name then [.contents []] else [])

def upcoming (b : Builder) (name : ElementName) : OpenElement :=
  ⟨b.nextSerial, name⟩

/-- Inserts an element that is closed at once. -/
def insertClosed (b : Builder) (name : ElementName) (attributes : List Attribute) : Builder :=
  { b with nextSerial := b.nextSerial + 1 }.insert (newBranch b.nextSerial name attributes)

def insertOpen (b : Builder) (name : ElementName) (attributes : List Attribute) : Builder :=
  let inserted := b.insertClosed name attributes
  { inserted with openElements := b.upcoming name :: inserted.openElements }

/-- Inserts the HTML element for a tag and leaves it open. -/
def insertTag (b : Builder) (tag : Tag) : Builder :=
  b.insertOpen ⟨.html, tag.name⟩ (tag.attributes.map Attribute.ofPair)

/-- Inserts the HTML element for a tag and closes it at once. -/
def insertTagClosed (b : Builder) (tag : Tag) : Builder :=
  b.insertClosed ⟨.html, tag.name⟩ (tag.attributes.map Attribute.ofPair)

/-- Inserts an HTML element that no tag asks for. -/
def insertImplied (b : Builder) (name : String) : Builder :=
  b.insertTag ⟨name, [], false⟩

/-- Inserts the element for a tag whose contents are text, and reads on in that way. -/
def insertTextElement (b : Builder) (tag : Tag) (content : ContentMode) : Builder :=
  { b.insertTag tag with returnMode := b.mode, mode := .text, content }

/-- Inserts the outermost element of the document. -/
def insertRoot (b : Builder) (attributes : List (String × String)) : Builder :=
  let root := b.upcoming ⟨.html, "html"⟩
  { b with nextSerial := b.nextSerial + 1, openElements := [root] }.insertAt
    (newBranch root.serial root.name (attributes.map Attribute.ofPair)) .document

/-- Adds those attributes of a tag to an element that the element does not have. -/
def mergeAttributes (b : Builder) (serial : Nat) (attributes : List (String × String)) : Builder :=
  { b with
    branches := Branch.addAttributesIn serial (attributes.map Attribute.ofPair) b.branches }

/-- The open body, which stands directly inside the outermost element. -/
def openBody? (b : Builder) : Option OpenElement :=
  match b.openElements.reverse with
  | _ :: e :: _ => if isHtml "body" e.name then some e else none
  | _ => none

/-- A frameset is no longer allowed in place of a body. -/
def forbidFrameset (b : Builder) : Builder :=
  { b with framesetAllowed := false }

/-- Closes a paragraph, together with what may be left open inside it. -/
def closeParagraph (b : Builder) : Builder :=
  (b.closeImpliedExcept "p").closeNamed "p"

/-- Closes a paragraph that is in scope, if there is one. -/
def closeParagraphInScope (b : Builder) : Builder :=
  if b.inScope endsButtonScope "p" then b.closeParagraph else b

def modeFor (b : Builder) : List OpenElement → Mode
  | [] => .inBody
  | e :: rest =>
    if e.name.space != .html then b.modeFor rest
    else
      let name := e.name.name
      let last := rest.isEmpty
      if name == "select" then
        match rest.find? fun a => htmlIn ["template", "table"] a.name with
        | some a => if isHtml "table" a.name then .inSelectInTable else .inSelect
        | none => .inSelect
      else if (name == "td" || name == "th") && !last then .inCell
      else if name == "tr" then .inRow
      else if ["tbody", "thead", "tfoot"].contains name then .inTableBody
      else if name == "caption" then .inCaption
      else if name == "colgroup" then .inColumnGroup
      else if name == "table" then .inTable
      else if name == "template" then b.templateModes.head?.getD .inBody
      else if name == "head" && !last then .inHead
      else if name == "body" then .inBody
      else if name == "frameset" then .inFrameset
      else if name == "html" then if b.head.isNone then .beforeHead else .afterHead
      else b.modeFor rest

/-- Enters the mode that the open elements ask for. -/
def resetMode (b : Builder) : Builder :=
  b.enter (b.modeFor b.openElements)

end Builder

end MarkupModule.Markup.Construction
