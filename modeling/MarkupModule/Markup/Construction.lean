import MarkupModule.Markup.Construction.LayoutMode
import MarkupModule.Markup.Construction.Rules.Foreign
import MarkupModule.Markup.Lexer
import MarkupModule.Text.LineEnding

/-! Reading a document. The lexer and tree construction take turns: the tree decides how the text behind
a tag is read, and the tokens change the tree. Every text is a document; what is missing or misplaced
is supplied or moved by the rules. -/

namespace MarkupModule.Markup.Construction

open MarkupModule.Text

/-- A text cut into runs of white space and of other text. -/
def runs (s : List Char) : List Event :=
  match s with
  | [] => []
  | c :: cs =>
    let same := cs.takeWhile fun d => isSpace d == isSpace c
    let run := String.ofList (c :: same)
    (if isSpace c then .blank run else .words run) ::
      runs (cs.dropWhile fun d => isSpace d == isSpace c)
termination_by s.length
decreasing_by
  have : (cs.dropWhile fun d => isSpace d == isSpace c).length ≤ cs.length :=
    (List.dropWhile_suffix _).length_le
  simp only [List.length_cons]
  omega

namespace Builder

/-- Applies rules to an event until it is dealt with; the first argument bounds how often the mode
changes on the way. -/
def settle : Nat → Builder → Event → Builder
  | 0, b, _ => b
  | n + 1, b, event =>
    match if b.readsForeign event then b.inForeign event else b.byMode event with
    | .done b' => b'
    | .again b' event' => settle n b' event'

/-- Deals with an event. Each change of mode but a few closes an open element or a template. -/
def handle (b : Builder) (event : Event) : Builder :=
  settle (2 * (b.openElements.length + b.templateModes.length) + 16) b event

/-- Deals with a document type, which counts only at the start of a document. -/
def handleDoctype (b : Builder) (declaration : DocumentType) : Builder :=
  if b.mode == .initial then
    let inserted := b.insertAt
      (.doctype (declaration.name.getD "") (declaration.publicId.getD "")
        (declaration.systemId.getD "")) .document
    { inserted with olderRules := asksForOlderRules declaration, mode := .beforeHtml }
  else b

/-- Deals with a token. A line feed directly behind some start tags does not count. -/
def receive (b : Builder) (token : Token) : Builder :=
  let b' := { b with skipLineFeed := false }
  match token with
  | .startTag tag => b'.handle (.startTag tag)
  | .endTag name => { b' with content := .markup }.handle (.endTag name)
  | .text run =>
    let s := if b.skipLineFeed && run.toList.head? == some '\n' then run.toList.drop 1 else run.toList
    (runs s).foldl handle b'
  | .nul => b'.handle .nul
  | .comment content => b'.handle (.comment content)
  | .doctype declaration => b'.handleDoctype declaration

/-- Reads the rest of a document from a state. -/
def read (b : Builder) (s : List Char) : Builder :=
  match s with
  | [] => b.handle .endOfInput
  | c :: cs =>
    let lexed := Lexer.first b.content b.allowsSections c cs
    (lexed.tokens.foldl receive b).read lexed.rest
termination_by s.length
decreasing_by exact Lexer.length_first_lt b.content b.allowsSections c cs

end Builder

/-- The text of a document as it is read: without a byte order mark at its start, every line ending a
line feed. -/
def prepare (source : String) : List Char :=
  match source.toList with
  | '\uFEFF' :: rest => normalizeLineEndings rest
  | s => normalizeLineEndings s

def parse (source : String) : List Node :=
  Branch.toNodes ((default : Builder).read (prepare source)).branches

end MarkupModule.Markup.Construction
