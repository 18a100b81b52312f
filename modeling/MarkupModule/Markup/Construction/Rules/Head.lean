import MarkupModule.Markup.Construction.Formatting
import MarkupModule.Text.Ascii

/-! The rules up to the head of a document and behind it. Elements that a document leaves out are
inserted where the first content calls for them. -/

namespace MarkupModule.Markup.Construction.Builder

open MarkupModule.Text

/-- A second `html` tag only adds attributes, and none inside a template. -/
def repeatRoot (b : Builder) (tag : Tag) : Outcome :=
  if b.hasOpen "template" then .done b
  else
    match b.openElements.getLast? with
    | some root => .done (b.mergeAttributes root.serial tag.attributes)
    | none => .done b

/-- Begins a template: its contents are read by rules of their own. -/
def openTemplate (b : Builder) (tag : Tag) : Outcome :=
  let inserted := b.insertTag tag
  .done { inserted.markFormatting.forbidFrameset with
    mode := .inTemplate
    templateModes := .inTemplate :: inserted.templateModes }

/-- Closes a template and everything inside it. -/
def closeTemplate (b : Builder) : Builder :=
  let closed := b.closeNamed "template"
  { closed.dropRecentFormatting with templateModes := closed.templateModes.drop 1 }.resetMode

def endTemplate (b : Builder) : Outcome :=
  if b.hasOpen "template" then .done (b.closeImplied endsImpliedByTemplate).closeTemplate
  else .done b

/-- The end of the input inside templates closes them one after the other. -/
def endInsideTemplates (b : Builder) : Outcome :=
  if b.hasOpen "template" then .again b.closeTemplate .endOfInput else .done b

/-- The start tags that every mode leaves to the head. -/
def metadataStart (b : Builder) (tag : Tag) : Outcome :=
  if ["base", "basefont", "bgsound", "link", "meta"].contains tag.name then
    .done (b.insertTagClosed tag)
  else if tag.name == "title" then .done (b.insertTextElement tag (.referenceText "title"))
  else if ["noframes", "style", "noscript"].contains tag.name then
    .done (b.insertTextElement tag (.rawText tag.name))
  else if tag.name == "script" then .done (b.insertTextElement tag .scriptText)
  else b.openTemplate tag

def initial (b : Builder) (event : Event) : Outcome :=
  match event with
  | .blank _ => .done b
  | .comment content => .done (b.addDocumentComment content)
  | _ => .again { b with olderRules := true, mode := .beforeHtml } event

def beforeHtml (b : Builder) (event : Event) : Outcome :=
  let implied := Outcome.again ((b.insertRoot []).enter .beforeHead) event
  match event with
  | .blank _ => .done b
  | .comment content => .done (b.addDocumentComment content)
  | .startTag tag =>
    if tag.name == "html" then .done ((b.insertRoot tag.attributes).enter .beforeHead) else implied
  | .endTag name => if ["head", "body", "html", "br"].contains name then implied else .done b
  | _ => implied

/-- The state with the innermost open element as the head. -/
def withHead (b : Builder) : Builder :=
  { b with head := b.openElements.head?, mode := .inHead }

def beforeHead (b : Builder) (event : Event) : Outcome :=
  let implied := Outcome.again (b.insertImplied "head").withHead event
  match event with
  | .blank _ => .done b
  | .comment content => .done (b.addComment content)
  | .startTag tag =>
    if tag.name == "html" then b.repeatRoot tag
    else if tag.name == "head" then .done (b.insertTag tag).withHead
    else implied
  | .endTag name => if ["head", "body", "html", "br"].contains name then implied else .done b
  | _ => implied

def inHead (b : Builder) (event : Event) : Outcome :=
  let leave := Outcome.again (b.pop.enter .afterHead) event
  match event with
  | .blank run => .done (b.addText run)
  | .comment content => .done (b.addComment content)
  | .startTag tag =>
    if tag.name == "html" then b.repeatRoot tag
    else if metadataNames.contains tag.name || tag.name == "noscript" then b.metadataStart tag
    else if tag.name == "head" then .done b
    else leave
  | .endTag name =>
    if name == "head" then .done (b.pop.enter .afterHead)
    else if ["body", "html", "br"].contains name then leave
    else if name == "template" then b.endTemplate
    else .done b
  | _ => leave

/-- Metadata behind the head goes into the head, which is open again for it alone. -/
def reopenHead (b : Builder) (tag : Tag) : Outcome :=
  match b.head with
  | none => .done b
  | some head =>
    match { b with openElements := head :: b.openElements }.metadataStart tag with
    | .done b' => .done (b'.forgetOpen head.serial)
    | .again b' event => .again (b'.forgetOpen head.serial) event

def afterHead (b : Builder) (event : Event) : Outcome :=
  let implied := Outcome.again ((b.insertImplied "body").enter .inBody) event
  match event with
  | .blank run => .done (b.addText run)
  | .comment content => .done (b.addComment content)
  | .startTag tag =>
    if tag.name == "html" then b.repeatRoot tag
    else if tag.name == "body" then .done ((b.insertTag tag).forbidFrameset.enter .inBody)
    else if tag.name == "frameset" then .done ((b.insertTag tag).enter .inFrameset)
    else if metadataNames.contains tag.name then b.reopenHead tag
    else if tag.name == "head" then .done b
    else implied
  | .endTag name =>
    if ["body", "html", "br"].contains name then implied
    else if name == "template" then b.endTemplate
    else .done b
  | _ => implied

def inText (b : Builder) (event : Event) : Outcome :=
  match event with
  | .blank run => .done (b.addText run)
  | .words run => .done (b.addText run)
  | .endTag _ => .done (b.pop.enter b.returnMode)
  | .endOfInput => .again (b.pop.enter b.returnMode) event
  | _ => .done b

end MarkupModule.Markup.Construction.Builder
