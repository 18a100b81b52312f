import MarkupModule.Markup.Construction.Rules.Table

/-! The rules for selections, templates, framesets and what stands behind the body. -/

namespace MarkupModule.Markup.Construction.Builder

def popOption (b : Builder) : Builder :=
  if b.currentIs (isHtml "option") then b.pop else b

/-- Closes a group of options that is innermost. -/
def popOptionGroup (b : Builder) : Builder :=
  if b.currentIs (isHtml "optgroup") then b.pop else b

def closeSelect (b : Builder) : Builder :=
  if b.inScope endsSelectScope "select" then (b.closeNamed "select").resetMode else b

/-- In a selection, which takes options and drops all other tags. -/
def inSelect (b : Builder) (event : Event) : Outcome :=
  match event with
  | .nul => .done b
  | .blank run => .done (b.addText run)
  | .words run => .done (b.addText run)
  | .comment content => .done (b.addComment content)
  | .startTag tag =>
    if tag.name == "html" then b.repeatRoot tag
    else if tag.name == "option" then .done (b.popOption.insertTag tag)
    else if tag.name == "optgroup" then .done (b.popOption.popOptionGroup.insertTag tag)
    else if tag.name == "hr" then .done (b.popOption.popOptionGroup.insertTagClosed tag)
    else if tag.name == "select" then .done b.closeSelect
    else if ["input", "keygen", "textarea"].contains tag.name then
      if b.inScope endsSelectScope "select" then .again b.closeSelect event else .done b
    else if ["script", "template"].contains tag.name then b.metadataStart tag
    else .done b
  | .endTag name =>
    if name == "optgroup" then
      let inGroup :=
        match b.openElements with
        | e :: around :: _ => isHtml "option" e.name && isHtml "optgroup" around.name
        | _ => false
      .done (if inGroup then b.pop.popOptionGroup else b.popOptionGroup)
    else if name == "option" then .done b.popOption
    else if name == "select" then .done b.closeSelect
    else if name == "template" then b.endTemplate
    else .done b
  | .endOfInput => b.inBody event

/-- In a selection inside a table, which a part of the table closes. -/
def inSelectInTable (b : Builder) (event : Event) : Outcome :=
  let names := ["caption", "table", "tbody", "tfoot", "thead", "tr", "td", "th"]
  let leave := Outcome.again (b.closeNamed "select").resetMode event
  match event with
  | .startTag tag => if names.contains tag.name then leave else b.inSelect event
  | .endTag name =>
    if names.contains name then if b.inScope endsTableScope name then leave else .done b
    else b.inSelect event
  | _ => b.inSelect event

/-- Reads on in a template by the rules of another mode. -/
def switchTemplate (b : Builder) (mode : Mode) (event : Event) : Outcome :=
  .again { b with mode, templateModes := mode :: b.templateModes.drop 1 } event

/-- In a template, before it is known what it holds. -/
def inTemplate (b : Builder) (event : Event) : Outcome :=
  match event with
  | .blank _ => b.inBody event
  | .words _ => b.inBody event
  | .comment _ => b.inBody event
  | .nul => .done b
  | .startTag tag =>
    if metadataNames.contains tag.name then b.metadataStart tag
    else if tag.name == "col" then b.switchTemplate .inColumnGroup event
    else if tableGroupNames.contains tag.name then b.switchTemplate .inTable event
    else if tag.name == "tr" then b.switchTemplate .inTableBody event
    else if ["td", "th"].contains tag.name then b.switchTemplate .inRow event
    else b.switchTemplate .inBody event
  | .endTag name => if name == "template" then b.endTemplate else .done b
  | .endOfInput => b.endInsideTemplates

def afterBody (b : Builder) (event : Event) : Outcome :=
  match event with
  | .blank _ => b.inBody event
  | .comment content => .done (b.addRootComment content)
  | .startTag tag =>
    if tag.name == "html" then b.repeatRoot tag else .again (b.enter .inBody) event
  | .endTag name =>
    if name == "html" then .done (b.enter .afterAfterBody) else .again (b.enter .inBody) event
  | .endOfInput => .done b
  | _ => .again (b.enter .inBody) event

def inFrameset (b : Builder) (event : Event) : Outcome :=
  match event with
  | .blank run => .done (b.addText run)
  | .comment content => .done (b.addComment content)
  | .startTag tag =>
    if tag.name == "html" then b.repeatRoot tag
    else if tag.name == "frameset" then .done (b.insertTag tag)
    else if tag.name == "frame" then .done (b.insertTagClosed tag)
    else if tag.name == "noframes" then b.metadataStart tag
    else .done b
  | .endTag name =>
    if name == "frameset" && b.openElements.length != 1 then
      let closed := b.pop
      .done (if closed.currentIs (isHtml "frameset") then closed else closed.enter .afterFrameset)
    else .done b
  | _ => .done b

def afterFrameset (b : Builder) (event : Event) : Outcome :=
  match event with
  | .blank run => .done (b.addText run)
  | .comment content => .done (b.addComment content)
  | .startTag tag =>
    if tag.name == "html" then b.repeatRoot tag
    else if tag.name == "noframes" then b.metadataStart tag
    else .done b
  | .endTag name => if name == "html" then .done (b.enter .afterAfterFrameset) else .done b
  | _ => .done b

/-- Behind the end of a document with a body. -/
def afterAfterBody (b : Builder) (event : Event) : Outcome :=
  match event with
  | .blank _ => b.inBody event
  | .comment content => .done (b.addDocumentComment content)
  | .startTag tag =>
    if tag.name == "html" then b.repeatRoot tag else .again (b.enter .inBody) event
  | .endOfInput => .done b
  | _ => .again (b.enter .inBody) event

/-- Behind the end of a document with a frameset. -/
def afterAfterFrameset (b : Builder) (event : Event) : Outcome :=
  match event with
  | .blank _ => b.inBody event
  | .comment content => .done (b.addDocumentComment content)
  | .startTag tag =>
    if tag.name == "html" then b.repeatRoot tag
    else if tag.name == "noframes" then b.metadataStart tag
    else .done b
  | _ => .done b

/-- The rule of the mode that the state is in. -/
def byMode (b : Builder) (event : Event) : Outcome :=
  match b.mode with
  | .initial => b.initial event
  | .beforeHtml => b.beforeHtml event
  | .beforeHead => b.beforeHead event
  | .inHead => b.inHead event
  | .afterHead => b.afterHead event
  | .inBody => b.inBody event
  | .text => b.inText event
  | .inTable => b.inTable event
  | .inTableText => b.inTableText event
  | .inCaption => b.inCaption event
  | .inColumnGroup => b.inColumnGroup event
  | .inTableBody => b.inTableBody event
  | .inRow => b.inRow event
  | .inCell => b.inCell event
  | .inSelect => b.inSelect event
  | .inSelectInTable => b.inSelectInTable event
  | .inTemplate => b.inTemplate event
  | .afterBody => b.afterBody event
  | .inFrameset => b.inFrameset event
  | .afterFrameset => b.afterFrameset event
  | .afterAfterBody => b.afterAfterBody event
  | .afterAfterFrameset => b.afterAfterFrameset event

end MarkupModule.Markup.Construction.Builder
