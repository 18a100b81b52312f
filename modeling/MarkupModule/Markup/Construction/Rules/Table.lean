import MarkupModule.Markup.Construction.Rules.Body

/-! The rules for tables. What a table does not take is put in front of it. -/

namespace MarkupModule.Markup.Construction.Builder

/-- Reads an event by the rules of the body, with content put in front of the table. -/
def inBodyFostered (b : Builder) (event : Event) : Outcome :=
  match { b with fosterParenting := true }.inBody event with
  | .done b' => .done { b' with fosterParenting := false }
  | .again b' event' => .again { b' with fosterParenting := false } event'

/-- Text in a table is held back until it is known whether it is white space only. -/
def tableCharacters (b : Builder) (event : Event) : Outcome :=
  if b.currentIs (htmlIn ["table", "tbody", "tfoot", "thead", "tr"]) then
    .again { b with returnMode := b.mode, mode := .inTableText, tableText := [] } event
  else b.inBodyFostered event

/-- Closes open elements up to one that a condition holds for, and begins an element there. -/
def openTablePart (b : Builder) (context : ElementName → Bool) (tag : Tag) (mode : Mode) : Outcome :=
  .done (((b.popTo context).insertTag tag).enter mode)

/-- The innermost table or what stands for it. -/
def isTableContext : ElementName → Bool := endsTableScope

/-- The innermost group of rows or what stands for it. -/
def isTableBodyContext : ElementName → Bool :=
  htmlIn ["tbody", "tfoot", "thead", "template", "html"]

def isRowContext : ElementName → Bool :=
  htmlIn ["tr", "template", "html"]

def tableStart (b : Builder) (tag : Tag) : Outcome :=
  let name := tag.name
  if name == "caption" then
    .done (((b.popTo isTableContext).markFormatting.insertTag tag).enter .inCaption)
  else if name == "colgroup" then b.openTablePart isTableContext tag .inColumnGroup
  else if name == "col" then
    .again (((b.popTo isTableContext).insertImplied "colgroup").enter .inColumnGroup) (.startTag tag)
  else if ["tbody", "tfoot", "thead"].contains name then
    b.openTablePart isTableContext tag .inTableBody
  else if ["td", "th", "tr"].contains name then
    .again (((b.popTo isTableContext).insertImplied "tbody").enter .inTableBody) (.startTag tag)
  else if name == "table" then
    if b.inScope endsTableScope "table" then .again (b.closeNamed "table").resetMode (.startTag tag)
    else .done b
  else if ["style", "script", "template"].contains name then b.metadataStart tag
  else if name == "input" then
    if isHiddenInput tag then .done (b.insertTagClosed tag) else b.inBodyFostered (.startTag tag)
  else if name == "form" then
    if b.hasOpen "template" || b.form.isSome then .done b
    else .done { b.insertTagClosed tag with form := some (b.upcoming ⟨.html, "form"⟩) }
  else b.inBodyFostered (.startTag tag)

def tableEnd (b : Builder) (name : String) : Outcome :=
  if name == "table" then
    if b.inScope endsTableScope "table" then .done (b.closeNamed "table").resetMode else .done b
  else if tableGroupNames.contains name || ["body", "html", "td", "th", "tr"].contains name then
    .done b
  else if name == "template" then b.endTemplate
  else b.inBodyFostered (.endTag name)

def inTable (b : Builder) (event : Event) : Outcome :=
  match event with
  | .nul => b.tableCharacters event
  | .blank _ => b.tableCharacters event
  | .words _ => b.tableCharacters event
  | .comment content => .done (b.addComment content)
  | .startTag tag => b.tableStart tag
  | .endTag name => b.tableEnd name
  | .endOfInput => b.inBody event

/-- Text that was held back, put in front of the table by the rules of the body. -/
def fosterText : List HeldRun → Builder → Builder
  | [], b => b
  | run :: rest, b =>
    match b.inBodyFostered run.event with
    | .done b' => fosterText rest b'
    | .again b' _ => fosterText rest b'

/-- Text that was held back, put where it stands. -/
def addHeldText : List HeldRun → Builder → Builder
  | [], b => b
  | run :: rest, b => addHeldText rest (b.addText run.content)

/-- While text in a table is held back. It stays in the table if it is white space only. -/
def inTableText (b : Builder) (event : Event) : Outcome :=
  match event with
  | .nul => .done b
  | .blank run => .done { b with tableText := b.tableText ++ [⟨true, run⟩] }
  | .words run => .done { b with tableText := b.tableText ++ [⟨false, run⟩] }
  | _ =>
    let held := b.tableText
    let released := { b with tableText := [] }
    let flushed :=
      if held.all HeldRun.isBlank then addHeldText held released else fosterText held released
    .again (flushed.enter b.returnMode) event

def closeCaption (b : Builder) : Builder :=
  (((b.closeImplied endsImplied).closeNamed "caption").dropRecentFormatting).enter .inTable

def inCaption (b : Builder) (event : Event) : Outcome :=
  let leave :=
    if b.inScope endsTableScope "caption" then Outcome.again b.closeCaption event else .done b
  match event with
  | .startTag tag =>
    if tableGroupNames.contains tag.name || ["td", "th", "tr"].contains tag.name then leave
    else b.inBody event
  | .endTag name =>
    if name == "caption" then
      if b.inScope endsTableScope "caption" then .done b.closeCaption else .done b
    else if name == "table" then leave
    else if tableGroupNames.contains name || ["body", "html", "td", "th", "tr"].contains name then
      .done b
    else b.inBody event
  | _ => b.inBody event

def inColumnGroup (b : Builder) (event : Event) : Outcome :=
  let leave :=
    if b.currentIs (isHtml "colgroup") then Outcome.again (b.pop.enter .inTable) event else .done b
  match event with
  | .blank run => .done (b.addText run)
  | .comment content => .done (b.addComment content)
  | .startTag tag =>
    if tag.name == "html" then b.repeatRoot tag
    else if tag.name == "col" then .done (b.insertTagClosed tag)
    else if tag.name == "template" then b.metadataStart tag
    else leave
  | .endTag name =>
    if name == "colgroup" then
      if b.currentIs (isHtml "colgroup") then .done (b.pop.enter .inTable) else .done b
    else if name == "col" then .done b
    else if name == "template" then b.endTemplate
    else leave
  | .endOfInput => b.inBody event
  | _ => leave

def inTableBody (b : Builder) (event : Event) : Outcome :=
  let leave :=
    if reaches endsTableScope (fun e => htmlIn ["table", "tbody", "tfoot"] e.name) b.openElements
    then Outcome.again ((b.popTo isTableBodyContext).pop.enter .inTable) event
    else .done b
  match event with
  | .startTag tag =>
    if tag.name == "tr" then b.openTablePart isTableBodyContext tag .inRow
    else if ["th", "td"].contains tag.name then
      .again (((b.popTo isTableBodyContext).insertImplied "tr").enter .inRow) event
    else if tableGroupNames.contains tag.name then leave
    else b.inTable event
  | .endTag name =>
    if ["tbody", "tfoot", "thead"].contains name then
      if b.inScope endsTableScope name then
        .done ((b.popTo isTableBodyContext).pop.enter .inTable)
      else .done b
    else if name == "table" then leave
    else if ["body", "caption", "col", "colgroup", "html", "td", "th", "tr"].contains name then
      .done b
    else b.inTable event
  | _ => b.inTable event

def inRow (b : Builder) (event : Event) : Outcome :=
  let closed := (b.popTo isRowContext).pop.enter .inTableBody
  let leave := if b.inScope endsTableScope "tr" then Outcome.again closed event else .done b
  match event with
  | .startTag tag =>
    if ["th", "td"].contains tag.name then
      .done (((b.popTo isRowContext).insertTag tag).markFormatting.enter .inCell)
    else if tableGroupNames.contains tag.name || tag.name == "tr" then leave
    else b.inTable event
  | .endTag name =>
    if name == "tr" then if b.inScope endsTableScope "tr" then .done closed else .done b
    else if name == "table" then leave
    else if ["tbody", "tfoot", "thead"].contains name then
      if b.inScope endsTableScope name then leave else .done b
    else if ["body", "caption", "col", "colgroup", "html", "td", "th"].contains name then .done b
    else b.inTable event
  | _ => b.inTable event

def closeCell (b : Builder) : Builder :=
  (((b.closeImplied endsImplied).popThrough (htmlIn ["td", "th"])).dropRecentFormatting).enter .inRow

def inCell (b : Builder) (event : Event) : Outcome :=
  match event with
  | .startTag tag =>
    if tableGroupNames.contains tag.name || ["td", "th", "tr"].contains tag.name then
      if reaches endsTableScope (fun e => htmlIn ["td", "th"] e.name) b.openElements then
        .again b.closeCell event
      else .done b
    else b.inBody event
  | .endTag name =>
    if ["td", "th"].contains name then
      if b.inScope endsTableScope name then
        .done ((((b.closeImplied endsImplied).closeNamed name).dropRecentFormatting).enter .inRow)
      else .done b
    else if ["body", "caption", "col", "colgroup", "html"].contains name then .done b
    else if ["table", "tbody", "tfoot", "thead", "tr"].contains name then
      if b.inScope endsTableScope name then .again b.closeCell event else .done b
    else b.inBody event
  | _ => b.inBody event

end MarkupModule.Markup.Construction.Builder
