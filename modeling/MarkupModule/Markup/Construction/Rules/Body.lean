import MarkupModule.Markup.Construction.Rules.Head
import MarkupModule.Markup.Construction.ForeignNames

/-! The rules for the body of a document, which other modes fall back on. -/

namespace MarkupModule.Markup.Construction.Builder

open MarkupModule.Text

/-- A second `body` tag only adds attributes to the body that is open. -/
def repeatBody (b : Builder) (tag : Tag) : Outcome :=
  match b.openBody? with
  | some body =>
    if b.hasOpen "template" then .done b
    else .done (b.forbidFrameset.mergeAttributes body.serial tag.attributes)
  | none => .done b

/-- A frameset takes the place of a body that holds nothing of importance. -/
def framesetInBody (b : Builder) (tag : Tag) : Outcome :=
  match b.framesetAllowed, b.openBody? with
  | true, some body =>
    let emptied :=
      { b with
        branches := Branch.removeFrom body.serial b.branches
        openElements := b.openElements.drop (b.openElements.length - 1) }
    .done ((emptied.insertTag tag).enter .inFrameset)
  | _, _ => .done b

/-- A list item or a definition closes the one before it. -/
def openItem (b : Builder) (tag : Tag) : Outcome :=
  let closes := if tag.name == "li" then ["li"] else ["dd", "dt"]
  let ends := fun name => isSpecial name && !htmlIn ["address", "div", "p"] name
  let start := b.forbidFrameset
  let target := start.openElements.find? fun e => htmlIn closes e.name || ends e.name
  let closed :=
    match target with
    | some e =>
      if htmlIn closes e.name then
        (start.closeImpliedExcept e.name.name).closeNamed e.name.name
      else start
    | none => start
  .done (closed.closeParagraphInScope.insertTag tag)

def openForeign (b : Builder) (space : Namespace) (tag : Tag) : Builder :=
  let name : ElementName := ⟨space, tag.name⟩
  let attributes := tag.attributes.map (foreignAttribute space)
  if tag.selfClosing then b.insertClosed name attributes else b.insertOpen name attributes

def isHiddenInput (tag : Tag) : Bool :=
  match tag.attribute? "type" with
  | some value => sameIgnoringCase value "hidden"
  | none => false

/-- Elements without contents that stand in text. -/
def voidInText (b : Builder) (tag : Tag) : Outcome :=
  let inserted := b.reopenFormatting.insertTagClosed tag
  .done (if tag.name == "input" && isHiddenInput tag then inserted else inserted.forbidFrameset)

def openSelect (b : Builder) (tag : Tag) : Outcome :=
  let inTable := [Mode.inTable, .inCaption, .inTableBody, .inRow, .inCell].contains b.mode
  .done ((b.reopenFormatting.insertTag tag).forbidFrameset.enter
    (if inTable then .inSelectInTable else .inSelect))

def blockStart (b : Builder) (tag : Tag) : Outcome :=
  let closed := b.closeParagraphInScope
  if headingNames.contains tag.name then
    let parted := if closed.currentIs (htmlIn headingNames) then closed.pop else closed
    .done (parted.insertTag tag)
  else if ["pre", "listing"].contains tag.name then
    .done { (closed.insertTag tag).forbidFrameset with skipLineFeed := true }
  else if tag.name == "plaintext" then .done { closed.insertTag tag with content := .plainText }
  else if tag.name == "hr" then .done (closed.insertTagClosed tag).forbidFrameset
  else if tag.name == "xmp" then
    .done (closed.reopenFormatting.forbidFrameset.insertTextElement tag (.rawText "xmp"))
  else .done (closed.insertTag tag)

/-- The start tag of a form; forms do not nest. -/
def openForm (b : Builder) (tag : Tag) : Outcome :=
  let inTemplate := b.hasOpen "template"
  if b.form.isSome && !inTemplate then .done b
  else
    let inserted := b.closeParagraphInScope.insertTag tag
    .done (if inTemplate then inserted else { inserted with form := inserted.openElements.head? })

/-- Start tags of elements that format text or stand in it. -/
def textStart (b : Builder) (tag : Tag) : Outcome :=
  let name := tag.name
  if name == "a" then .done (b.closeOpenAnchor.reopenFormatting.insertFormatting tag)
  else if formattingNames.contains name then .done (b.reopenFormatting.insertFormatting tag)
  else if name == "nobr" then
    let opened := b.reopenFormatting
    let parted :=
      if opened.inScope endsScope "nobr" then (opened.closeFormatting "nobr").reopenFormatting
      else opened
    .done (parted.insertFormatting tag)
  else if name == "button" then
    let parted :=
      if b.inScope endsScope "button" then (b.closeImplied endsImplied).closeNamed "button" else b
    .done (parted.reopenFormatting.insertTag tag).forbidFrameset
  else if ["applet", "marquee", "object"].contains name then
    .done (b.reopenFormatting.insertTag tag).markFormatting.forbidFrameset
  else if ["optgroup", "option"].contains name then
    let parted := if b.currentIs (isHtml "option") then b.pop else b
    .done (parted.reopenFormatting.insertTag tag)
  else if ["rb", "rtc"].contains name then
    let parted := if b.inScope endsScope "ruby" then b.closeImplied endsImplied else b
    .done (parted.insertTag tag)
  else if ["rp", "rt"].contains name then
    let parted := if b.inScope endsScope "ruby" then b.closeImpliedExcept "rtc" else b
    .done (parted.insertTag tag)
  else .done (b.reopenFormatting.insertTag tag)

def bodyStart (b : Builder) (tag : Tag) : Outcome :=
  let name := tag.name
  if name == "html" then b.repeatRoot tag
  else if metadataNames.contains name then b.metadataStart tag
  else if name == "body" then b.repeatBody tag
  else if name == "frameset" then b.framesetInBody tag
  else if blockNames.contains name || headingNames.contains name ||
      ["pre", "listing", "plaintext", "hr", "xmp"].contains name then b.blockStart tag
  else if name == "form" then b.openForm tag
  else if ["li", "dd", "dt"].contains name then b.openItem tag
  else if name == "table" then
    let closed := if b.olderRules then b else b.closeParagraphInScope
    .done ((closed.insertTag tag).forbidFrameset.enter .inTable)
  else if ["area", "br", "embed", "img", "keygen", "wbr", "input"].contains name then
    b.voidInText tag
  else if ["param", "source", "track"].contains name then .done (b.insertTagClosed tag)
  else if name == "image" then b.voidInText { tag with name := "img" }
  else if name == "textarea" then
    .done ({ b.forbidFrameset with skipLineFeed := true }.insertTextElement tag
      (.referenceText "textarea"))
  else if name == "iframe" then .done (b.forbidFrameset.insertTextElement tag (.rawText "iframe"))
  else if ["noembed", "noscript"].contains name then
    .done (b.insertTextElement tag (.rawText name))
  else if name == "select" then b.openSelect tag
  else if name == "math" then .done (b.openForeign .mathml tag)
  else if name == "svg" then .done (b.openForeign .svg tag)
  else if tableGroupNames.contains name || ["frame", "head", "td", "th", "tr"].contains name then
    .done b
  else b.textStart tag

def endForm (b : Builder) : Outcome :=
  if b.hasOpen "template" then
    if b.inScope endsScope "form" then .done ((b.closeImplied endsImplied).closeNamed "form")
    else .done b
  else
    match b.form with
    | none => .done b
    | some form =>
      let released := { b with form := none }
      if reaches endsScope (fun e => e.serial == form.serial) b.openElements then
        .done ((released.closeImplied endsImplied).forgetOpen form.serial)
      else .done released

def bodyEnd (b : Builder) (name : String) : Outcome :=
  if name == "template" then b.endTemplate
  else if name == "body" then
    if b.inScope endsScope "body" then .done (b.enter .afterBody) else .done b
  else if name == "html" then
    if b.inScope endsScope "body" then .again (b.enter .afterBody) (.endTag name) else .done b
  else if closableNames.contains name then
    if b.inScope endsScope name then .done ((b.closeImplied endsImplied).closeNamed name)
    else .done b
  else if name == "form" then b.endForm
  else if name == "p" then
    if b.inScope endsButtonScope "p" then .done b.closeParagraph
    else .done (b.insertImplied "p").closeParagraph
  else if ["li", "dd", "dt"].contains name then
    if b.inScope (if name == "li" then endsListScope else endsScope) name then
      .done ((b.closeImpliedExcept name).closeNamed name)
    else .done b
  else if headingNames.contains name then
    if reaches endsScope (fun e => htmlIn headingNames e.name) b.openElements then
      .done ((b.closeImplied endsImplied).popThrough (htmlIn headingNames))
    else .done b
  else if formattingNames.contains name || name == "a" || name == "nobr" then
    .done (b.closeFormatting name)
  else if ["applet", "marquee", "object"].contains name then
    if b.inScope endsScope name then
      .done ((b.closeImplied endsImplied).closeNamed name).dropRecentFormatting
    else .done b
  else if name == "br" then b.voidInText ⟨"br", [], false⟩
  else .done (b.closeByName name)

def inBody (b : Builder) (event : Event) : Outcome :=
  match event with
  | .nul => .done b
  | .blank run => .done (b.reopenFormatting.addText run)
  | .words run => .done (b.reopenFormatting.forbidFrameset.addText run)
  | .comment content => .done (b.addComment content)
  | .startTag tag => b.bodyStart tag
  | .endTag name => b.bodyEnd name
  | .endOfInput => if b.templateModes.isEmpty then .done b else b.endInsideTemplates

end MarkupModule.Markup.Construction.Builder
