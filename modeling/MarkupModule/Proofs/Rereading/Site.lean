import MarkupModule.Markup.Construction
import MarkupModule.Proofs.Markup.ElementText
import MarkupModule.Proofs.Markup.TokenStream

/-! Where a node can stand so that what is written of it is read as that node again. A site is an insertion
mode with the names of the elements that are open there. Most start tags put their element just there, but
some close what is open or move elsewhere, and these must not stand at the site; a text must not be taken
for something else where it stands. The conditions follow the rules of reading one by one. -/

namespace MarkupModule.Markup

open MarkupModule.Text

namespace Construction

/-- Whether among names, innermost first, a target is met before a scope ends. -/
def meets (ends target : ElementName → Bool) : List ElementName → Bool
  | [] => false
  | name :: rest => target name || (!ends name && meets ends target rest)

/-- Where a node stands: the mode there, and the names of the open elements, innermost first. -/
structure Site where
  mode : Mode
  around : List ElementName
  deriving DecidableEq, Repr

/-- How the rules open an element: it holds what follows in a mode, it holds nothing and has no end tag, it
is closed at once although it has one, it holds a text, or it is a template, whose contents are read by
rules of their own. -/
inductive Opening where
  | holds (mode : Mode)
  | void
  | shut
  | text (content : ContentMode)
  | template
  deriving DecidableEq, Repr

/-- Elements that formatting is not taken up across. -/
def isMarkName : ElementName → Bool :=
  htmlIn ["applet", "marquee", "object", "template", "td", "th", "caption"]

def isFormattingName : ElementName → Bool :=
  htmlIn ("a" :: "nobr" :: formattingNames)

/-- Elements that take only parts of tables and white space. -/
def isTablePart : ElementName → Bool :=
  htmlIn ["table", "tbody", "tfoot", "thead", "tr"]

def partNames : List String :=
  "td" :: "th" :: "tr" :: tableGroupNames

namespace Site

/-- Whether the innermost open element satisfies a condition. -/
def innermost (p : Site) (condition : ElementName → Bool) : Bool :=
  p.around.head?.any condition

/-- The site inside an element that stands at a site. -/
def inside (p : Site) (mode : Mode) (name : ElementName) : Site :=
  ⟨mode, name :: p.around⟩

/-- Whether the innermost open element is foreign and an event is read by the rules for foreign markup. -/
def readsForeign (p : Site) (event : Event) : Bool :=
  ({ openElements := p.around.map fun name => ⟨0, name⟩ } : Builder).readsForeign event

/-- Whether the rules for the body read what no other rule of the mode speaks of. -/
def readsBody (p : Site) : Bool :=
  match p.mode with
  | .inBody => true
  | .inCaption => true
  | .inCell => true
  | .inTable => !p.innermost isTablePart
  | .inTableBody => !p.innermost isTablePart
  | .inRow => !p.innermost isTablePart
  | _ => false

end Site

/-! ### How elements open -/

def metadataOpening (name : String) : Opening :=
  if ["base", "basefont", "bgsound", "link", "meta"].contains name then .void
  else if name == "title" then .text (.referenceText "title")
  else if ["noframes", "style", "noscript"].contains name then .text (.rawText name)
  else if name == "script" then .text .scriptText
  else .template

/-- A block does not stand inside a paragraph, nor a heading directly inside a heading. -/
def blockOpening? (p : Site) (name : String) : Option Opening :=
  if meets endsButtonScope (isHtml "p") p.around then none
  else if headingNames.contains name then
    if p.innermost (htmlIn headingNames) then none else some (.holds p.mode)
  else if ["pre", "listing"].contains name then some (.holds p.mode)
  else if name == "plaintext" then none
  else if name == "hr" then some .void
  else if name == "xmp" then some (.text (.rawText "xmp"))
  else some (.holds p.mode)

/-- Forms do not nest outside of templates. -/
def formOpening? (p : Site) : Option Opening :=
  if meets endsButtonScope (isHtml "p") p.around then none
  else if p.around.any (isHtml "template") || !p.around.any (isHtml "form") then some (.holds p.mode)
  else none

/-- An item does not stand inside an item of its kind without a list in between. -/
def itemOpening? (p : Site) (name : String) : Option Opening :=
  let closes := if name == "li" then ["li"] else ["dd", "dt"]
  let ends := fun e => isSpecial e && !htmlIn ["address", "div", "p"] e
  if meets ends (htmlIn closes) p.around || meets endsButtonScope (isHtml "p") p.around then none
  else some (.holds p.mode)

/-- Whether an element that formats text or stands in it closes nothing at a site. -/
def standsInText (p : Site) (name : String) : Bool :=
  if name == "a" then !meets isMarkName (isHtml "a") p.around
  else if formattingNames.contains name then true
  else if name == "nobr" then !meets endsScope (isHtml "nobr") p.around
  else if name == "button" then !meets endsScope (isHtml "button") p.around
  else if ["applet", "marquee", "object"].contains name then true
  else if ["optgroup", "option"].contains name then !p.innermost (isHtml "option")
  else if ["rb", "rtc"].contains name then
    !(meets endsScope (isHtml "ruby") p.around && p.innermost endsImplied)
  else if ["rp", "rt"].contains name then
    !(meets endsScope (isHtml "ruby") p.around &&
      p.innermost fun e => !isHtml "rtc" e && endsImplied e)
  else true

def bodyOpening? (p : Site) (tag : Tag) : Option Opening :=
  let name := tag.name
  if name == "html" then none
  else if metadataNames.contains name then some (metadataOpening name)
  else if name == "body" then none
  else if name == "frameset" then none
  else if blockNames.contains name || headingNames.contains name ||
      ["pre", "listing", "plaintext", "hr", "xmp"].contains name then blockOpening? p name
  else if name == "form" then formOpening? p
  else if ["li", "dd", "dt"].contains name then itemOpening? p name
  else if name == "table" then some (.holds .inTable)
  else if ["area", "br", "embed", "img", "keygen", "wbr", "input"].contains name then some .void
  else if ["param", "source", "track"].contains name then some .void
  else if name == "image" then none
  else if name == "textarea" then some (.text (.referenceText "textarea"))
  else if name == "iframe" then some (.text (.rawText "iframe"))
  else if ["noembed", "noscript"].contains name then some (.text (.rawText name))
  else if name == "select" then some (.holds .inSelect)
  else if name == "math" then none
  else if name == "svg" then none
  else if tableGroupNames.contains name || ["frame", "head", "td", "th", "tr"].contains name then none
  else if standsInText p name then some (.holds p.mode)
  else none

/-- What stands directly in a table, or in a template that is read like one. -/
def tableOpening? (p : Site) (tag : Tag) : Option Opening :=
  let name := tag.name
  if name == "caption" then
    if p.innermost Builder.isTableContext then some (.holds .inCaption) else none
  else if name == "colgroup" then
    if p.innermost Builder.isTableContext then some (.holds .inColumnGroup) else none
  else if name == "col" then none
  else if ["tbody", "tfoot", "thead"].contains name then
    if p.innermost Builder.isTableContext then some (.holds .inTableBody) else none
  else if ["td", "th", "tr"].contains name then none
  else if name == "table" then none
  else if ["style", "script", "template"].contains name then some (metadataOpening name)
  else if name == "input" && Builder.isHiddenInput tag then some .void
  else if name == "form" then
    if p.around.any (isHtml "template") || p.around.any (isHtml "form") then none else some .shut
  else if p.innermost isTablePart then none
  else bodyOpening? p tag

def selectOpening? (p : Site) (name : String) : Option Opening :=
  if name == "option" then if p.innermost (isHtml "option") then none else some (.holds .inSelect)
  else if name == "optgroup" then
    if p.innermost (htmlIn ["option", "optgroup"]) then none else some (.holds .inSelect)
  else if name == "hr" then if p.innermost (htmlIn ["option", "optgroup"]) then none else some .void
  else if ["script", "template"].contains name then some (metadataOpening name)
  else none

/-- How an HTML element is opened at a site, if it is opened there and nothing else happens. -/
def opening? (p : Site) (tag : Tag) : Option Opening :=
  match p.mode with
  | .inBody => bodyOpening? p tag
  | .inCaption => if partNames.contains tag.name then none else bodyOpening? p tag
  | .inCell => if partNames.contains tag.name then none else bodyOpening? p tag
  | .inTable => tableOpening? p tag
  | .inTableBody =>
    if tag.name == "tr" then
      if p.innermost Builder.isTableBodyContext then some (.holds .inRow) else none
    else if partNames.contains tag.name then none
    else tableOpening? p tag
  | .inRow =>
    if ["th", "td"].contains tag.name then
      if p.innermost Builder.isRowContext then some (.holds .inCell) else none
    else if partNames.contains tag.name then none
    else tableOpening? p tag
  | .inColumnGroup =>
    if tag.name == "col" then some .void
    else if tag.name == "template" then some .template
    else none
  | .inSelect => selectOpening? p tag.name
  | .inTemplate => if metadataNames.contains tag.name then some (metadataOpening tag.name) else none
  | .inHead =>
    if metadataNames.contains tag.name || tag.name == "noscript" then some (metadataOpening tag.name)
    else none
  | .inFrameset =>
    if tag.name == "frameset" then
      if p.innermost (isHtml "frameset") then some (.holds .inFrameset) else none
    else if tag.name == "frame" then some .void
    else if tag.name == "noframes" then some (metadataOpening tag.name)
    else none
  | _ => none

/-- The mode that a template is read in from its first element on that is no metadata. -/
def templateMode (name : String) : Mode :=
  if name == "col" then .inColumnGroup
  else if tableGroupNames.contains name then .inTable
  else if name == "tr" then .inTableBody
  else if ["td", "th"].contains name then .inRow
  else .inBody

/-- The site as it is for an element of this name: in a template the first one decides. -/
def Site.before (p : Site) (name : String) : Site :=
  if p.mode == .inTemplate && !metadataNames.contains name then { p with mode := templateMode name }
  else p

end Construction

/-! ### What fits -/

open Construction

/-- The tag that is read where the start tag of an element is written: all names are in lower case. -/
def Tag.reread (name : ElementName) (attributes : List Attribute) : Tag :=
  (Tag.ofElement name attributes).lowered

/-- Whether names and values are read from what is written of them, up to the case of the names. -/
def isWritable (name : ElementName) (attributes : List Attribute) : Bool :=
  isTagName (lower name.name.toList) &&
    (attributes.all fun a => isAttributeName (lower a.name.toList) && decide (IsClean a.value)) &&
    decide (attributes.map fun a => lowerName a.name).Nodup

/-- Whether an HTML element has the names that its tag gives it. -/
def isPlainElement (name : ElementName) (attributes : List Attribute) : Bool :=
  lowerName name.name == name.name &&
    attributes.all fun a => Attribute.ofPair (lowerName a.name, a.value) == a

/-- Whether children can be written without escaping and are read as they are: a text that holds no markup
and no reference, if anything. -/
def areRawText : List Node → Bool
  | [] => true
  | [.text s] => s.toList.all fun c => c != '<' && c != '&'
  | _ => false

/-- Whether a foreign element has the names that its tag gives it, and is not taken for a void element or,
unless it holds plain text, for one that holds text. -/
def isForeignElement (name : ElementName) (attributes : List Attribute) (children : List Node) : Bool :=
  foreignElementName name.space (lowerName name.name) == name.name &&
    (attributes.all fun a => foreignAttribute name.space (lowerName a.name, a.value) == a) &&
    !voidNames.contains name.name && (!rawTextNames.contains name.name || areRawText children)

/-- Whether a tag inside foreign markup ends it. -/
def breaksForeign (tag : Tag) : Bool :=
  foreignBreakNames.contains tag.name ||
    (tag.name == "font" && tag.attributes.any fun a => ["color", "face", "size"].contains a.1)

/-- The site behind a node, where the next one stands. -/
def Construction.Site.behind (p : Site) : Node → Site
  | .element name attributes _ =>
    if p.readsForeign (.startTag (Tag.reread name attributes)) then p else p.before (lowerName name.name)
  | _ => p

/-- Whether any text is read as such at a site. -/
def Construction.Site.takesText (p : Site) : Bool :=
  p.readsForeign (.words "") || p.readsBody || [.inSelect, .inTemplate].contains p.mode

/-- Whether a text is read as such at a site: in tables and heads only white space is. -/
def textFits (p : Site) (s : List Char) : Bool :=
  p.takesText ||
    (s.all isSpace &&
      [.inTable, .inTableBody, .inRow, .inColumnGroup, .inHead, .inFrameset].contains p.mode)

def startsWithText : List Node → Bool
  | .text _ :: _ => true
  | _ => false

def startsWithLineFeed : List Node → Bool
  | .text s :: _ => s.toList.head? == some '\n'
  | _ => false

/-- Whether a line feed directly behind the start tag of an element does not count. -/
def dropsLineFeed (name : String) : Bool :=
  ["pre", "listing", "textarea"].contains name

/-- Whether an element that holds text only holds one, or nothing. -/
def holdsText (tag : Tag) (content : ContentMode) : List Node → Bool
  | [] => true
  | [.text s] =>
    decide (s ≠ "" ∧ IsClean s) && Lexer.endsAtTag content s.toList &&
      !(dropsLineFeed tag.name && startsWithLineFeed [.text s])
  | _ => false

mutual

/-- Whether a node is read again where it stands. -/
def Node.fits (p : Site) : Node → Bool
  | .element name attributes children =>
    let tag := Tag.reread name attributes
    isWritable name attributes &&
      if p.readsForeign (.startTag tag) then
        (p.innermost fun e => e.space == name.space) && !breaksForeign tag &&
          isForeignElement name attributes children && nodesFit (p.inside p.mode name) children
      else
        let q := p.before tag.name
        match name.space with
        | .html =>
          isPlainElement name attributes &&
            match opening? q tag with
            | some (.holds mode) =>
              !voidNames.contains name.name && !rawTextNames.contains name.name &&
                !(dropsLineFeed name.name && startsWithLineFeed children) &&
                nodesFit (q.inside mode name) children
            | some .void => voidNames.contains name.name && children.isEmpty
            | some .shut => q.innermost isTablePart && children.isEmpty
            | some (.text content) => !voidNames.contains name.name && holdsText tag content children
            | some .template => contentsFit (q.inside .inTemplate name) children
            | none => false
        | .svg =>
          q.readsBody && name.name == "svg" && isForeignElement name attributes children &&
            nodesFit (q.inside q.mode name) children
        | .mathml =>
          q.readsBody && name.name == "math" && isForeignElement name attributes children &&
            nodesFit (q.inside q.mode name) children
  | .text content => decide (content ≠ "" ∧ IsClean content) && textFits p content.toList
  | .comment content => decide (IsClean content) && Lexer.isCommentText content.toList
  | .doctype _ _ _ => false
  | .contents _ => false

/-- Whether nodes are read again one after the other. No two texts stand next to each other. -/
def nodesFit (p : Site) : List Node → Bool
  | [] => true
  | node :: rest =>
    node.fits p && !(startsWithText [node] && startsWithText rest) && nodesFit (p.behind node) rest

/-- Whether the contents of a template are read again. -/
def contentsFit (p : Site) : List Node → Bool
  | [.contents children] => nodesFit p children
  | _ => false

end

/-! ### Children that fit -/

theorem of_areRawText {children : List Node} (h : areRawText children = true) :
    children = [] ∨ ∃ s, children = [.text s] ∧ ∀ c ∈ s.toList, c ≠ '<' ∧ c ≠ '&' := by
  unfold areRawText at h
  split at h
  · exact Or.inl rfl
  · rename_i s
    refine Or.inr ⟨s, rfl, fun c hc => ?_⟩
    have hplain := List.all_eq_true.mp h c hc
    rwa [Bool.and_eq_true, bne_iff_ne, bne_iff_ne] at hplain
  · cases h

theorem of_holdsText {tag : Tag} {content : ContentMode} {children : List Node}
    (h : holdsText tag content children = true) :
    children = [] ∨ ∃ s, children = [.text s] ∧ s ≠ "" ∧ IsClean s ∧
      Lexer.endsAtTag content s.toList = true ∧
      (dropsLineFeed tag.name = true → startsWithLineFeed [.text s] = false) := by
  unfold holdsText at h
  split at h
  · exact Or.inl rfl
  · rename_i s
    rw [Bool.and_eq_true, Bool.and_eq_true, decide_eq_true_eq, Bool.not_eq_true', Bool.and_eq_false_iff] at h
    obtain ⟨⟨⟨hne, hclean⟩, hcut⟩, hfeed⟩ := h
    exact Or.inr ⟨s, rfl, hne, hclean, hcut, fun hdrops => hfeed.resolve_left (ne_false_of_eq_true hdrops)⟩
  · cases h

theorem exists_of_contentsFit {p : Site} {children : List Node} (h : contentsFit p children = true) :
    ∃ inside, children = [.contents inside] ∧ nodesFit p inside = true := by
  unfold contentsFit at h
  split at h
  · exact ⟨_, rfl, h⟩
  · cases h

end MarkupModule.Markup
