import MarkupModule.Proofs.Rereading.Standing

/-! Start tags at a site. Where a tag opens an element there, one look at it inserts the element behind the
children of the innermost one and leaves everything else as it stands: the rules close nothing, since the
site holds nothing that they would close. The rules and the openings are taken branch by branch. -/

namespace MarkupModule.Markup.Construction

open MarkupModule.Text

/-- Whether an open element leaves the mode, the form and the formatting as they are. -/
def isNeutral (name : ElementName) : Bool :=
  ownMode? name == none && !htmlIn ["template", "html", "form"] name && !isMarkName name

theorem of_isNeutral {name : ElementName} (h : isNeutral name = true) :
    ownMode? name = none ∧ htmlIn ["template", "html", "form"] name = false ∧ isMarkName name = false := by
  rwa [isNeutral, Bool.and_eq_true, Bool.and_eq_true, beq_iff_eq, Bool.not_eq_true', Bool.not_eq_true',
    and_assoc] at h

theorem isHtml_eq_false {names : List String} {name : ElementName} (h : htmlIn names name = false)
    {expected : String} (hexpected : expected ∈ names) : isHtml expected name = false := by
  rw [htmlIn, Bool.and_eq_false_iff, ← Bool.not_eq_true (names.contains _), List.contains_iff_mem] at h
  rw [isHtml, Bool.and_eq_false_iff]
  refine h.imp_right fun h => beq_eq_false_iff_ne.mpr ?_
  rintro rfl
  exact h hexpected

theorem isNeutral_of_foreign {name : ElementName} (h : name.space ≠ .html) : isNeutral name = true := by
  obtain ⟨space, name⟩ := name
  cases space with
  | html => exact absurd rfl h
  | svg => rfl
  | mathml => rfl

/-- The names of elements that are not neutral. -/
def distinctNames : List String :=
  ["select", "td", "th", "tr", "tbody", "thead", "tfoot", "caption", "colgroup", "table", "head", "body",
    "frameset", "template", "html", "form", "applet", "marquee", "object"]

theorem isNeutral_of_not_mem {name : String} (h : name ∉ distinctNames) : isNeutral ⟨.html, name⟩ = true := by
  simp only [distinctNames, List.mem_cons, List.not_mem_nil, or_false, not_or] at h
  simp [isNeutral, ownMode?, htmlIn, isMarkName, h]

theorem isNeutral_of_contains {names : List String}
    (hall : (names.all fun name => isNeutral ⟨.html, name⟩) = true) {name : String}
    (h : names.contains name = true) : isNeutral ⟨.html, name⟩ = true :=
  List.all_eq_true.mp hall name (List.contains_iff_mem.mp h)

theorem Surrounds.cons {modes : List Mode} {p : Site} {frames : List Frame} (h : Surrounds modes p frames)
    {f : Frame} (htemplate : isHtml "template" f.name = false) (hhtml : isHtml "html" f.name = false) :
    Surrounds modes (p.inside ((ownMode? f.name).getD p.mode) f.name) (f :: frames) where
  names := congrArg (f.name :: ·) h.names
  open_ := List.cons_ne_nil f frames
  known := mem_siteModes_of_ownMode? h.known
  resets := h.resets.cons h.open_ htemplate hhtml

namespace Builder

/-- The state with an element opened. -/
def push (b : Builder) (frames : List Frame) (f : Frame) : Builder :=
  { b with
    nextSerial := b.nextSerial + 1
    openElements := f.opened :: b.openElements
    branches := nest (f :: frames) [] }

/-- The frame of the next element, behind these children. -/
def frameOf (b : Builder) (children : List Branch) (name : ElementName) (attributes : List Attribute) :
    Frame :=
  ⟨children, b.nextSerial, name, attributes⟩

/-- The frame of the HTML element for a tag. -/
def frameFor (b : Builder) (children : List Branch) (tag : Tag) : Frame :=
  b.frameOf children ⟨.html, tag.name⟩ (tag.attributes.map Attribute.ofPair)

/-- Whether nothing that is inserted here is sent out of a table. -/
def StaysIn (b : Builder) (p : Site) : Prop :=
  (b.fosterParenting && p.innermost isTablePart) = false

namespace Stands

variable {b : Builder} {modes : List Mode} {p : Site} {frames : List Frame} {children : List Branch}

theorem insertOpen_eq (h : Stands modes p frames children b) (hstays : b.StaysIn p) (name : ElementName)
    (attributes : List Attribute) :
    b.insertOpen name attributes = b.push frames (b.frameOf children name attributes) := by
  obtain ⟨f, around, rfl, haround⟩ := h.exists_cons
  rw [StaysIn, Site.innermost, haround] at hstays
  exact h.tree.insertOpen_eq hstays name attributes

theorem insertTag_eq (h : Stands modes p frames children b) (hstays : b.StaysIn p) (tag : Tag) :
    b.insertTag tag = b.push frames (b.frameFor children tag) :=
  h.insertOpen_eq hstays _ _

/-- An element is opened that is neither a template nor a form. -/
theorem push (h : Stands modes p frames children b) {name : ElementName}
    (hnames : htmlIn ["template", "html", "form"] name = false) (attributes : List Attribute) (b' : Builder)
    (htree : Tree (b.frameOf children name attributes :: frames) [] b')
    (hmode : b'.mode.canonical = (ownMode? name).getD p.mode)
    (hformatting : Marked (b.frameOf children name attributes :: frames) b'.formatting)
    (hcontent : b'.content = b.content) (hform : b'.form = b.form)
    (hmodes : b'.templateModes = b.templateModes) (holder : b'.olderRules = b.olderRules) :
    Stands modes (p.inside ((ownMode? name).getD p.mode) name) (b.frameOf children name attributes :: frames)
      [] b' where
  tree := htree
  surrounds := h.surrounds.cons (f := b.frameOf children name attributes)
    (isHtml_eq_false hnames (by simp)) (isHtml_eq_false hnames (by simp))
  mode := hmode
  content := hcontent.trans h.content
  formatting := hformatting
  form := hform.trans (h.form.trans (formOf_cons_of_ne (isHtml_eq_false hnames (by simp)) frames).symm)
  templateModes := hmodes.trans h.templateModes
  olderRules := holder.trans h.olderRules

/-- An element is opened that changes nothing else. -/
theorem pushNeutral (h : Stands modes p frames children b) {name : ElementName}
    (hneutral : isNeutral name = true) (attributes : List Attribute) :
    Stands modes (p.inside p.mode name) (b.frameOf children name attributes :: frames) []
      (b.push frames (b.frameOf children name attributes)) := by
  obtain ⟨hmode, hnames, hmark⟩ := of_isNeutral hneutral
  have hpushed := h.push hnames attributes (b.push frames (b.frameOf children name attributes))
    (h.tree.push name attributes rfl rfl rfl) (by rw [hmode]; exact h.mode) (.plain hmark h.formatting)
    rfl rfl rfl rfl
  rwa [hmode] at hpushed

end Stands

/-! ### What an opening does -/

/-- What a state becomes when the element for a tag is opened. An element that is closed at once is left
behind as a form that no element belongs to, until its end tag. -/
def Opened (modes : List Mode) (p : Site) (frames : List Frame) (children : List Branch) (tag : Tag)
    (b b' : Builder) : Opening → Prop
  | .holds mode =>
    Stands modes (p.inside mode ⟨.html, tag.name⟩) (b.frameFor children tag :: frames) [] b'
  | .void => Stands modes p frames ((b.frameFor children tag).closed []) b'
  | .shut =>
    Stands modes p frames ((b.frameFor children tag).closed []) { b' with form := none } ∧
      b'.form = some (b.frameFor children tag).opened ∧ p.around.any (isHtml "template") = false ∧
      Growing b.nextSerial frames
  | .text content =>
    b'.mode = .text ∧ b'.content = content ∧
      Stands modes (p.inside p.mode ⟨.html, tag.name⟩) (b.frameFor children tag :: frames) []
        { b' with mode := b'.returnMode, content := .markup }
  | .template =>
    Stands (.inTemplate :: modes) (p.inside .inTemplate ⟨.html, tag.name⟩) (b.frameFor children tag :: frames)
      [] b'

/-- What an opening does, with what is to be known of the state beyond where it stands. -/
structure Opens (modes : List Mode) (p : Site) (frames : List Frame) (children : List Branch) (tag : Tag)
    (opening : Opening) (b b' : Builder) : Prop where
  opened : Opened modes p frames children tag b b' opening
  fosterParenting : b'.fosterParenting = b.fosterParenting
  skipLineFeed : b'.skipLineFeed = true → dropsLineFeed tag.name = true

/-- A rule for a start tag does what an opening says, if the tag opens an element. -/
def OpensBy (modes : List Mode) (p : Site) (frames : List Frame) (children : List Branch) (tag : Tag)
    (b : Builder) (opening? : Option Opening) (rule : Outcome) : Prop :=
  ∀ opening, opening? = some opening →
    ∃ b', rule = .done b' ∧ Opens modes p frames children tag opening b b'

section

variable {b : Builder} {modes : List Mode} {p : Site} {frames : List Frame} {children : List Branch}
  {tag : Tag}

theorem opensBy_none (rule : Outcome) : OpensBy modes p frames children tag b none rule := by
  intro opening h
  cases h

theorem opensBy_some {opening : Opening} {b' : Builder}
    (h : Opens modes p frames children tag opening b b') :
    OpensBy modes p frames children tag b (some opening) (.done b') := by
  intro opening' heq
  obtain rfl := Option.some.inj heq
  exact ⟨b', rfl, h⟩

theorem opensBy_ite {condition : Prop} [Decidable condition] {opening? opening?' : Option Opening}
    {rule rule' : Outcome} (h : condition → OpensBy modes p frames children tag b opening? rule)
    (h' : ¬condition → OpensBy modes p frames children tag b opening?' rule') :
    OpensBy modes p frames children tag b (if condition then opening? else opening?')
      (if condition then rule else rule') := by
  split
  · exact h ‹_›
  · exact h' ‹_›

/-- A branch of the rule for a tag that opens nothing. -/
theorem opensBy_else {condition : Prop} [Decidable condition] {opening? : Option Opening}
    {rule rule' : Outcome} (hnone : condition → opening? = none)
    (h : OpensBy modes p frames children tag b opening? rule') :
    OpensBy modes p frames children tag b opening? (if condition then rule else rule') := by
  split
  · rename_i hcondition
    rw [hnone hcondition]
    exact opensBy_none rule
  · exact h

theorem opensBy_unless {stops : Bool} {opening? : Option Opening} {rule : Outcome}
    (h : OpensBy modes p frames children tag b opening? rule) :
    OpensBy modes p frames children tag b (if stops then none else opening?) rule := by
  split
  · exact opensBy_none rule
  · exact h

theorem opensBy_unless_some {stops : Bool} {opening : Opening} {rule : Outcome}
    (h : stops = false → OpensBy modes p frames children tag b (some opening) rule) :
    OpensBy modes p frames children tag b (if stops then none else some opening) rule := by
  cases stops with
  | true => exact opensBy_none rule
  | false => exact h rfl

theorem opensBy_when_ite {condition : Prop} [Decidable condition] {stands stands' : Bool} {opening : Opening}
    {rule rule' : Outcome}
    (h : condition → OpensBy modes p frames children tag b (if stands then some opening else none) rule)
    (h' : ¬condition →
      OpensBy modes p frames children tag b (if stands' then some opening else none) rule') :
    OpensBy modes p frames children tag b
      (if (if condition then stands else stands') then some opening else none)
      (if condition then rule else rule') := by
  split
  · exact h ‹_›
  · exact h' ‹_›

theorem opensBy_when {stands : Bool} {opening : Opening} {rule : Outcome}
    (h : stands = true → OpensBy modes p frames children tag b (some opening) rule) :
    OpensBy modes p frames children tag b (if stands then some opening else none) rule := by
  split
  · exact h ‹_›
  · exact opensBy_none rule

end

/-! ### Elements -/

theorem Opens.forbidFrameset {modes : List Mode} {p : Site} {frames : List Frame} {children : List Branch}
    {tag : Tag} {opening : Opening} {b b' : Builder}
    (h : Opens modes p frames children tag opening b b') :
    Opens modes p frames children tag opening b b'.forbidFrameset where
  opened := by
    have hopened := h.opened
    cases opening with
    | holds mode => exact Stands.forbidFrameset hopened
    | void => exact Stands.forbidFrameset hopened
    | shut => exact ⟨hopened.1.forbidFrameset, hopened.2⟩
    | text content => exact ⟨hopened.1, hopened.2.1, hopened.2.2.forbidFrameset⟩
    | template => exact Stands.forbidFrameset hopened
  fosterParenting := h.fosterParenting
  skipLineFeed := h.skipLineFeed

theorem Opens.fostering {modes : List Mode} {p : Site} {frames : List Frame} {children : List Branch}
    {tag : Tag} {opening : Opening} {b b' : Builder}
    (h : Opens modes p frames children tag opening { b with fosterParenting := true } b')
    (hfoster : b.fosterParenting = false) :
    Opens modes p frames children tag opening b { b' with fosterParenting := false } where
  opened := by
    have hopened := h.opened
    cases opening with
    | holds mode => exact Stands.fostering hopened false
    | void => exact Stands.fostering hopened false
    | shut => exact ⟨hopened.1.fostering false, hopened.2⟩
    | text content => exact ⟨hopened.1, hopened.2.1, hopened.2.2.fostering false⟩
    | template => exact Stands.fostering hopened false
  fosterParenting := hfoster.symm
  skipLineFeed := h.skipLineFeed

/-- Of the state before, the next serial number matters, and whether a table sends content away. -/
theorem Opens.behind {modes : List Mode} {p : Site} {frames : List Frame} {children : List Branch}
    {tag : Tag} {opening : Opening} {b b₀ b' : Builder}
    (h : Opens modes p frames children tag opening b₀ b') (hserial : b₀.nextSerial = b.nextSerial)
    (hfoster : b₀.fosterParenting = b.fosterParenting) : Opens modes p frames children tag opening b b' where
  opened := by
    have hopened := h.opened
    have hframe : b₀.frameFor children tag = b.frameFor children tag := by
      rw [frameFor, frameFor, frameOf, frameOf, hserial]
    cases opening <;> simpa only [Opened, hframe, hserial] using hopened
  fosterParenting := h.fosterParenting.trans hfoster
  skipLineFeed := h.skipLineFeed

/-- A state in which a line feed counts. -/
theorem skips_of_eq {b b' : Builder} (hline : b.skipLineFeed = false)
    (heq : b'.skipLineFeed = b.skipLineFeed) {goal : Prop} (h : b'.skipLineFeed = true) : goal := by
  rw [heq, hline] at h
  cases h

namespace Stands

variable {b : Builder} {modes : List Mode} {p : Site} {frames : List Frame} {children : List Branch}
  {tag : Tag}

theorem insertClosed (h : Stands modes p frames children b) (hstays : b.StaysIn p) {name : ElementName}
    (hname : isHtml "template" name = false) (attributes : List Attribute) :
    Stands modes p frames ((b.frameOf children name attributes).closed []) (b.insertClosed name attributes) ∧
      (b.insertClosed name attributes).fosterParenting = b.fosterParenting ∧
      (b.insertClosed name attributes).skipLineFeed = b.skipLineFeed := by
  obtain ⟨f, around, rfl, haround⟩ := h.exists_cons
  rw [StaysIn, Site.innermost, haround] at hstays
  rw [h.tree.insertClosed_eq hstays, held_of_ne hname]
  refine ⟨?_, rfl, rfl⟩
  exact
    { tree :=
        { branches := rfl
          opened := h.opened_eq
          growing := h.tree.growing.mono (Nat.le_succ _)
          below := Branch.below_append_iff.mpr ⟨h.tree.below.mono (Nat.le_succ _),
            Branch.below_element_iff.mpr ⟨Nat.lt_succ_self _, Branch.below_nil _⟩⟩ }
      surrounds := h.surrounds
      mode := h.mode
      content := h.content
      formatting := h.formatting
      form := h.form
      templateModes := h.templateModes
      olderRules := h.olderRules }

/-- An element without contents. -/
theorem opens_void (h : Stands modes p frames children b) (hstays : b.StaysIn p)
    (hline : b.skipLineFeed = false) (hneutral : isNeutral ⟨.html, tag.name⟩ = true) :
    Opens modes p frames children tag .void b (b.insertTagClosed tag) := by
  have hname : isHtml "template" ⟨.html, tag.name⟩ = false :=
    isHtml_eq_false (of_isNeutral hneutral).2.1 (by simp)
  obtain ⟨hstands, hfoster, hskips⟩ := h.insertClosed hstays hname (tag.attributes.map Attribute.ofPair)
  exact ⟨hstands, hfoster, skips_of_eq hline hskips⟩

/-- An element that changes nothing else. -/
theorem opens_neutral (h : Stands modes p frames children b) (hstays : b.StaysIn p)
    (hline : b.skipLineFeed = false) (hneutral : isNeutral ⟨.html, tag.name⟩ = true) :
    Opens modes p frames children tag (.holds p.mode) b (b.insertTag tag) := by
  rw [h.insertTag_eq hstays]
  exact ⟨h.pushNeutral hneutral _, rfl, skips_of_eq hline rfl⟩

/-- An element that asks for a mode of its own. -/
theorem opens_own (h : Stands modes p frames children b) (hstays : b.StaysIn p)
    (hline : b.skipLineFeed = false) (mode : Mode) (hmode : ownMode? ⟨.html, tag.name⟩ = some mode.canonical)
    (hnames : htmlIn ["template", "html", "form"] ⟨.html, tag.name⟩ = false)
    (hmark : isMarkName ⟨.html, tag.name⟩ = false) :
    Opens modes p frames children tag (.holds mode.canonical) b ((b.insertTag tag).enter mode) := by
  rw [h.insertTag_eq hstays]
  refine ⟨?_, rfl, skips_of_eq hline rfl⟩
  have hpushed := h.push hnames (tag.attributes.map Attribute.ofPair)
    ((b.push frames (b.frameFor children tag)).enter mode) (h.tree.push _ _ rfl rfl rfl)
    (by rw [hmode]; rfl) (.plain hmark h.formatting) rfl rfl rfl rfl
  rwa [hmode] at hpushed

/-- An element that formatting is not taken up across. -/
theorem opens_marked (h : Stands modes p frames children b)
    (hline : b.skipLineFeed = false) (mode : Mode) {b' : Builder}
    (hnames : htmlIn ["template", "html", "form"] ⟨.html, tag.name⟩ = false)
    (hmark : isMarkName ⟨.html, tag.name⟩ = true)
    (hmode : (ownMode? ⟨.html, tag.name⟩).getD p.mode = mode.canonical)
    (hb' : b' = (b.push frames (b.frameFor children tag)).markFormatting.enter mode) :
    Opens modes p frames children tag (.holds mode.canonical) b b' := by
  subst hb'
  refine ⟨?_, rfl, skips_of_eq hline rfl⟩
  have hpushed := h.push hnames (tag.attributes.map Attribute.ofPair)
    ((b.push frames (b.frameFor children tag)).markFormatting.enter mode)
    (h.tree.push _ _ rfl rfl rfl) (by rw [hmode]; rfl) (.mark hmark h.formatting) rfl rfl rfl rfl
  rwa [hmode] at hpushed

/-- An element that formats text. -/
theorem opens_formatting (h : Stands modes p frames children b) (hstays : b.StaysIn p)
    (hline : b.skipLineFeed = false) (hformats : isFormattingName ⟨.html, tag.name⟩ = true) :
    Opens modes p frames children tag (.holds p.mode) b (b.insertFormatting tag) := by
  have hneutral : isNeutral ⟨.html, tag.name⟩ = true := by
    refine isNeutral_of_not_mem fun hmem => ?_
    rw [show isFormattingName ⟨.html, tag.name⟩ = false from
      (by decide : ∀ name ∈ distinctNames, isFormattingName ⟨.html, name⟩ = false) _ hmem] at hformats
    cases hformats
  rw [insertFormatting, h.insertTag_eq hstays]
  refine ⟨?_, rfl, skips_of_eq hline rfl⟩
  have hpushed := h.pushNeutral hneutral (tag.attributes.map Attribute.ofPair)
  exact
    { tree := ⟨hpushed.tree.branches, hpushed.tree.opened, hpushed.tree.growing, hpushed.tree.below⟩
      surrounds := hpushed.surrounds
      mode := hpushed.mode
      content := hpushed.content
      formatting := .entry rfl hformats (h.marked_limitRepeats tag)
      form := hpushed.form
      templateModes := hpushed.templateModes
      olderRules := hpushed.olderRules }

/-- An element that holds a text only. -/
theorem opens_text (h : Stands modes p frames children b) (hstays : b.StaysIn p)
    (hline : b.skipLineFeed = true → dropsLineFeed tag.name = true)
    (hneutral : isNeutral ⟨.html, tag.name⟩ = true)
    (content : ContentMode) :
    Opens modes p frames children tag (.text content) b (b.insertTextElement tag content) := by
  rw [insertTextElement, h.insertTag_eq hstays]
  refine ⟨⟨rfl, rfl, ?_⟩, rfl, hline⟩
  have hpushed := h.pushNeutral hneutral (tag.attributes.map Attribute.ofPair)
  exact hpushed.alike rfl rfl rfl rfl h.content.symm rfl rfl rfl rfl

theorem opens_template (h : Stands modes p frames children b) (hstays : b.StaysIn p)
    (hline : b.skipLineFeed = false) (hname : tag.name = "template") :
    OpensBy modes p frames children tag b (some .template) (b.openTemplate tag) := by
  rw [openTemplate, h.insertTag_eq hstays]
  refine opensBy_some ⟨?_, rfl, skips_of_eq hline rfl⟩
  have hframe : (b.frameFor children tag).name = ⟨.html, "template"⟩ := by rw [← hname]; rfl
  exact
    { tree := h.tree.push _ _ rfl rfl rfl
      surrounds :=
        { names := congrArg (_ :: ·) h.surrounds.names
          open_ := List.cons_ne_nil _ frames
          known := (by decide : Mode.inTemplate ∈ siteModes)
          resets := resets_template hframe .inTemplate modes frames }
      mode := rfl
      content := h.content
      formatting := .mark (by rw [hframe]; rfl) h.formatting
      form := h.form.trans (formOf_cons_of_ne (by rw [hframe]; rfl) frames).symm
      templateModes := congrArg (_ :: ·) h.templateModes
      olderRules := h.olderRules }

/-! ### Groups of start tags -/

/-- The last of the elements that stand in a head. -/
theorem eq_template_of_metadata {name : String} (hname : ("noscript" :: metadataNames).contains name = true)
    (hvoid : ¬["base", "basefont", "bgsound", "link", "meta"].contains name = true)
    (htitle : ¬(name == "title") = true) (hraw : ¬["noframes", "style", "noscript"].contains name = true)
    (hscript : ¬(name == "script") = true) : name = "template" := by
  have hall : ∀ n ∈ "noscript" :: metadataNames,
      ["base", "basefont", "bgsound", "link", "meta"].contains n = true ∨ (n == "title") = true ∨
        ["noframes", "style", "noscript"].contains n = true ∨ (n == "script") = true ∨ n = "template" := by
    decide
  simpa only [hvoid, htitle, hraw, hscript, false_or, Bool.false_eq_true] using
    hall _ (List.contains_iff_mem.mp hname)

theorem opensBy_metadataStart (h : Stands modes p frames children b) (hstays : b.StaysIn p)
    (hline : b.skipLineFeed = false) (hname : ("noscript" :: metadataNames).contains tag.name = true) :
    OpensBy modes p frames children tag b (some (metadataOpening tag.name)) (b.metadataStart tag) := by
  rw [metadataOpening, metadataStart]
  by_cases hvoid : ["base", "basefont", "bgsound", "link", "meta"].contains tag.name = true
  · rw [if_pos hvoid, if_pos hvoid]
    exact opensBy_some (h.opens_void hstays hline (isNeutral_of_contains (by decide) hvoid))
  · rw [if_neg hvoid, if_neg hvoid]
    by_cases htitle : (tag.name == "title") = true
    · rw [if_pos htitle, if_pos htitle]
      exact opensBy_some (h.opens_text hstays (skips_of_eq hline rfl) (by rw [beq_iff_eq.mp htitle]; decide) _)
    · rw [if_neg htitle, if_neg htitle]
      by_cases hraw : ["noframes", "style", "noscript"].contains tag.name = true
      · rw [if_pos hraw, if_pos hraw]
        exact opensBy_some (h.opens_text hstays (skips_of_eq hline rfl) (isNeutral_of_contains (by decide) hraw) _)
      · rw [if_neg hraw, if_neg hraw]
        by_cases hscript : (tag.name == "script") = true
        · rw [if_pos hscript, if_pos hscript]
          exact opensBy_some
            (h.opens_text hstays (skips_of_eq hline rfl) (by rw [beq_iff_eq.mp hscript]; decide) _)
        · rw [if_neg hscript, if_neg hscript]
          refine h.opens_template hstays hline ?_
          exact eq_template_of_metadata hname hvoid htitle hraw hscript

theorem opensBy_blockStart (h : Stands modes p frames children b) (hstays : b.StaysIn p)
    (hline : b.skipLineFeed = false)
    (hname : (blockNames ++ headingNames ++ ["pre", "listing", "plaintext", "hr", "xmp"]).contains tag.name =
      true) :
    OpensBy modes p frames children tag b (blockOpening? p tag.name) (b.blockStart tag) := by
  have hneutral : isNeutral ⟨.html, tag.name⟩ = true :=
    isNeutral_of_contains (by decide) hname
  have hopens := h.opens_neutral hstays hline hneutral
  rw [blockOpening?, blockStart]
  by_cases hparagraph : meets endsButtonScope (isHtml "p") p.around = true
  · rw [if_pos hparagraph]
    exact opensBy_none _
  rw [if_neg hparagraph, h.closeParagraphInScope_eq (Bool.eq_false_iff.mpr hparagraph)]
  dsimp only
  refine opensBy_ite (fun _ => ?_) fun _ => opensBy_ite (fun hpre => ?_) fun _ =>
    opensBy_ite (fun _ => opensBy_none _) fun _ => opensBy_ite (fun _ => ?_) fun _ =>
    opensBy_ite (fun _ => ?_) fun _ => opensBy_some hopens
  · rw [h.currentIs_eq]
    by_cases hheading : p.innermost (htmlIn headingNames) = true
    · rw [if_pos hheading]
      exact opensBy_none _
    · rw [if_neg hheading, if_neg hheading]
      exact opensBy_some hopens
  · refine opensBy_some ⟨hopens.forbidFrameset.opened.skipping true, hopens.fosterParenting, fun _ => ?_⟩
    rw [List.contains_iff_mem] at hpre
    exact List.contains_iff_mem.mpr (List.mem_append_left ["textarea"] hpre)
  · exact opensBy_some (h.opens_void hstays hline hneutral).forbidFrameset
  · rw [h.reopenFormatting_eq]
    exact opensBy_some ((h.forbidFrameset.opens_text hstays (skips_of_eq hline rfl) hneutral _).behind rfl rfl)

theorem opensBy_openForm (h : Stands modes p frames children b) (hstays : b.StaysIn p)
    (hline : b.skipLineFeed = false) (hname : tag.name = "form") :
    OpensBy modes p frames children tag b (formOpening? p) (b.openForm tag) := by
  have hform : isHtml "form" (b.frameFor children tag).name = true := by
    change isHtml "form" ⟨.html, tag.name⟩ = true
    rw [hname]
    rfl
  have hown : ownMode? (b.frameFor children tag).name = none := by
    change ownMode? ⟨.html, tag.name⟩ = none
    rw [hname]
    rfl
  have hsurrounds := h.surrounds.cons (f := b.frameFor children tag)
    (by change isHtml "template" ⟨.html, tag.name⟩ = false; rw [hname]; rfl)
    (by change isHtml "html" ⟨.html, tag.name⟩ = false; rw [hname]; rfl)
  rw [hown] at hsurrounds
  have hmark : isMarkName (b.frameFor children tag).name = false := by
    change isMarkName ⟨.html, tag.name⟩ = false
    rw [hname]
    rfl
  have hany := h.any_isHtml_eq "template"
  have hanyForm := h.any_isHtml_eq "form"
  rw [formOpening?, openForm, h.hasOpen_eq]
  by_cases hparagraph : meets endsButtonScope (isHtml "p") p.around = true
  · rw [if_pos hparagraph]
    exact opensBy_none _
  rw [if_neg hparagraph, h.closeParagraphInScope_eq (Bool.eq_false_iff.mpr hparagraph), h.insertTag_eq hstays]
  cases htemplate : p.around.any (isHtml "template") with
  | true =>
      rw [Bool.not_true, Bool.and_false, Bool.true_or, if_pos rfl]
      refine opensBy_some ⟨?_, rfl, skips_of_eq hline rfl⟩
      exact
        { tree := h.tree.push _ _ rfl rfl rfl
          surrounds := hsurrounds
          mode := h.mode
          content := h.content
          formatting := .plain hmark h.formatting
          form := by
            rw [formOf, hform, ← hany, htemplate]
            exact h.form
          templateModes := h.templateModes
          olderRules := h.olderRules }
  | false =>
      rw [Bool.false_or, Bool.not_false, Bool.and_true, hanyForm]
      rw [h.form, formOf_isSome (hany ▸ htemplate)]
      cases hopen : frames.any fun a => isHtml "form" a.name with
      | true => exact opensBy_none _
      | false =>
          refine opensBy_some ⟨?_, rfl, skips_of_eq hline rfl⟩
          exact
            { tree := h.tree.push _ _ rfl rfl rfl
              surrounds := hsurrounds
              mode := h.mode
              content := h.content
              formatting := .plain hmark h.formatting
              form := by
                rw [formOf, hform, ← hany, htemplate]
                rfl
              templateModes := h.templateModes
              olderRules := h.olderRules }

theorem opensBy_openItem (h : Stands modes p frames children b) (hstays : b.StaysIn p)
    (hline : b.skipLineFeed = false) (hname : ["li", "dd", "dt"].contains tag.name = true) :
    OpensBy modes p frames children tag b (itemOpening? p tag.name) (b.openItem tag) := by
  have hneutral : isNeutral ⟨.html, tag.name⟩ = true :=
    isNeutral_of_contains (by decide) hname
  rw [itemOpening?, openItem]
  dsimp only
  generalize (if (tag.name == "li") = true then ["li"] else ["dd", "dt"]) = closes
  by_cases hopen : (meets (fun e => isSpecial e && !htmlIn ["address", "div", "p"] e) (htmlIn closes)
      p.around || meets endsButtonScope (isHtml "p") p.around) = true
  · rw [if_pos hopen]
    exact opensBy_none _
  rw [if_neg hopen]
  rw [Bool.not_eq_true, Bool.or_eq_false_iff] at hopen
  have hitem := hopen.1
  rw [← h.surrounds.names, show frames.map Frame.name = b.forbidFrameset.openElements.map OpenElement.name by
    change _ = b.openElements.map OpenElement.name
    rw [h.opened_eq, List.map_map]
    rfl] at hitem
  have hinserted : OpensBy modes p frames children tag b (some (.holds p.mode))
      (.done (b.forbidFrameset.closeParagraphInScope.insertTag tag)) := by
    rw [h.forbidFrameset.closeParagraphInScope_eq hopen.2]
    exact opensBy_some ((h.forbidFrameset.opens_neutral hstays hline hneutral).behind rfl rfl)
  split
  · rename_i e hfind
    rw [if_neg (Bool.eq_false_iff.mp (find?_of_not_meets hitem hfind))]
    exact hinserted
  · exact hinserted

/-- In a ruby annotation nothing is closed whose end tag is not left out. -/
theorem closeImplied_in_ruby (h : Stands modes p frames children b) {implied : ElementName → Bool}
    (hopen : (!(meets endsScope (isHtml "ruby") p.around && p.innermost implied)) = true) :
    (if b.inScope endsScope "ruby" then b.closeImplied implied else b) = b := by
  rw [h.inScope_eq]
  rw [Bool.not_eq_true', Bool.and_eq_false_iff] at hopen
  rcases hopen with hruby | himplied
  · rw [hruby]
    rfl
  · rw [h.closeImplied_of_innermost himplied]
    exact ite_self b

theorem opensBy_textStart (h : Stands modes p frames children b) (hstays : b.StaysIn p)
    (hline : b.skipLineFeed = false)
    (hname : tag.name ∈ distinctNames → ["applet", "marquee", "object"].contains tag.name = true) :
    OpensBy modes p frames children tag b (if standsInText p tag.name then some (.holds p.mode) else none)
      (b.textStart tag) := by
  have hnamed : ∀ {names : List String}, (names.all fun name => isNeutral ⟨.html, name⟩) = true →
      names.contains tag.name = true →
      Opens modes p frames children tag (.holds p.mode) b (b.insertTag tag) :=
    fun hall hcontains => h.opens_neutral hstays hline (isNeutral_of_contains hall hcontains)
  rw [standsInText, textStart]
  dsimp only
  refine opensBy_when_ite (fun ha => opensBy_when fun hanchor => ?_) fun _ =>
    opensBy_when_ite (fun hformats => opensBy_when fun _ => ?_) fun _ =>
    opensBy_when_ite (fun hnobr => opensBy_when fun hopen => ?_) fun _ =>
    opensBy_when_ite (fun hbutton => opensBy_when fun hopen => ?_) fun _ =>
    opensBy_when_ite (fun hmarked => opensBy_when fun _ => ?_) fun hmarked =>
    opensBy_when_ite (fun hoption => opensBy_when fun hopen => ?_) fun _ =>
    opensBy_when_ite (fun hruby => opensBy_when fun hopen => ?_) fun _ =>
    opensBy_when_ite (fun hruby => opensBy_when fun hopen => ?_) fun _ => opensBy_when fun _ => ?_
  · rw [Bool.not_eq_true'] at hanchor
    rw [h.closeOpenAnchor_eq hanchor, h.reopenFormatting_eq]
    exact opensBy_some (h.opens_formatting hstays hline (by rw [beq_iff_eq.mp ha]; decide))
  · rw [h.reopenFormatting_eq]
    refine opensBy_some (h.opens_formatting hstays hline ?_)
    change ("a" :: "nobr" :: formattingNames).contains tag.name = true
    rw [List.contains_iff_mem] at hformats ⊢
    exact List.mem_cons_of_mem _ (List.mem_cons_of_mem _ hformats)
  · rw [Bool.not_eq_true'] at hopen
    rw [h.reopenFormatting_eq, h.inScope_eq, hopen]
    exact opensBy_some (h.opens_formatting hstays hline (by rw [beq_iff_eq.mp hnobr]; decide))
  · rw [Bool.not_eq_true'] at hopen
    rw [h.inScope_eq, hopen, if_neg Bool.false_ne_true, h.reopenFormatting_eq]
    exact opensBy_some (h.opens_neutral hstays hline
      (by rw [beq_iff_eq.mp hbutton]; decide)).forbidFrameset
  · have hfacts : ∀ name ∈ ["applet", "marquee", "object"],
        htmlIn ["template", "html", "form"] ⟨.html, name⟩ = false ∧ isMarkName ⟨.html, name⟩ = true ∧
          ownMode? ⟨.html, name⟩ = none := by
      decide
    obtain ⟨hnames, hmark, hown⟩ := hfacts _ (List.contains_iff_mem.mp hmarked)
    rw [h.reopenFormatting_eq, h.insertTag_eq hstays, ← h.mode]
    refine opensBy_some (Opens.forbidFrameset ?_)
    exact h.opens_marked hline _ hnames hmark (by rw [hown, h.mode]; rfl) rfl
  · rw [Bool.not_eq_true'] at hopen
    rw [h.currentIs_eq, hopen, if_neg Bool.false_ne_true, h.reopenFormatting_eq]
    exact opensBy_some (hnamed (by decide) hoption)
  · rw [h.closeImplied_in_ruby hopen]
    exact opensBy_some (hnamed (by decide) hruby)
  · rw [closeImpliedExcept, h.closeImplied_in_ruby hopen]
    exact opensBy_some (hnamed (by decide) hruby)
  · rw [h.reopenFormatting_eq]
    exact opensBy_some (h.opens_neutral hstays hline (isNeutral_of_not_mem fun hmem => hmarked (hname hmem)))

/-- The rules of the body open an element as its opening says. -/
theorem opensBy_bodyStart (h : Stands modes p frames children b) (hstays : b.StaysIn p)
    (hline : b.skipLineFeed = false) :
    OpensBy modes p frames children tag b (bodyOpening? p tag) (b.bodyStart tag) := by
  rw [bodyOpening?, bodyStart]
  dsimp only
  refine opensBy_ite (fun _ => opensBy_none _) fun hhtml =>
    opensBy_ite (fun hmetadata => ?_) fun hmetadata =>
    opensBy_ite (fun _ => opensBy_none _) fun hbody =>
    opensBy_ite (fun _ => opensBy_none _) fun hframeset =>
    opensBy_ite (fun hblock => ?_) fun _ =>
    opensBy_ite (fun hform => ?_) fun hform =>
    opensBy_ite (fun hitem => ?_) fun _ =>
    opensBy_ite (fun htable => ?_) fun htable =>
    opensBy_ite (fun hvoid => ?_) fun _ =>
    opensBy_ite (fun hvoid => ?_) fun _ =>
    opensBy_ite (fun _ => opensBy_none _) fun _ =>
    opensBy_ite (fun htextarea => ?_) fun _ =>
    opensBy_ite (fun hiframe => ?_) fun _ =>
    opensBy_ite (fun hraw => ?_) fun _ =>
    opensBy_ite (fun hselect => ?_) fun hselect =>
    opensBy_ite (fun _ => opensBy_none _) fun _ =>
    opensBy_ite (fun _ => opensBy_none _) fun _ =>
    opensBy_ite (fun _ => opensBy_none _) fun hparts => ?_
  · refine h.opensBy_metadataStart hstays hline ?_
    rw [List.contains_iff_mem] at hmetadata ⊢
    exact List.mem_cons_of_mem _ hmetadata
  · refine h.opensBy_blockStart hstays hline ?_
    simpa only [List.contains_iff_mem, List.mem_append, Bool.or_eq_true] using hblock
  · exact h.opensBy_openForm hstays hline (beq_iff_eq.mp hform)
  · exact h.opensBy_openItem hstays hline hitem
  · rw [h.olderRules, if_pos rfl]
    have hname := beq_iff_eq.mp htable
    exact opensBy_some (h.opens_own hstays hline .inTable (by rw [hname]; decide)
      (by rw [hname]; decide) (by rw [hname]; decide)).forbidFrameset
  · have hopens := h.opens_void hstays hline (isNeutral_of_contains (by decide) hvoid)
    rw [voidInText, h.reopenFormatting_eq]
    refine opensBy_some ?_
    split
    · exact hopens
    · exact hopens.forbidFrameset
  · exact opensBy_some (h.opens_void hstays hline (isNeutral_of_contains (by decide) hvoid))
  · have hname := beq_iff_eq.mp htextarea
    exact opensBy_some (((h.forbidFrameset.skipping true).opens_text hstays (fun _ => by rw [hname]; decide)
      (by rw [hname]; decide) _).behind rfl rfl)
  · exact opensBy_some ((h.forbidFrameset.opens_text hstays (skips_of_eq hline rfl)
      (by rw [beq_iff_eq.mp hiframe]; decide) _).behind rfl rfl)
  · exact opensBy_some (h.opens_text hstays (skips_of_eq hline rfl) (isNeutral_of_contains (by decide) hraw) _)
  · have hname := beq_iff_eq.mp hselect
    have hopens : ∀ mode : Mode, mode.canonical = .inSelect →
        Opens modes p frames children tag (.holds mode.canonical) b
          ((b.insertTag tag).enter mode).forbidFrameset := fun mode hmode =>
      (h.opens_own hstays hline mode (by rw [hname, hmode]; decide)
        (by rw [hname]; decide) (by rw [hname]; decide)).forbidFrameset
    rw [openSelect, h.reopenFormatting_eq]
    refine opensBy_some ?_
    split
    · exact hopens .inSelectInTable rfl
    · exact hopens .inSelect rfl
  · refine h.opensBy_textStart hstays hline fun hmem => ?_
    have hall : ∀ name ∈ distinctNames, (name == "html") = true ∨ metadataNames.contains name = true ∨
        (name == "body") = true ∨ (name == "frameset") = true ∨ (name == "form") = true ∨
        (name == "table") = true ∨ (name == "select") = true ∨
        (tableGroupNames.contains name || ["frame", "head", "td", "th", "tr"].contains name) = true ∨
        ["applet", "marquee", "object"].contains name = true := by
      decide
    simpa only [hhtml, hmetadata, hbody, hframeset, hform, htable, hselect, hparts, false_or,
      Bool.false_eq_true] using hall _ hmem

/-! ### The modes -/

theorem staysIn (hfoster : b.fosterParenting = false) (p : Site) : b.StaysIn p := by
  rw [StaysIn, hfoster]
  rfl

/-- What no table part is in the way of is read in a table as in the body. -/
theorem opensBy_inBodyFostered (h : Stands modes p frames children b) (hfoster : b.fosterParenting = false)
    (hline : b.skipLineFeed = false) :
    OpensBy modes p frames children tag b (if p.innermost isTablePart then none else bodyOpening? p tag)
      (b.inBodyFostered (.startTag tag)) := by
  intro opening hopening
  split at hopening
  · cases hopening
  · rename_i hpart
    have hstays : StaysIn { b with fosterParenting := true } p := Bool.eq_false_iff.mpr hpart
    obtain ⟨b', hrule, hopens⟩ :=
      (h.fostering true).opensBy_bodyStart hstays hline opening hopening
    refine ⟨{ b' with fosterParenting := false }, ?_, hopens.fostering hfoster⟩
    have hbody : ({ b with fosterParenting := true } : Builder).inBody (.startTag tag) = .done b' := hrule
    rw [inBodyFostered, hbody]

theorem opensBy_openTablePart (h : Stands modes p frames children b) (hfoster : b.fosterParenting = false)
    (hline : b.skipLineFeed = false) {context : ElementName → Bool} (mode : Mode)
    (hmode : ownMode? ⟨.html, tag.name⟩ = some mode.canonical)
    (hnames : htmlIn ["template", "html", "form"] ⟨.html, tag.name⟩ = false)
    (hmark : isMarkName ⟨.html, tag.name⟩ = false) :
    OpensBy modes p frames children tag b (if p.innermost context then some (.holds mode.canonical) else none)
      (b.openTablePart context tag mode) := by
  refine opensBy_when fun hcontext => ?_
  rw [openTablePart, h.popTo_of_innermost hcontext]
  exact opensBy_some (h.opens_own (staysIn hfoster p) hline mode hmode hnames hmark)

/-- A form in a table is closed at once. -/
theorem opens_shut (h : Stands modes p frames children b) (hstays : b.StaysIn p)
    (hline : b.skipLineFeed = false) (hname : tag.name = "form")
    (htemplate : p.around.any (isHtml "template") = false) (hform : b.form = none) :
    Opens modes p frames children tag .shut b
      { b.insertTagClosed tag with form := some (b.upcoming ⟨.html, "form"⟩) } := by
  obtain ⟨hstands, hfoster, hskips⟩ := h.insertClosed hstays
    (show isHtml "template" ⟨.html, tag.name⟩ = false by rw [hname]; rfl)
    (tag.attributes.map Attribute.ofPair)
  have hopened : some (b.upcoming ⟨.html, "form"⟩) = some (b.frameFor children tag).opened := by
    rw [← hname]
    rfl
  have hnone : none = (b.insertTagClosed tag).form := (hstands.form.trans (h.form.symm.trans hform)).symm
  exact
    ⟨⟨hstands.alike rfl rfl rfl rfl rfl rfl hnone rfl rfl, hopened, htemplate, h.tree.growing⟩, hfoster,
      skips_of_eq hline hskips⟩

theorem opensBy_tableStart (h : Stands modes p frames children b) (hfoster : b.fosterParenting = false)
    (hline : b.skipLineFeed = false) :
    OpensBy modes p frames children tag b (tableOpening? p tag) (b.tableStart tag) := by
  have hstays := staysIn hfoster p
  rw [tableOpening?, tableStart]
  dsimp only
  refine opensBy_ite (fun hcaption => opensBy_when fun hcontext => ?_) fun _ =>
    opensBy_ite (fun hcolgroup => ?_) fun _ =>
    opensBy_ite (fun _ => opensBy_none _) fun _ =>
    opensBy_ite (fun hgroup => ?_) fun _ =>
    opensBy_ite (fun _ => opensBy_none _) fun _ =>
    opensBy_ite (fun _ => opensBy_none _) fun _ =>
    opensBy_ite (fun hmetadata => ?_) fun _ => ?_
  · have hname := beq_iff_eq.mp hcaption
    have hmarked : Tree frames children b.markFormatting :=
      ⟨h.tree.branches, h.tree.opened, h.tree.growing, h.tree.below⟩
    rw [h.popTo_of_innermost hcontext]
    refine opensBy_some (h.opens_marked hline .inCaption (by rw [hname]; decide)
      (by rw [hname]; decide) (by rw [hname]; rfl) ?_)
    obtain ⟨f, around, rfl, haround⟩ := h.exists_cons
    rw [insertTag, hmarked.insertOpen_eq]
    · rfl
    · change (b.fosterParenting && _) = false
      rw [hfoster]
      rfl
  · have hname := beq_iff_eq.mp hcolgroup
    exact h.opensBy_openTablePart hfoster hline .inColumnGroup (by rw [hname]; decide)
      (by rw [hname]; decide) (by rw [hname]; decide)
  · have hfacts : ∀ name ∈ ["tbody", "tfoot", "thead"], ownMode? ⟨.html, name⟩ = some .inTableBody ∧
        htmlIn ["template", "html", "form"] ⟨.html, name⟩ = false ∧ isMarkName ⟨.html, name⟩ = false := by
      decide
    obtain ⟨hmode, hnames, hmark⟩ := hfacts _ (List.contains_iff_mem.mp hgroup)
    exact h.opensBy_openTablePart hfoster hline .inTableBody hmode hnames hmark
  · refine h.opensBy_metadataStart hstays hline ?_
    rw [List.contains_iff_mem] at hmetadata ⊢
    exact (by decide : ∀ name ∈ ["style", "script", "template"], name ∈ "noscript" :: metadataNames) _ hmetadata
  · by_cases hinput : (tag.name == "input") = true
    · rw [if_pos hinput, hinput, Bool.true_and]
      by_cases hhidden : isHiddenInput tag = true
      · rw [if_pos hhidden, if_pos hhidden]
        exact opensBy_some (h.opens_void hstays hline (by rw [beq_iff_eq.mp hinput]; decide))
      · have hform : ¬(tag.name == "form") = true := by rw [beq_iff_eq.mp hinput]; decide
        rw [if_neg hhidden, if_neg hhidden, if_neg hform]
        exact h.opensBy_inBodyFostered hfoster hline
    · rw [if_neg hinput, Bool.eq_false_iff.mpr hinput, Bool.false_and, if_neg Bool.false_ne_true]
      refine opensBy_ite (fun hform => ?_) fun _ => h.opensBy_inBodyFostered hfoster hline
      rw [h.hasOpen_eq, h.form]
      by_cases htemplate : p.around.any (isHtml "template") = true
      · rw [htemplate, Bool.true_or, if_pos rfl]
        exact opensBy_none _
      · rw [Bool.not_eq_true] at htemplate
        rw [formOf_isSome (h.any_isHtml_eq "template" ▸ htemplate), ← h.any_isHtml_eq "form", htemplate,
          Bool.false_or]
        by_cases hopen : p.around.any (isHtml "form") = true
        · rw [if_pos hopen]
          exact opensBy_none _
        · rw [if_neg hopen, if_neg hopen]
          rw [Bool.not_eq_true, h.any_isHtml_eq] at hopen
          exact opensBy_some (h.opens_shut hstays hline (beq_iff_eq.mp hform) htemplate
            (h.form.trans (formOf_eq_none hopen)))

theorem contains_partNames (name : String) :
    partNames.contains name = (tableGroupNames.contains name || ["td", "th", "tr"].contains name) := by
  rw [Bool.eq_iff_iff, Bool.or_eq_true, List.contains_iff_mem, List.contains_iff_mem, List.contains_iff_mem,
    ← List.mem_append, partNames]
  simp only [List.mem_append, List.mem_cons, List.not_mem_nil]
  tauto

theorem opensBy_inTableBody (h : Stands modes p frames children b) (hfoster : b.fosterParenting = false)
    (hline : b.skipLineFeed = false) (hmode : p.mode = .inTableBody) :
    OpensBy modes p frames children tag b (opening? p tag) (b.inTableBody (.startTag tag)) := by
  rw [opening?, hmode]
  refine opensBy_ite (fun hrow => ?_) fun _ => opensBy_else (fun hcell => if_pos ?_)
    (opensBy_else (fun hgroup => if_pos ?_) (opensBy_unless (h.opensBy_tableStart hfoster hline)))
  · have hname := beq_iff_eq.mp hrow
    exact h.opensBy_openTablePart hfoster hline .inRow (by rw [hname]; decide)
      (by rw [hname]; decide) (by rw [hname]; decide)
  · rw [List.contains_iff_mem] at hcell ⊢
    exact (by decide : ∀ name ∈ ["th", "td"], name ∈ partNames) _ hcell
  · rw [contains_partNames, hgroup, Bool.true_or]

theorem opensBy_inRow (h : Stands modes p frames children b) (hfoster : b.fosterParenting = false)
    (hline : b.skipLineFeed = false) (hmode : p.mode = .inRow) :
    OpensBy modes p frames children tag b (opening? p tag) (b.inRow (.startTag tag)) := by
  rw [opening?, hmode]
  refine opensBy_ite (fun hcell => opensBy_when fun hcontext => ?_) fun _ =>
    opensBy_else (fun hpart => if_pos ?_) (opensBy_unless (h.opensBy_tableStart hfoster hline))
  · have hfacts : ∀ name ∈ ["th", "td"], ownMode? ⟨.html, name⟩ = some .inCell ∧
        htmlIn ["template", "html", "form"] ⟨.html, name⟩ = false ∧ isMarkName ⟨.html, name⟩ = true := by
      decide
    obtain ⟨hown, hnames, hmark⟩ := hfacts _ (List.contains_iff_mem.mp hcell)
    rw [h.popTo_of_innermost hcontext, h.insertTag_eq (staysIn hfoster p)]
    exact opensBy_some (h.opens_marked hline .inCell hnames hmark (by rw [hown]; rfl) rfl)
  · rw [contains_partNames]
    rw [Bool.or_eq_true] at hpart ⊢
    refine hpart.imp_right fun hrow => ?_
    rw [beq_iff_eq.mp hrow]
    decide

theorem opensBy_inSelect (h : Stands modes p frames children b) (hfoster : b.fosterParenting = false)
    (hline : b.skipLineFeed = false) (hmode : p.mode = .inSelect) :
    OpensBy modes p frames children tag b (selectOpening? p tag.name) (b.inSelect (.startTag tag)) := by
  have hstays := staysIn hfoster p
  have hoptions : p.innermost (htmlIn ["option", "optgroup"]) = false → b.popOption.popOptionGroup = b := by
    intro hinnermost
    obtain ⟨f, around, rfl, haround⟩ := h.exists_cons
    rw [Site.innermost, haround] at hinnermost
    have hoption : b.currentIs (isHtml "option") = false := by
      rw [h.currentIs_eq, Site.innermost, haround]
      exact isHtml_eq_false hinnermost (by simp : "option" ∈ _)
    have hgroup : b.currentIs (isHtml "optgroup") = false := by
      rw [h.currentIs_eq, Site.innermost, haround]
      exact isHtml_eq_false hinnermost (by simp : "optgroup" ∈ _)
    rw [popOption, hoption, if_neg Bool.false_ne_true, popOptionGroup, hgroup, if_neg Bool.false_ne_true]
  rw [selectOpening?]
  refine opensBy_else (fun hhtml => ?_) (opensBy_ite (fun hoption => ?_) fun _ =>
    opensBy_ite (fun hgroup => opensBy_unless_some fun hinnermost => ?_) fun _ =>
    opensBy_ite (fun hrule => opensBy_unless_some fun hinnermost => ?_) fun _ =>
    opensBy_else (fun hselect => ?_) (opensBy_else (fun hinput => ?_)
      (opensBy_ite (fun hmetadata => ?_) fun _ => opensBy_none _)))
  · rw [beq_iff_eq.mp hhtml]
    rfl
  · rw [popOption, h.currentIs_eq]
    by_cases hinnermost : p.innermost (isHtml "option") = true
    · rw [if_pos hinnermost]
      exact opensBy_none _
    · rw [if_neg hinnermost, if_neg hinnermost, ← hmode]
      exact opensBy_some (h.opens_neutral hstays hline (by rw [beq_iff_eq.mp hoption]; decide))
  · rw [hoptions hinnermost, ← hmode]
    exact opensBy_some (h.opens_neutral hstays hline (by rw [beq_iff_eq.mp hgroup]; decide))
  · rw [hoptions hinnermost]
    exact opensBy_some (h.opens_void hstays hline (by rw [beq_iff_eq.mp hrule]; decide))
  · rw [beq_iff_eq.mp hselect]
    rfl
  · rw [List.contains_iff_mem] at hinput
    rw [if_neg]
    rw [List.contains_iff_mem]
    exact (by decide : ∀ name ∈ ["input", "keygen", "textarea"], name ∉ ["script", "template"]) _ hinput
  · refine h.opensBy_metadataStart hstays hline ?_
    rw [List.contains_iff_mem] at hmetadata ⊢
    exact (by decide : ∀ name ∈ ["script", "template"], name ∈ "noscript" :: metadataNames) _ hmetadata

theorem mode_eq (h : Stands modes p frames children b) (hmode : p.mode ≠ .inSelect) : b.mode = p.mode := by
  have hcanonical := h.mode
  cases hb : b.mode with
  | inSelectInTable =>
      rw [hb] at hcanonical
      exact absurd hcanonical.symm hmode
  | _ =>
      rw [hb] at hcanonical
      exact hcanonical

/-- Metadata is opened by the rules of the head in the modes that leave it to them. -/
theorem opensBy_metadata_of_contains (h : Stands modes p frames children b)
    (hfoster : b.fosterParenting = false) (hline : b.skipLineFeed = false) (names : List String)
    (hname : names.contains tag.name = true) (hall : ∀ name ∈ names, name ∈ "noscript" :: metadataNames) :
    OpensBy modes p frames children tag b (some (metadataOpening tag.name)) (b.metadataStart tag) :=
  h.opensBy_metadataStart (staysIn hfoster p) hline
    (List.contains_iff_mem.mpr (hall _ (List.contains_iff_mem.mp hname)))

theorem opensBy_byMode_inSelect (h : Stands modes p frames children b) (hfoster : b.fosterParenting = false)
    (hline : b.skipLineFeed = false) (hmode : p.mode = .inSelect) :
    OpensBy modes p frames children tag b (opening? p tag) (b.byMode (.startTag tag)) := by
  have hinSelect :
      OpensBy modes p frames children tag b (selectOpening? p tag.name) (b.inSelect (.startTag tag)) :=
    h.opensBy_inSelect hfoster hline hmode
  have hcanonical := h.mode
  rw [opening?, hmode]
  rw [hmode] at hcanonical
  rw [byMode]
  -- In a table the select has a mode of its own, which adds what the parts of a table do.
  cases hb : b.mode with
  | inSelect => exact hinSelect
  | inSelectInTable =>
      refine opensBy_else (fun hpart => ?_) hinSelect
      revert hpart
      rw [List.contains_iff_mem]
      refine fun hpart => (?_ : ∀ name ∈ ["caption", "table", "tbody", "tfoot", "thead", "tr", "td", "th"],
        selectOpening? p name = none) _ hpart
      simp [selectOpening?]
  | _ =>
      rw [hb] at hcanonical
      cases hcanonical

theorem opensBy_inColumnGroup (h : Stands modes p frames children b) (hfoster : b.fosterParenting = false)
    (hline : b.skipLineFeed = false) (hmode : p.mode = .inColumnGroup) :
    OpensBy modes p frames children tag b (opening? p tag) (b.inColumnGroup (.startTag tag)) := by
  rw [opening?, hmode]
  refine opensBy_else (fun hhtml => ?_) (opensBy_ite (fun hcol => ?_) fun _ =>
    opensBy_ite (fun htemplate => ?_) fun _ => opensBy_none _)
  · rw [beq_iff_eq.mp hhtml]
    rfl
  · exact opensBy_some (h.opens_void (staysIn hfoster p) hline (by rw [beq_iff_eq.mp hcol]; decide))
  · have hopens : OpensBy modes p frames children tag b (some (metadataOpening tag.name)) (b.metadataStart tag) :=
      h.opensBy_metadata_of_contains hfoster hline ["template"]
        (by rw [beq_iff_eq.mp htemplate]; decide) (by decide)
    rwa [beq_iff_eq.mp htemplate] at hopens

theorem opensBy_inHead (h : Stands modes p frames children b) (hfoster : b.fosterParenting = false)
    (hline : b.skipLineFeed = false) (hmode : p.mode = .inHead) :
    OpensBy modes p frames children tag b (opening? p tag) (b.inHead (.startTag tag)) := by
  rw [opening?, hmode]
  refine opensBy_else (fun hhtml => ?_) (opensBy_ite (fun hname => ?_) fun _ => opensBy_none _)
  · rw [beq_iff_eq.mp hhtml]
    rfl
  · refine h.opensBy_metadataStart (staysIn hfoster p) hline ?_
    rw [List.contains_cons, Bool.or_comm]
    exact hname

/-- A frameset in another one is read in the mode that is entered already. -/
theorem opens_innerFrameset (h : Stands modes p frames children b) (hfoster : b.fosterParenting = false)
    (hline : b.skipLineFeed = false) (hmode : p.mode = .inFrameset) (hname : tag.name = "frameset") :
    Opens modes p frames children tag (.holds .inFrameset) b (b.insertTag tag) := by
  have hfacts : ownMode? ⟨.html, "frameset"⟩ = some .inFrameset ∧
      htmlIn ["template", "html", "form"] ⟨.html, "frameset"⟩ = false ∧
      isMarkName ⟨.html, "frameset"⟩ = false := by
    decide
  have hopens : Opens modes p frames children tag (.holds .inFrameset) b
      ((b.insertTag tag).enter .inFrameset) := h.opens_own (staysIn hfoster p) hline .inFrameset
    (by rw [hname]; exact hfacts.1) (by rw [hname]; exact hfacts.2.1) (by rw [hname]; exact hfacts.2.2)
  rw [h.insertTag_eq (staysIn hfoster p)] at hopens ⊢
  have henter : (b.push frames (b.frameFor children tag)).enter .inFrameset =
      b.push frames (b.frameFor children tag) :=
    congrArg (b.push frames (b.frameFor children tag)).enter
      ((h.mode_eq (by rw [hmode]; decide)).trans hmode).symm
  rwa [henter] at hopens

theorem opensBy_inFrameset (h : Stands modes p frames children b) (hfoster : b.fosterParenting = false)
    (hline : b.skipLineFeed = false) (hmode : p.mode = .inFrameset) :
    OpensBy modes p frames children tag b (opening? p tag) (b.inFrameset (.startTag tag)) := by
  rw [opening?, hmode]
  refine opensBy_else (fun hhtml => ?_) (opensBy_ite (fun hname => opensBy_when fun _ => ?_) fun _ =>
    opensBy_ite (fun hname => ?_) fun _ => opensBy_ite (fun hname => ?_) fun _ => opensBy_none _)
  · rw [beq_iff_eq.mp hhtml]
    rfl
  · exact opensBy_some (h.opens_innerFrameset hfoster hline hmode (beq_iff_eq.mp hname))
  · exact opensBy_some (h.opens_void (staysIn hfoster p) hline (by rw [beq_iff_eq.mp hname]; decide))
  · exact h.opensBy_metadata_of_contains hfoster hline ["noframes"]
      (by rw [beq_iff_eq.mp hname]; decide) (by decide)

/-- At every site the rules open an element as its opening says. -/
theorem opensBy_byMode (h : Stands modes p frames children b) (hfoster : b.fosterParenting = false)
    (hline : b.skipLineFeed = false) :
    OpensBy modes p frames children tag b (opening? p tag) (b.byMode (.startTag tag)) := by
  by_cases hselect : p.mode = .inSelect
  · exact h.opensBy_byMode_inSelect hfoster hline hselect
  · have hbody : OpensBy modes p frames children tag b (bodyOpening? p tag) (b.bodyStart tag) :=
      h.opensBy_bodyStart (staysIn hfoster p) hline
    rw [byMode, h.mode_eq hselect]
    cases hp : p.mode with
    | inBody =>
        rw [opening?, hp]
        exact hbody
    | inCaption | inCell =>
        rw [opening?, hp]
        exact opensBy_else (fun hpart => if_pos ((contains_partNames _).trans hpart)) (opensBy_unless hbody)
    | inTable =>
        rw [opening?, hp]
        exact h.opensBy_tableStart hfoster hline
    | inTableBody => exact h.opensBy_inTableBody hfoster hline hp
    | inRow => exact h.opensBy_inRow hfoster hline hp
    | inColumnGroup => exact h.opensBy_inColumnGroup hfoster hline hp
    | inTemplate =>
        rw [opening?, hp]
        exact opensBy_ite (fun hname => h.opensBy_metadata_of_contains hfoster hline _ hname
          fun _ hmem => List.mem_cons_of_mem _ hmem) fun _ => opensBy_none _
    | inHead => exact h.opensBy_inHead hfoster hline hp
    | inFrameset => exact h.opensBy_inFrameset hfoster hline hp
    | inSelect => exact absurd hp hselect
    | _ =>
        rw [opening?, hp]
        exact opensBy_none _

end Stands

end Builder

end MarkupModule.Markup.Construction
