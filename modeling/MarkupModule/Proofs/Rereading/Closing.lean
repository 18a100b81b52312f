import MarkupModule.Proofs.Rereading.Opening

/-! End tags at a site. The end tag of the innermost element closes it and nothing else: the element becomes
the last child of the one around it, and the state stands where it stood before the element was opened. -/

namespace MarkupModule.Markup.Construction

open MarkupModule.Text

namespace Marked

variable {f : Frame} {around : List Frame} {entries : List Formatting}

theorem of_plain (h : Marked (f :: around) entries) (hmark : isMarkName f.name = false)
    (hformats : isFormattingName f.name = false) : Marked around entries := by
  cases h with
  | plain _ h => exact h
  | mark hname _ =>
      rw [hmark] at hname
      cases hname
  | entry _ hname _ =>
      rw [hformats] at hname
      cases hname

theorem of_mark (h : Marked (f :: around) entries) (hmark : isMarkName f.name = true) :
    ∃ rest, entries = .mark :: rest ∧ Marked around rest := by
  cases h with
  | plain hname _ =>
      rw [hmark] at hname
      cases hname
  | mark _ h => exact ⟨_, rfl, h⟩
  | entry _ hname _ =>
      rw [isMarkName_of_isFormattingName hname] at hmark
      cases hmark

end Marked

namespace Builder

/-- A rule for the end tag of the innermost element closes it. -/
def ClosesBy (modes : List Mode) (p : Site) (frames : List Frame) (children : List Branch) (b : Builder)
    (rule : Outcome) : Prop :=
  ∃ b', rule = .done b' ∧ Stands modes p frames children b' ∧ b'.fosterParenting = b.fosterParenting ∧
    b'.skipLineFeed = b.skipLineFeed

namespace Stands

variable {b : Builder} {modes modes' : List Mode} {p q : Site} {f : Frame} {around : List Frame}
  {children : List Branch}

/-- The innermost element is closed, and the state stands where it stood before. -/
theorem closed (h : Stands modes' q (f :: around) children b) (hsurrounds : Surrounds modes p around)
    {b' : Builder} (hbranches : b'.branches = b.branches) (hopened : b'.openElements = around.map Frame.opened)
    (hserial : b'.nextSerial = b.nextSerial) (hmode : b'.mode.canonical = p.mode)
    (hcontent : b'.content = .markup) (hformatting : Marked around b'.formatting)
    (hform : b'.form = formOf around) (hmodes : b'.templateModes = modes)
    (holder : b'.olderRules = b.olderRules) : Stands modes p around (f.filled children) b' where
  tree := h.tree.pop hbranches hopened hserial
  surrounds := hsurrounds
  mode := hmode
  content := hcontent
  formatting := hformatting
  form := hform
  templateModes := hmodes
  olderRules := holder.trans h.olderRules

/-! ### The innermost element -/

theorem innermost_eq (h : Stands modes' q (f :: around) children b) (condition : ElementName → Bool) :
    q.innermost condition = condition f.name := by
  rw [Site.innermost, ← h.surrounds.names]
  rfl

theorem reaches_innermost (h : Stands modes' q (f :: around) children b) (ends : ElementName → Bool)
    {target : OpenElement → Bool} (htarget : target f.opened = true) :
    reaches ends target b.openElements = true := by
  rw [h.opened_eq, List.map_cons, reaches, htarget]
  rfl

theorem popThrough_eq (h : Stands modes' q (f :: around) children b) {condition : ElementName → Bool}
    (hname : condition f.name = true) : b.popThrough condition = b.pop := by
  have hdrop : ((f :: around).map Frame.opened).dropWhile (fun e => !condition e.name) =
      (f :: around).map Frame.opened :=
    List.dropWhile_cons_of_neg (by change ¬(!condition f.name) = true; rw [hname]; decide)
  rw [popThrough, pop, h.opened_eq, hdrop]

theorem openElements_pop (h : Stands modes' q (f :: around) children b) :
    b.pop.openElements = around.map Frame.opened := by
  rw [pop, h.opened_eq]
  rfl

/-- What is closed with the innermost element when nothing in it has its end tag left out. -/
theorem popThrough_closeImplied (h : Stands modes' q (f :: around) children b)
    {condition implied : ElementName → Bool} (hname : condition f.name = true)
    (himplied : implied f.name = false) : (b.closeImplied implied).popThrough condition = b.pop := by
  rw [h.closeImplied_of_innermost ((h.innermost_eq implied).trans himplied), h.popThrough_eq hname]

/-- Closing an element that leaves the mode, the form and the formatting as they are. -/
theorem closesBy_pop (h : Stands modes q (f :: around) children b) (hsurrounds : Surrounds modes p around)
    (hmode : q.mode = p.mode) (hform : isHtml "form" f.name = false) (hmark : isMarkName f.name = false)
    (hformats : isFormattingName f.name = false) :
    ClosesBy modes p around (f.filled children) b (.done b.pop) :=
  ⟨b.pop, rfl, h.closed hsurrounds rfl h.openElements_pop rfl (h.mode.trans hmode) h.content
    (h.formatting.of_plain hmark hformats) (h.form.trans (formOf_cons_of_ne hform around)) h.templateModes rfl,
    rfl, rfl⟩

/-- Closing an element that formatting is not taken up across. -/
theorem closesBy_pop_marked (h : Stands modes q (f :: around) children b)
    (hsurrounds : Surrounds modes p around) {mode : Mode} (hmode : mode.canonical = p.mode)
    (hform : isHtml "form" f.name = false) (hmark : isMarkName f.name = true) :
    ClosesBy modes p around (f.filled children) b (.done (b.pop.dropRecentFormatting.enter mode)) := by
  obtain ⟨rest, hentries, hrest⟩ := h.formatting.of_mark hmark
  have hformatting : (b.pop.dropRecentFormatting.enter mode).formatting = rest := by
    change (b.formatting.dropWhile (· != .mark)).drop 1 = rest
    rw [hentries, List.dropWhile_cons_of_neg (by decide)]
    rfl
  exact ⟨_, rfl, h.closed hsurrounds rfl h.openElements_pop rfl hmode h.content (hformatting ▸ hrest)
    (h.form.trans (formOf_cons_of_ne hform around)) h.templateModes rfl, rfl, rfl⟩

theorem growing_around (h : Stands modes' q (f :: around) children b) : Growing f.serial around := by
  cases h.tree.growing with
  | cons _ _ haround => exact haround

theorem isHtml_form_of_formats {name : ElementName} (h : isFormattingName name = true) :
    isHtml "form" name = false := by
  obtain ⟨space, name⟩ := name
  refine Bool.eq_false_iff.mpr fun hform => ?_
  obtain ⟨hspace, hname⟩ := Bool.and_eq_true_iff.mp hform
  obtain rfl : space = .html := beq_iff_eq.mp hspace
  obtain rfl : name = "form" := beq_iff_eq.mp hname
  revert h
  decide

/-- The end tag of a formatting element closes it and forgets its entry, if it has one. -/
theorem closesBy_closeFormatting (h : Stands modes q (f :: around) children b)
    (hsurrounds : Surrounds modes p around) (hmode : q.mode = p.mode)
    (hformats : isFormattingName f.name = true) {name : String} (hname : isHtml name f.name = true) :
    ClosesBy modes p around (f.filled children) b (.done (b.closeFormatting name)) := by
  have hform := h.form.trans (formOf_cons_of_ne (isHtml_form_of_formats hformats) around)
  have hforgotten : ∀ {entries : List Formatting}, Marked around entries →
      ∀ e ∈ entries, serialOf e ≠ some f.serial :=
    fun hmarked _ he => hmarked.serialOf_ne h.growing_around he
  have hclosed : ∀ {entries : List Formatting}, Marked around entries →
      Stands modes p around (f.filled children) { b.pop with formatting := entries } :=
    fun hmarked => h.closed hsurrounds rfl h.openElements_pop rfl (h.mode.trans hmode) h.content hmarked hform
      h.templateModes rfl
  have hopened := h.opened_eq
  rw [List.map_cons] at hopened
  generalize hentries : b.formatting = entries at *
  have hmarked := h.formatting
  rw [hentries] at hmarked
  cases hmarked with
  | plain _ hmarked =>
      have hnone : (b.formatting.any fun e => serialOf e == some f.opened.serial) = false := by
        rw [hentries, List.any_eq_false]
        exact fun e he => by rw [beq_iff_eq]; exact hforgotten hmarked e he
      have hpop : b.closeFormatting name = b.pop := by
        rw [closeFormatting, hopened]
        dsimp only
        rw [hnone, Frame.opened, hname]
        rfl
      rw [hpop]
      have hstands := hclosed hmarked
      rw [← hentries] at hstands
      exact ⟨b.pop, rfl, hstands, rfl, rfl⟩
  | mark hmark _ =>
      rw [isMarkName_of_isFormattingName hformats] at hmark
      cases hmark
  | entry htag hentry hmarked =>
      rename_i entries tag
      have htagname : (tag.name == name) = true := by
        rw [htag] at hname
        exact hname
      have hsome : (b.formatting.any fun e => serialOf e == some f.opened.serial) = true := by
        rw [hentries, List.any_cons]
        exact Bool.or_eq_true_iff.mpr (Or.inl (beq_self_eq_true _))
      have hwithin : b.closeFormatting name = closeFormattingWithin 8 b name := by
        rw [closeFormatting, hopened]
        dsimp only
        rw [hsome, Bool.not_true, Bool.and_false, if_neg Bool.false_ne_true]
      have hclose : closeFormattingWithin 8 b name = { b.pop with formatting := entries } := by
        have hforget : (entries.filter fun e => serialOf e != some f.serial) = entries :=
          List.filter_eq_self.mpr fun e he => bne_iff_ne.mpr (hforgotten hmarked e he)
        have hself : serialOf (.element f.serial tag) = some f.serial := rfl
        rw [closeFormattingWithin, recentFormatting, hentries]
        simp [htagname, hopened, Frame.opened, reaches, forgetFormatting, hentries, hself, hforget, pop]
      rw [hwithin, hclose]
      exact ⟨_, rfl, hclosed hmarked, rfl, rfl⟩

/-- The end tag of a form closes it, and outside of templates no element belongs to it any more. -/
theorem closesBy_endForm (h : Stands modes q (f :: around) children b) (hsurrounds : Surrounds modes p around)
    (hmode : q.mode = p.mode) (hname : f.name = ⟨.html, "form"⟩)
    (hnested : p.around.any (isHtml "template") = true ∨ p.around.any (isHtml "form") = false) :
    ClosesBy modes p around (f.filled children) b b.endForm := by
  have hmarked : Marked around b.formatting :=
    h.formatting.of_plain (by rw [hname]; rfl) (by rw [hname]; decide)
  have htemplate : q.around.any (isHtml "template") = p.around.any (isHtml "template") := by
    rw [← h.surrounds.names, ← hsurrounds.names, List.map_cons, List.any_cons, hname]
    rfl
  have haround : ∀ name, p.around.any (isHtml name) = around.any fun a => isHtml name a.name := by
    intro name
    rw [← hsurrounds.names, List.any_map]
    rfl
  have hformOf : b.form = if p.around.any (isHtml "template") then formOf around else some f.opened := by
    rw [h.form, formOf, hname, ← haround]
    cases p.around.any (isHtml "template") <;> rfl
  rw [endForm, h.hasOpen_eq, htemplate]
  cases hopen : p.around.any (isHtml "template") with
  | true =>
      have hscope : b.inScope endsScope "form" = true := h.reaches_innermost _ (by rw [Frame.opened, hname]; rfl)
      rw [hopen] at hformOf
      rw [if_pos rfl, hscope, if_pos rfl, closeNamed,
        h.popThrough_closeImplied (by rw [hname]; rfl) (by rw [hname]; decide)]
      exact ⟨b.pop, rfl, h.closed hsurrounds rfl h.openElements_pop rfl (h.mode.trans hmode) h.content hmarked
        hformOf h.templateModes rfl, rfl, rfl⟩
  | false =>
      rw [hopen] at hformOf hnested
      have hscope : reaches endsScope (fun e => e.serial == f.serial) b.openElements = true :=
        h.reaches_innermost _ (beq_self_eq_true f.serial)
      have hreleased : ({ b with form := none } : Builder).closeImplied endsImplied = { b with form := none } :=
        congrArg (fun b' : Builder => { b' with form := none })
          (h.closeImplied_of_innermost ((h.innermost_eq _).trans (by rw [hname]; decide)))
      have hkept : ((f :: around).map Frame.opened).filter (fun e => e.serial != f.serial) =
          around.map Frame.opened := by
        rw [List.map_cons, List.filter_cons_of_neg (by simp [Frame.opened]), List.filter_eq_self]
        intro e he
        obtain ⟨g, hg, rfl⟩ := List.mem_map.mp he
        exact bne_iff_ne.mpr (Nat.ne_of_lt (h.growing_around.serial_lt hg))
      have hnone : formOf around = none :=
        formOf_eq_none ((haround "form").symm.trans (hnested.resolve_left Bool.false_ne_true))
      rw [if_neg Bool.false_ne_true, hformOf]
      dsimp only
      rw [if_neg Bool.false_ne_true]
      dsimp only [Frame.opened]
      rw [hscope, if_pos rfl, hreleased]
      exact ⟨_, rfl, h.closed hsurrounds rfl (by rw [forgetOpen, h.opened_eq]; exact hkept) rfl
        (h.mode.trans hmode) h.content hmarked hnone.symm h.templateModes rfl, rfl, rfl⟩

/-! ### The rules of the body -/

theorem closesBy_ite {branches : List Branch} {condition : Prop} [Decidable condition] {rule rule' : Outcome}
    (h : condition → ClosesBy modes p around branches b rule)
    (h' : ¬condition → ClosesBy modes p around branches b rule') :
    ClosesBy modes p around branches b (if condition then rule else rule') := by
  split
  · exact h ‹_›
  · exact h' ‹_›

end Stands

/-- The names of elements that the rules of the body do not close, or not as what they are. -/
def unheldNames : List String :=
  "br" :: "table" :: "body" :: "html" :: "template" :: partNames

theorem isMarkName_of_held {name : String} (h : name ∉ unheldNames)
    (hmarked : ["applet", "marquee", "object"].contains name = false) : isMarkName ⟨.html, name⟩ = false := by
  have hall : ∀ n ∈ ["applet", "marquee", "object", "template", "td", "th", "caption"],
      ["applet", "marquee", "object"].contains n = true ∨ n ∈ unheldNames := by
    decide
  refine Bool.eq_false_iff.mpr fun hmark => ?_
  rcases hall name (List.contains_iff_mem.mp hmark) with hmem | hmem
  · rw [hmem] at hmarked
    cases hmarked
  · exact h hmem

theorem isFormattingName_html (name : String) :
    isFormattingName ⟨.html, name⟩ = (formattingNames.contains name || name == "a" || name == "nobr") := by
  change ("a" :: "nobr" :: formattingNames).contains name = _
  rw [List.contains_cons, List.contains_cons, ← Bool.or_assoc, Bool.or_comm, Bool.or_assoc]

namespace Stands

theorem closeByName_eq {b : Builder} {modes : List Mode} {q : Site} {f : Frame} {around : List Frame}
    {children : List Branch} (h : Stands modes q (f :: around) children b) {name : String}
    (hname : isHtml name f.name = true) : b.closeByName name = b.pop := by
  have hdrop : b.openElements.dropWhile (fun e => !isHtml name e.name && !isSpecial e.name) =
      f.opened :: around.map Frame.opened := by
    rw [h.opened_eq]
    exact List.dropWhile_cons_of_neg (by simp [Frame.opened, hname])
  have himplied : b.closeImpliedExcept name = b :=
    h.closeImplied_of_innermost ((h.innermost_eq _).trans (by rw [hname]; rfl))
  rw [closeByName, hdrop]
  dsimp only
  rw [Frame.opened, hname, if_pos rfl, himplied, pop, h.opened_eq]
  rfl

/-- The innermost element is in every scope. -/
theorem inScope_self {b : Builder} {modes : List Mode} {q : Site} {f : Frame} {around : List Frame}
    {children : List Branch} (h : Stands modes q (f :: around) children b) {name : String}
    (hf : f.name = ⟨.html, name⟩) (ends : ElementName → Bool) : b.inScope ends name = true := by
  refine h.reaches_innermost ends ?_
  rw [Frame.opened, hf]
  exact beq_self_eq_true name

/-- The rules of the body close the innermost element by its end tag. -/
theorem closesBy_bodyEnd {b : Builder} {modes : List Mode} {p q : Site} {f : Frame} {around : List Frame}
    {children : List Branch} (h : Stands modes q (f :: around) children b)
    (hsurrounds : Surrounds modes p around) (hmode : q.mode = p.mode) {name : String}
    (hf : f.name = ⟨.html, name⟩) (hname : name ∉ unheldNames)
    (hnested : name = "form" →
      p.around.any (isHtml "template") = true ∨ p.around.any (isHtml "form") = false) :
    ClosesBy modes p around (f.filled children) b (b.bodyEnd name) := by
  have hself : isHtml name f.name = true := by
    rw [hf]
    exact beq_self_eq_true name
  have hscope : ∀ ends, b.inScope ends name = true := h.inScope_self hf
  have hne : ∀ {other : String}, other ∈ unheldNames → ¬(name == other) = true := by
    intro other hother heq
    exact hname (beq_iff_eq.mp heq ▸ hother)
  have hpop : isHtml "form" ⟨.html, name⟩ = false → isMarkName ⟨.html, name⟩ = false →
      isFormattingName ⟨.html, name⟩ = false → ClosesBy modes p around (f.filled children) b (.done b.pop) :=
    fun hform hmark hformats => h.closesBy_pop hsurrounds hmode (hf ▸ hform) (hf ▸ hmark) (hf ▸ hformats)
  rw [bodyEnd, if_neg (hne (by decide)), if_neg (hne (by decide)), if_neg (hne (by decide))]
  refine closesBy_ite (fun hclosable => ?_) fun _ => closesBy_ite (fun hform => ?_) fun hform =>
    closesBy_ite (fun hparagraph => ?_) fun _ => closesBy_ite (fun hitem => ?_) fun _ =>
    closesBy_ite (fun hheading => ?_) fun _ => closesBy_ite (fun hformats => ?_) fun hformats =>
    closesBy_ite (fun hmarked => ?_) fun hmarked => ?_
  · have hfacts : ∀ n ∈ closableNames, isHtml "form" ⟨.html, n⟩ = false ∧ isMarkName ⟨.html, n⟩ = false ∧
        isFormattingName ⟨.html, n⟩ = false ∧ endsImplied ⟨.html, n⟩ = false := by
      decide
    obtain ⟨hform, hmark, hformats, himplied⟩ := hfacts name (List.contains_iff_mem.mp hclosable)
    rw [hscope, if_pos rfl, closeNamed, h.popThrough_closeImplied hself (hf ▸ himplied)]
    exact hpop hform hmark hformats
  · have hnameForm := beq_iff_eq.mp hform
    exact h.closesBy_endForm hsurrounds hmode (hf.trans (by rw [hnameForm])) (hnested hnameForm)
  · obtain rfl := beq_iff_eq.mp hparagraph
    rw [hscope, if_pos rfl, closeParagraph, closeNamed, closeImpliedExcept,
      h.popThrough_closeImplied hself (by rw [hf]; decide)]
    exact hpop (by decide) (by decide) (by decide)
  · have hfacts : ∀ n ∈ ["li", "dd", "dt"], isHtml "form" ⟨.html, n⟩ = false ∧
        isMarkName ⟨.html, n⟩ = false ∧ isFormattingName ⟨.html, n⟩ = false := by
      decide
    obtain ⟨hform, hmark, hformats⟩ := hfacts name (List.contains_iff_mem.mp hitem)
    rw [hscope, if_pos rfl, closeNamed, closeImpliedExcept,
      h.popThrough_closeImplied hself (by rw [hself]; rfl)]
    exact hpop hform hmark hformats
  · have hfacts : ∀ n ∈ headingNames, isHtml "form" ⟨.html, n⟩ = false ∧ isMarkName ⟨.html, n⟩ = false ∧
        isFormattingName ⟨.html, n⟩ = false ∧ endsImplied ⟨.html, n⟩ = false ∧
        htmlIn headingNames ⟨.html, n⟩ = true := by
      decide
    obtain ⟨hform, hmark, hformats, himplied, hheadingName⟩ := hfacts name (List.contains_iff_mem.mp hheading)
    have htarget : (fun e : OpenElement => htmlIn headingNames e.name) f.opened = true := by
      change htmlIn headingNames f.name = true
      rw [hf, hheadingName]
    rw [h.reaches_innermost endsScope htarget, if_pos rfl,
      h.popThrough_closeImplied (hf ▸ hheadingName) (hf ▸ himplied)]
    exact hpop hform hmark hformats
  · rw [← isFormattingName_html] at hformats
    exact h.closesBy_closeFormatting hsurrounds hmode (hf ▸ hformats) hself
  · have hfacts : ∀ n ∈ ["applet", "marquee", "object"], isHtml "form" ⟨.html, n⟩ = false ∧
        isMarkName ⟨.html, n⟩ = true ∧ endsImplied ⟨.html, n⟩ = false := by
      decide
    obtain ⟨hform, hmark, himplied⟩ := hfacts name (List.contains_iff_mem.mp hmarked)
    rw [hscope, if_pos rfl, closeNamed, h.popThrough_closeImplied hself (hf ▸ himplied)]
    exact h.closesBy_pop_marked hsurrounds (h.mode.trans hmode : b.mode.canonical = _) (hf ▸ hform) (hf ▸ hmark)
  · rw [if_neg (hne (by decide)), h.closeByName_eq hself]
    refine hpop ?_ (isMarkName_of_held hname (Bool.eq_false_iff.mpr hmarked)) ?_
    · exact Bool.eq_false_iff.mpr hform
    · rw [isFormattingName_html]
      exact Bool.eq_false_iff.mpr hformats

end Stands

/-! ### The modes -/

/-- The modes that leave it to the rules of the body to close what is no part of a table. -/
def bodyModes : List Mode :=
  [.inBody, .inCaption, .inCell, .inTable, .inTableBody, .inRow]

/-- In these modes the end tag of what is no part of a table is read by the rules of the body. -/
theorem byMode_endTag {b : Builder} (hmode : b.mode ∈ bodyModes) {name : String} (hname : name ∉ unheldNames) :
    b.byMode (.endTag name) = b.bodyEnd name ∨ b.byMode (.endTag name) = b.inBodyFostered (.endTag name) := by
  have hne : ∀ {other : String}, other ∈ unheldNames → ¬(name == other) = true := by
    intro other hother heq
    exact hname (beq_iff_eq.mp heq ▸ hother)
  have hnone : ∀ {names : List String}, names ⊆ unheldNames → ¬names.contains name = true :=
    fun hsubset hcontains => hname (hsubset (List.contains_iff_mem.mp hcontains))
  have heither : ∀ {names names' : List String}, names ⊆ unheldNames → names' ⊆ unheldNames →
      ¬(names.contains name || names'.contains name) = true := by
    intro names names' hsubset hsubset' h
    rcases Bool.or_eq_true_iff.mp h with h | h
    · exact hnone hsubset h
    · exact hnone hsubset' h
  have htable : b.tableEnd name = b.inBodyFostered (.endTag name) := by
    rw [tableEnd, if_neg (hne (by decide)), if_neg (heither (by decide) (by decide)), if_neg (hne (by decide))]
  rw [byMode]
  simp only [bodyModes, List.mem_cons, List.not_mem_nil, or_false] at hmode
  rcases hmode with hmode | hmode | hmode | hmode | hmode | hmode
  · left
    rw [hmode]
    rfl
  · left
    rw [hmode]
    dsimp only [inCaption]
    rw [if_neg (hne (by decide)), if_neg (hne (by decide)), if_neg (heither (by decide) (by decide))]
    rfl
  · left
    rw [hmode]
    dsimp only [inCell]
    rw [if_neg (hnone (by decide)), if_neg (hnone (by decide)), if_neg (hnone (by decide))]
    rfl
  · right
    rw [hmode]
    exact htable
  · right
    rw [hmode]
    dsimp only [inTableBody]
    rw [if_neg (hnone (by decide)), if_neg (hne (by decide)), if_neg (hnone (by decide))]
    exact htable
  · right
    rw [hmode]
    dsimp only [inRow]
    rw [if_neg (hne (by decide)), if_neg (hne (by decide)), if_neg (hnone (by decide)),
      if_neg (hnone (by decide))]
    exact htable

/-- How an element that holds others is closed: by the rules of the body, or as what it is. -/
inductive Held (p : Site) (name : String) : Mode → Prop where
  | body (hmode : p.mode ∈ bodyModes) (hname : name ∉ unheldNames)
      (hnested : name = "form" →
        p.around.any (isHtml "template") = true ∨ p.around.any (isHtml "form") = false) : Held p name p.mode
  | table (hmode : p.mode ∈ bodyModes) (hname : name = "table") : Held p name .inTable
  | select (hmode : p.mode ∈ bodyModes) (hname : name = "select") : Held p name .inSelect
  | option (hmode : p.mode = .inSelect) (hname : name ∈ ["option", "optgroup"]) : Held p name .inSelect
  | caption (hmode : p.mode = .inTable) (hname : name = "caption") : Held p name .inCaption
  | columns (hmode : p.mode = .inTable) (hname : name = "colgroup") : Held p name .inColumnGroup
  | rows (hmode : p.mode = .inTable) (hname : name ∈ ["tbody", "tfoot", "thead"]) : Held p name .inTableBody
  | row (hmode : p.mode = .inTableBody) (hname : name = "tr") : Held p name .inRow
  | cell (hmode : p.mode = .inRow) (hname : name ∈ ["th", "td"]) : Held p name .inCell
  | frameset (hmode : p.mode = .inFrameset) (hname : name = "frameset")
      (hinside : p.innermost (isHtml "frameset") = true) : Held p name .inFrameset

namespace Stands

variable {b : Builder} {modes : List Mode} {p q : Site} {f : Frame} {around : List Frame}
  {children : List Branch} {name : String}

/-- The rule of the body closes the innermost element, also where a table may send content away. -/
theorem closesBy_body (h : Stands modes q (f :: around) children b) (hsurrounds : Surrounds modes p around)
    (hfoster : b.fosterParenting = false) (hmode : q.mode = p.mode) (hbody : p.mode ∈ bodyModes)
    (hf : f.name = ⟨.html, name⟩) (hname : name ∉ unheldNames)
    (hnested : name = "form" →
      p.around.any (isHtml "template") = true ∨ p.around.any (isHtml "form") = false) :
    ClosesBy modes p around (f.filled children) b (b.byMode (.endTag name)) := by
  have hb : b.mode ∈ bodyModes := by
    rw [h.mode_eq (by rw [hmode]; exact fun heq => absurd (heq ▸ hbody) (by decide)), hmode]
    exact hbody
  rcases byMode_endTag hb hname with hrule | hrule
  · rw [hrule]
    exact h.closesBy_bodyEnd hsurrounds hmode hf hname hnested
  · obtain ⟨b', hclosed, hstands, -, hline⟩ :=
      (h.fostering true).closesBy_bodyEnd hsurrounds hmode hf hname hnested
    have hbodyRule : ({ b with fosterParenting := true } : Builder).inBody (.endTag name) = .done b' := hclosed
    refine ⟨{ b' with fosterParenting := false }, ?_, hstands.fostering false, hfoster.symm, hline⟩
    rw [hrule, inBodyFostered, hbodyRule]

/-- Closing an element that the mode is entered again for. -/
theorem closesBy_reset (h : Stands modes q (f :: around) children b) (hsurrounds : Surrounds modes p around)
    (hform : isHtml "form" f.name = false) (hmark : isMarkName f.name = false)
    (hformats : isFormattingName f.name = false) :
    ClosesBy modes p around (f.filled children) b (.done b.pop.resetMode) := by
  have hmode : b.pop.resetMode.mode.canonical = p.mode := by
    change (b.pop.modeFor b.pop.openElements).canonical = p.mode
    rw [h.openElements_pop]
    exact hsurrounds.resets b.pop h.templateModes
  exact ⟨_, rfl, h.closed hsurrounds rfl h.openElements_pop rfl hmode h.content
    (h.formatting.of_plain hmark hformats) (h.form.trans (formOf_cons_of_ne hform around)) h.templateModes rfl,
    rfl, rfl⟩

/-- Closing a part of a table, which leads back to a mode. -/
theorem closesBy_enter (h : Stands modes q (f :: around) children b) (hsurrounds : Surrounds modes p around)
    {mode : Mode} (hmode : mode.canonical = p.mode) (hform : isHtml "form" f.name = false)
    (hmark : isMarkName f.name = false) (hformats : isFormattingName f.name = false) :
    ClosesBy modes p around (f.filled children) b (.done (b.pop.enter mode)) :=
  ⟨_, rfl, h.closed hsurrounds rfl h.openElements_pop rfl hmode h.content
    (h.formatting.of_plain hmark hformats) (h.form.trans (formOf_cons_of_ne hform around)) h.templateModes rfl,
    rfl, rfl⟩

theorem byMode_inSelect (h : Stands modes q (f :: around) children b) (hq : q.mode = .inSelect)
    (hname : name ∉ ["caption", "table", "tbody", "tfoot", "thead", "tr", "td", "th"]) :
    b.byMode (.endTag name) = b.inSelect (.endTag name) := by
  have hmode := h.mode
  rw [hq] at hmode
  rw [byMode]
  cases hb : b.mode with
  | inSelect => rfl
  | inSelectInTable => exact if_neg fun hcontains => hname (List.contains_iff_mem.mp hcontains)
  | _ =>
      rw [hb] at hmode
      cases hmode

theorem closesBy_inSelect (h : Stands modes q (f :: around) children b)
    (hsurrounds : Surrounds modes p around) (hp : p.mode = .inSelect) (hq : q.mode = .inSelect)
    (hf : f.name = ⟨.html, name⟩) (hname : name ∈ ["option", "optgroup"]) :
    ClosesBy modes p around (f.filled children) b (b.inSelect (.endTag name)) := by
  have hcurrent : ∀ condition, b.currentIs condition = condition ⟨.html, name⟩ := by
    intro condition
    rw [h.currentIs_eq, h.innermost_eq, hf]
  have hfacts : ∀ n ∈ ["option", "optgroup"], isHtml "form" ⟨.html, n⟩ = false ∧
      isMarkName ⟨.html, n⟩ = false ∧ isFormattingName ⟨.html, n⟩ = false := by
    decide
  obtain ⟨hform, hmark, hformats⟩ := hfacts name hname
  have hpop := h.closesBy_pop hsurrounds (hq.trans hp.symm) (hf ▸ hform) (hf ▸ hmark) (hf ▸ hformats)
  simp only [List.mem_cons, List.not_mem_nil, or_false] at hname
  rcases hname with rfl | rfl
  · have hrule : b.inSelect (.endTag "option") = .done b.pop := by
      change Outcome.done b.popOption = _
      rw [popOption, hcurrent]
      rfl
    rw [hrule]
    exact hpop
  · have hrule : b.inSelect (.endTag "optgroup") = .done b.pop := by
      have hgroup : b.inSelect (.endTag "optgroup") = .done b.popOptionGroup := by
        have hopened := h.opened_eq
        cases around with
        | nil => simp [inSelect, hopened]
        | cons g rest => simp [inSelect, hopened, Frame.opened, hf, isHtml]
      rw [hgroup, popOptionGroup, hcurrent]
      rfl
    rw [hrule]
    exact hpop

/-! What the end tag of the innermost element does in the modes that it is no matter of the body in. -/

theorem byMode_tableEnd (h : Stands modes q (f :: around) children b) (hq : q.mode = .inTable)
    (hf : f.name = ⟨.html, "table"⟩) : b.byMode (.endTag "table") = .done b.pop.resetMode := by
  rw [byMode, h.mode_eq (by rw [hq]; decide), hq]
  change (if b.inScope endsTableScope "table" = true then
    Outcome.done (b.closeNamed "table").resetMode else _) = _
  rw [h.inScope_self hf, if_pos rfl, closeNamed, h.popThrough_eq (by rw [hf]; decide)]

theorem byMode_selectEnd (h : Stands modes q (f :: around) children b) (hq : q.mode = .inSelect)
    (hf : f.name = ⟨.html, "select"⟩) : b.byMode (.endTag "select") = .done b.pop.resetMode := by
  rw [h.byMode_inSelect hq (by decide)]
  change Outcome.done b.closeSelect = _
  rw [closeSelect, h.inScope_self hf, if_pos rfl, closeNamed, h.popThrough_eq (by rw [hf]; decide)]

theorem byMode_captionEnd (h : Stands modes q (f :: around) children b) (hq : q.mode = .inCaption)
    (hf : f.name = ⟨.html, "caption"⟩) :
    b.byMode (.endTag "caption") = .done (b.pop.dropRecentFormatting.enter .inTable) := by
  rw [byMode, h.mode_eq (by rw [hq]; decide), hq]
  change (if b.inScope endsTableScope "caption" = true then Outcome.done b.closeCaption else _) = _
  rw [h.inScope_self hf, if_pos rfl, closeCaption, closeNamed,
    h.popThrough_closeImplied (by rw [hf]; decide) (by rw [hf]; decide)]

theorem byMode_columnsEnd (h : Stands modes q (f :: around) children b) (hq : q.mode = .inColumnGroup)
    (hf : f.name = ⟨.html, "colgroup"⟩) :
    b.byMode (.endTag "colgroup") = .done (b.pop.enter .inTable) := by
  rw [byMode, h.mode_eq (by rw [hq]; decide), hq]
  change (if b.currentIs (isHtml "colgroup") = true then Outcome.done (b.pop.enter .inTable) else _) = _
  rw [h.currentIs_eq, h.innermost_eq, if_pos (by rw [hf]; decide)]

theorem byMode_rowsEnd (h : Stands modes q (f :: around) children b) (hq : q.mode = .inTableBody)
    (hf : f.name = ⟨.html, name⟩) (hname : name ∈ ["tbody", "tfoot", "thead"]) :
    b.byMode (.endTag name) = .done (b.pop.enter .inTable) := by
  have hcontext : isTableBodyContext ⟨.html, name⟩ = true :=
    (by decide : ∀ n ∈ ["tbody", "tfoot", "thead"], isTableBodyContext ⟨.html, n⟩ = true) name hname
  rw [byMode, h.mode_eq (by rw [hq]; decide), hq]
  dsimp only [inTableBody]
  rw [if_pos (List.contains_iff_mem.mpr hname), h.inScope_self hf, if_pos rfl,
    h.popTo_of_innermost ((h.innermost_eq _).trans (hf ▸ hcontext))]

theorem byMode_rowEnd (h : Stands modes q (f :: around) children b) (hq : q.mode = .inRow)
    (hf : f.name = ⟨.html, "tr"⟩) : b.byMode (.endTag "tr") = .done (b.pop.enter .inTableBody) := by
  rw [byMode, h.mode_eq (by rw [hq]; decide), hq]
  change (if b.inScope endsTableScope "tr" = true then
    Outcome.done ((b.popTo isRowContext).pop.enter .inTableBody) else _) = _
  rw [h.inScope_self hf, if_pos rfl, h.popTo_of_innermost ((h.innermost_eq _).trans (by rw [hf]; decide))]

theorem byMode_cellEnd (h : Stands modes q (f :: around) children b) (hq : q.mode = .inCell)
    (hf : f.name = ⟨.html, name⟩) (hname : name ∈ ["th", "td"]) :
    b.byMode (.endTag name) = .done (b.pop.dropRecentFormatting.enter .inRow) := by
  have hfacts : ∀ n ∈ ["th", "td"], endsImplied ⟨.html, n⟩ = false ∧ ["td", "th"].contains n = true := by
    decide
  obtain ⟨himplied, hcell⟩ := hfacts name hname
  rw [byMode, h.mode_eq (by rw [hq]; decide), hq]
  dsimp only [inCell]
  rw [if_pos hcell, h.inScope_self hf, if_pos rfl, closeNamed,
    h.popThrough_closeImplied (hf ▸ beq_self_eq_true name) (hf ▸ himplied)]

/-- A frameset is closed by its end tag when it stands in another one. -/
theorem byMode_framesetEnd (h : Stands modes q (f :: around) children b) (hsurrounds : Surrounds modes p around)
    (hq : q.mode = .inFrameset) (hinside : p.innermost (isHtml "frameset") = true) :
    b.byMode (.endTag "frameset") = .done b.pop := by
  have hlength : (b.openElements.length != 1) = true := by
    obtain ⟨g, rest, rfl⟩ := List.exists_cons_of_ne_nil hsurrounds.open_
    rw [h.opened_eq, List.length_map, bne_iff_ne]
    simp
  have houter : b.pop.currentIs (isHtml "frameset") = true := by
    obtain ⟨g, rest, rfl⟩ := List.exists_cons_of_ne_nil hsurrounds.open_
    rw [Site.innermost, ← hsurrounds.names] at hinside
    rw [currentIs, h.openElements_pop]
    exact hinside
  rw [byMode, h.mode_eq (by rw [hq]; decide), hq]
  dsimp only [inFrameset]
  rw [hlength, houter]
  rfl

/-- The end tag of the innermost element closes it, whatever it is. -/
theorem closesBy_byMode {mode : Mode} (h : Stands modes q (f :: around) children b)
    (hsurrounds : Surrounds modes p around) (hfoster : b.fosterParenting = false) (hheld : Held p name mode)
    (hq : q.mode = mode) (hf : f.name = ⟨.html, name⟩) :
    ClosesBy modes p around (f.filled children) b (b.byMode (.endTag name)) := by
  cases hheld with
  | body hmode hname hnested => exact h.closesBy_body hsurrounds hfoster hq hmode hf hname hnested
  | table hmode hname =>
      subst hname
      rw [h.byMode_tableEnd hq hf]
      exact h.closesBy_reset hsurrounds (by rw [hf]; decide) (by rw [hf]; decide) (by rw [hf]; decide)
  | select hmode hname =>
      subst hname
      rw [h.byMode_selectEnd hq hf]
      exact h.closesBy_reset hsurrounds (by rw [hf]; decide) (by rw [hf]; decide) (by rw [hf]; decide)
  | option hmode hname =>
      rw [h.byMode_inSelect hq fun hmem => absurd hname ((by decide : ∀ n ∈
        ["caption", "table", "tbody", "tfoot", "thead", "tr", "td", "th"], n ∉ ["option", "optgroup"]) _ hmem)]
      exact h.closesBy_inSelect hsurrounds hmode hq hf hname
  | caption hmode hname =>
      subst hname
      rw [h.byMode_captionEnd hq hf]
      exact h.closesBy_pop_marked hsurrounds hmode.symm (by rw [hf]; decide) (by rw [hf]; decide)
  | columns hmode hname =>
      subst hname
      rw [h.byMode_columnsEnd hq hf]
      exact h.closesBy_enter hsurrounds hmode.symm (by rw [hf]; decide) (by rw [hf]; decide)
        (by rw [hf]; decide)
  | rows hmode hname =>
      have hfacts : ∀ n ∈ ["tbody", "tfoot", "thead"], isHtml "form" ⟨.html, n⟩ = false ∧
          isMarkName ⟨.html, n⟩ = false ∧ isFormattingName ⟨.html, n⟩ = false := by
        decide
      obtain ⟨hform, hmark, hformats⟩ := hfacts name hname
      rw [h.byMode_rowsEnd hq hf hname]
      exact h.closesBy_enter hsurrounds hmode.symm (hf ▸ hform) (hf ▸ hmark) (hf ▸ hformats)
  | row hmode hname =>
      subst hname
      rw [h.byMode_rowEnd hq hf]
      exact h.closesBy_enter hsurrounds hmode.symm (by rw [hf]; decide) (by rw [hf]; decide)
        (by rw [hf]; decide)
  | cell hmode hname =>
      have hfacts : ∀ n ∈ ["th", "td"], isHtml "form" ⟨.html, n⟩ = false ∧ isMarkName ⟨.html, n⟩ = true := by
        decide
      obtain ⟨hform, hmark⟩ := hfacts name hname
      rw [h.byMode_cellEnd hq hf hname]
      exact h.closesBy_pop_marked hsurrounds hmode.symm (hf ▸ hform) (hf ▸ hmark)
  | frameset hmode hname hinside =>
      subst hname
      rw [h.byMode_framesetEnd hsurrounds hq hinside]
      exact h.closesBy_pop hsurrounds (hq.trans hmode.symm) (by rw [hf]; decide) (by rw [hf]; decide)
        (by rw [hf]; decide)

/-- The end tag of a template closes it and ends the modes that it was read in. -/
theorem closesBy_endTemplate {mode : Mode} (h : Stands (mode :: modes) q (f :: around) children b)
    (hsurrounds : Surrounds modes p around) (hf : f.name = ⟨.html, "template"⟩) :
    ClosesBy modes p around (f.filled children) b b.endTemplate := by
  obtain ⟨rest, hentries, hrest⟩ := h.formatting.of_mark (by rw [hf]; decide)
  have hopen : b.hasOpen "template" = true := by
    rw [h.hasOpen_eq, ← h.surrounds.names, List.map_cons, List.any_cons, hf]
    rfl
  have hclosed : (b.closeImplied endsImpliedByTemplate).closeNamed "template" = b.pop :=
    h.popThrough_closeImplied (by rw [hf]; rfl) (by rw [hf]; decide)
  have hmode : (b.closeImplied endsImpliedByTemplate).closeTemplate.mode.canonical = p.mode := by
    rw [closeTemplate, hclosed]
    change (Builder.modeFor { b.pop.dropRecentFormatting with templateModes := b.templateModes.drop 1 }
      b.pop.openElements).canonical = p.mode
    rw [h.openElements_pop]
    refine hsurrounds.resets _ ?_
    rw [h.templateModes]
    rfl
  rw [endTemplate, hopen, if_pos rfl]
  rw [closeTemplate, hclosed] at hmode ⊢
  refine ⟨_, rfl, h.closed hsurrounds rfl h.openElements_pop rfl hmode h.content ?_
    (h.form.trans (formOf_cons_of_ne (by rw [hf]; rfl) around)) ?_ rfl, rfl, rfl⟩
  · change Marked around ((b.formatting.dropWhile (· != .mark)).drop 1)
    rw [hentries, List.dropWhile_cons_of_neg (by decide)]
    exact hrest
  · change b.templateModes.drop 1 = modes
    rw [h.templateModes]
    rfl

end Stands

/-- The modes that a template is read in. -/
def modesOfTemplates : List Mode :=
  [.inTemplate, .inBody, .inTable, .inTableBody, .inRow, .inColumnGroup]

theorem byMode_endTag_template {b : Builder} (hmode : b.mode ∈ modesOfTemplates) :
    b.byMode (.endTag "template") = b.endTemplate := by
  rw [byMode]
  simp only [modesOfTemplates, List.mem_cons, List.not_mem_nil, or_false] at hmode
  rcases hmode with hmode | hmode | hmode | hmode | hmode | hmode
  all_goals
    rw [hmode]
    rfl

/-- The end tag of a form that was closed at once gives it up. -/
theorem closesBy_shut {b b' : Builder} {modes : List Mode} {p : Site} {frames : List Frame}
    {children : List Branch} {tag : Tag} (h : Opened modes p frames children tag b b' .shut)
    (hmode : p.mode ∈ bodyModes) (hfoster : b'.fosterParenting = false) :
    ClosesBy modes p frames ((b.frameFor children tag).closed []) b' (b'.byMode (.endTag "form")) := by
  obtain ⟨hstands, hform, htemplate, hgrowing⟩ := h
  have hb : b'.mode ∈ bodyModes := by
    rw [show b'.mode = p.mode from hstands.mode_eq fun heq => absurd (heq ▸ hmode) (by decide)]
    exact hmode
  have hreleased : ∀ φ, ({ b' with fosterParenting := φ } : Builder).bodyEnd "form" =
      .done { b' with fosterParenting := φ, form := none } := by
    intro φ
    have hopen : ({ b' with fosterParenting := φ } : Builder).hasOpen "template" = false :=
      (hstands.hasOpen_eq "template").trans htemplate
    have hnone : reaches endsScope (fun e => e.serial == b.nextSerial) b'.openElements = false := by
      rw [show b'.openElements = frames.map Frame.opened from hstands.opened_eq]
      exact reaches_eq_false fun e he => by
        obtain ⟨g, hg, rfl⟩ := List.mem_map.mp he
        exact beq_eq_false_iff_ne.mpr (Nat.ne_of_lt (hgrowing.serial_lt hg))
    change endForm _ = _
    rw [endForm, hopen, if_neg Bool.false_ne_true]
    dsimp only
    rw [hform]
    dsimp only [frameFor, frameOf, Frame.opened]
    rw [hnone]
    rfl
  rcases byMode_endTag hb (by decide : "form" ∉ unheldNames) with hrule | hrule
  · rw [hrule]
    exact ⟨_, hreleased b'.fosterParenting, hstands, rfl, rfl⟩
  · have hbody : ({ b' with fosterParenting := true } : Builder).inBody (.endTag "form") = _ := hreleased true
    refine ⟨{ b' with fosterParenting := false, form := none }, ?_, hstands.fostering false, hfoster.symm, rfl⟩
    rw [hrule, inBodyFostered, hbody]

/-! ### How an element is closed -/

/-- How an element is closed that is opened by a tag of this name. -/
inductive ClosesAs (p : Site) (name : String) : Opening → Prop where
  | holds {mode : Mode} (hheld : Held p name mode) : ClosesAs p name (.holds mode)
  | void : ClosesAs p name .void
  | shut (hmode : p.mode ∈ bodyModes) (hname : name = "form") : ClosesAs p name .shut
  | reference (hname : name ∈ ["title", "textarea"]) : ClosesAs p name (.text (.referenceText name))
  | raw (hname : name ∈ ["style", "xmp", "iframe", "noembed", "noframes", "noscript"]) :
    ClosesAs p name (.text (.rawText name))
  | script (hname : name = "script") : ClosesAs p name (.text .scriptText)
  | template (hname : name = "template") : ClosesAs p name .template

section

variable {p : Site} {tag : Tag} {name : String}

theorem closesAs_none : ∀ opening, none = some opening → ClosesAs p name opening := by
  intro opening h
  cases h

theorem closesAs_some {opening : Opening} (h : ClosesAs p name opening) :
    ∀ opening', some opening = some opening' → ClosesAs p name opening' := by
  intro opening' heq
  exact Option.some.inj heq ▸ h

theorem closesAs_ite {condition : Prop} [Decidable condition] {first second : Option Opening}
    (h : condition → ∀ opening, first = some opening → ClosesAs p name opening)
    (h' : ¬condition → ∀ opening, second = some opening → ClosesAs p name opening) :
    ∀ opening, (if condition then first else second) = some opening → ClosesAs p name opening := by
  split
  · exact h ‹_›
  · exact h' ‹_›

theorem closesAs_metadataOpening (hname : ("noscript" :: metadataNames).contains name = true) :
    ClosesAs p name (metadataOpening name) := by
  rw [metadataOpening]
  by_cases hvoid : ["base", "basefont", "bgsound", "link", "meta"].contains name = true
  · rw [if_pos hvoid]
    exact .void
  · rw [if_neg hvoid]
    by_cases htitle : (name == "title") = true
    · rw [if_pos htitle]
      obtain rfl := beq_iff_eq.mp htitle
      exact .reference (by decide)
    · rw [if_neg htitle]
      by_cases hraw : ["noframes", "style", "noscript"].contains name = true
      · rw [if_pos hraw]
        exact .raw ((by decide : ∀ n ∈ ["noframes", "style", "noscript"],
          n ∈ ["style", "xmp", "iframe", "noembed", "noframes", "noscript"]) _ (List.contains_iff_mem.mp hraw))
      · rw [if_neg hraw]
        by_cases hscript : (name == "script") = true
        · rw [if_pos hscript]
          exact .script (beq_iff_eq.mp hscript)
        · rw [if_neg hscript]
          exact .template (Stands.eq_template_of_metadata hname hvoid htitle hraw hscript)

theorem closesAs_body (hmode : p.mode ∈ bodyModes) (hname : name ∉ "form" :: unheldNames) :
    ClosesAs p name (.holds p.mode) :=
  .holds (.body hmode (fun hmem => hname (List.mem_cons_of_mem _ hmem))
    fun hform => absurd (hform ▸ List.mem_cons_self) hname)

theorem closesAs_blockOpening (hmode : p.mode ∈ bodyModes)
    (hname : (blockNames ++ headingNames ++ ["pre", "listing", "plaintext", "hr", "xmp"]).contains name =
      true) : ∀ opening, blockOpening? p name = some opening → ClosesAs p name opening := by
  have hbody : ClosesAs p name (.holds p.mode) := by
    refine closesAs_body hmode ?_
    exact (by decide : ∀ n ∈ blockNames ++ headingNames ++ ["pre", "listing", "plaintext", "hr", "xmp"],
      n ∉ "form" :: unheldNames) _ (List.contains_iff_mem.mp hname)
  rw [blockOpening?]
  refine closesAs_ite (fun _ => closesAs_none) fun _ => closesAs_ite (fun _ => closesAs_ite
    (fun _ => closesAs_none) fun _ => closesAs_some hbody) fun _ => closesAs_ite
    (fun _ => closesAs_some hbody) fun _ => closesAs_ite (fun _ => closesAs_none) fun _ =>
    closesAs_ite (fun _ => closesAs_some .void) fun _ => closesAs_ite (fun hxmp => ?_) fun _ =>
    closesAs_some hbody
  obtain rfl := beq_iff_eq.mp hxmp
  exact closesAs_some (.raw (by decide))

theorem closesAs_bodyOpening (hmode : p.mode ∈ bodyModes) :
    ∀ opening, bodyOpening? p tag = some opening → ClosesAs p tag.name opening := by
  have hbody : tag.name ∉ "form" :: unheldNames → ClosesAs p tag.name (.holds p.mode) :=
    fun hname => closesAs_body hmode hname
  rw [bodyOpening?]
  refine closesAs_ite (fun _ => closesAs_none) fun hhtml =>
    closesAs_ite (fun hmetadata => ?_) fun hmetadata =>
    closesAs_ite (fun _ => closesAs_none) fun hbodyName =>
    closesAs_ite (fun _ => closesAs_none) fun _ =>
    closesAs_ite (fun hblock => ?_) fun _ =>
    closesAs_ite (fun hform => ?_) fun hform =>
    closesAs_ite (fun hitem => ?_) fun _ =>
    closesAs_ite (fun htable => closesAs_some (.holds (.table hmode (beq_iff_eq.mp htable)))) fun htable =>
    closesAs_ite (fun _ => closesAs_some .void) fun hvoid =>
    closesAs_ite (fun _ => closesAs_some .void) fun _ =>
    closesAs_ite (fun _ => closesAs_none) fun _ =>
    closesAs_ite (fun htextarea => ?_) fun _ =>
    closesAs_ite (fun hiframe => ?_) fun _ =>
    closesAs_ite (fun hraw => ?_) fun _ =>
    closesAs_ite (fun hselect => closesAs_some (.holds (.select hmode (beq_iff_eq.mp hselect)))) fun _ =>
    closesAs_ite (fun _ => closesAs_none) fun _ =>
    closesAs_ite (fun _ => closesAs_none) fun _ =>
    closesAs_ite (fun _ => closesAs_none) fun hparts =>
    closesAs_ite (fun _ => closesAs_some (hbody fun hmem => ?_)) fun _ => closesAs_none
  · refine closesAs_some (closesAs_metadataOpening ?_)
    rw [List.contains_iff_mem] at hmetadata ⊢
    exact List.mem_cons_of_mem _ hmetadata
  · refine closesAs_blockOpening hmode ?_
    simpa only [List.contains_iff_mem, List.mem_append, Bool.or_eq_true] using hblock
  · have hname := beq_iff_eq.mp hform
    rw [formOpening?]
    refine closesAs_ite (fun _ => closesAs_none) fun _ => closesAs_ite (fun hnested => ?_) fun _ => closesAs_none
    refine closesAs_some (.holds (.body hmode (by rw [hname]; decide) fun _ => ?_))
    rwa [Bool.or_eq_true, Bool.not_eq_true'] at hnested
  · rw [itemOpening?]
    refine closesAs_ite (fun _ => closesAs_none) fun _ => closesAs_some (hbody ?_)
    exact (by decide : ∀ n ∈ ["li", "dd", "dt"], n ∉ "form" :: unheldNames) _ (List.contains_iff_mem.mp hitem)
  · rw [beq_iff_eq.mp htextarea]
    exact closesAs_some (.reference (by decide))
  · rw [beq_iff_eq.mp hiframe]
    exact closesAs_some (.raw (by decide))
  · refine closesAs_some (.raw ?_)
    exact (by decide : ∀ n ∈ ["noembed", "noscript"],
      n ∈ ["style", "xmp", "iframe", "noembed", "noframes", "noscript"]) _ (List.contains_iff_mem.mp hraw)
  · have hall : ∀ n ∈ "form" :: unheldNames, (n == "html") = true ∨ metadataNames.contains n = true ∨
        (n == "body") = true ∨ (n == "form") = true ∨ (n == "table") = true ∨
        ["area", "br", "embed", "img", "keygen", "wbr", "input"].contains n = true ∨
        (tableGroupNames.contains n || ["frame", "head", "td", "th", "tr"].contains n) = true := by
      decide
    simpa only [hhtml, hmetadata, hbodyName, hform, htable, hvoid, hparts, or_false,
      Bool.false_eq_true] using hall _ hmem

theorem closesAs_tableOpening (hmode : p.mode ∈ bodyModes)
    (hcontext : tag.name ∈ ["caption", "colgroup", "tbody", "tfoot", "thead"] → p.mode = .inTable) :
    ∀ opening, tableOpening? p tag = some opening → ClosesAs p tag.name opening := by
  rw [tableOpening?]
  refine closesAs_ite (fun hcaption => closesAs_ite (fun _ => ?_) fun _ => closesAs_none) fun _ =>
    closesAs_ite (fun hcolgroup => closesAs_ite (fun _ => ?_) fun _ => closesAs_none) fun _ =>
    closesAs_ite (fun _ => closesAs_none) fun _ =>
    closesAs_ite (fun hgroup => closesAs_ite (fun _ => ?_) fun _ => closesAs_none) fun _ =>
    closesAs_ite (fun _ => closesAs_none) fun _ =>
    closesAs_ite (fun _ => closesAs_none) fun _ =>
    closesAs_ite (fun hmetadata => ?_) fun _ =>
    closesAs_ite (fun _ => closesAs_some .void) fun _ =>
    closesAs_ite (fun hform => closesAs_ite (fun _ => closesAs_none) fun _ => ?_) fun _ =>
    closesAs_ite (fun _ => closesAs_none) fun _ => closesAs_bodyOpening hmode
  · have hname := beq_iff_eq.mp hcaption
    exact closesAs_some (.holds (.caption (hcontext (by rw [hname]; decide)) hname))
  · have hname := beq_iff_eq.mp hcolgroup
    exact closesAs_some (.holds (.columns (hcontext (by rw [hname]; decide)) hname))
  · have hname := List.contains_iff_mem.mp hgroup
    refine closesAs_some (.holds (.rows (hcontext ?_) hname))
    exact List.mem_cons_of_mem _ (List.mem_cons_of_mem _ hname)
  · refine closesAs_some (closesAs_metadataOpening ?_)
    rw [List.contains_iff_mem] at hmetadata ⊢
    exact (by decide : ∀ n ∈ ["style", "script", "template"], n ∈ "noscript" :: metadataNames) _ hmetadata
  · exact closesAs_some (.shut hmode (beq_iff_eq.mp hform))

theorem closesAs_selectOpening (hmode : p.mode = .inSelect) :
    ∀ opening, selectOpening? p name = some opening → ClosesAs p name opening := by
  rw [selectOpening?]
  refine closesAs_ite (fun hoption => closesAs_ite (fun _ => closesAs_none) fun _ => ?_) fun _ =>
    closesAs_ite (fun hgroup => closesAs_ite (fun _ => closesAs_none) fun _ => ?_) fun _ =>
    closesAs_ite (fun _ => closesAs_ite (fun _ => closesAs_none) fun _ => closesAs_some .void) fun _ =>
    closesAs_ite (fun hmetadata => ?_) fun _ => closesAs_none
  · exact closesAs_some (.holds (.option hmode (by rw [beq_iff_eq.mp hoption]; decide)))
  · exact closesAs_some (.holds (.option hmode (by rw [beq_iff_eq.mp hgroup]; decide)))
  · refine closesAs_some (closesAs_metadataOpening ?_)
    rw [List.contains_iff_mem] at hmetadata ⊢
    exact (by decide : ∀ n ∈ ["script", "template"], n ∈ "noscript" :: metadataNames) _ hmetadata

/-- What opens an element says how it is closed. -/
theorem closesAs_opening : ∀ opening, opening? p tag = some opening → ClosesAs p tag.name opening := by
  have hmetadata : ∀ names : List String, names.contains tag.name = true →
      (∀ name ∈ names, name ∈ "noscript" :: metadataNames) → ClosesAs p tag.name (metadataOpening tag.name) :=
    fun _ hname hall => closesAs_metadataOpening
      (List.contains_iff_mem.mpr (hall _ (List.contains_iff_mem.mp hname)))
  have hbeside : p.mode ∈ bodyModes → ∀ opening,
      (if partNames.contains tag.name then none else bodyOpening? p tag) = some opening →
        ClosesAs p tag.name opening :=
    fun hmode => closesAs_ite (fun _ => closesAs_none) fun _ => closesAs_bodyOpening hmode
  have hpart : tag.name ∈ ["caption", "colgroup", "tbody", "tfoot", "thead"] →
      partNames.contains tag.name = true := by
    intro hmem
    exact List.contains_iff_mem.mpr
      ((by decide : ∀ n ∈ ["caption", "colgroup", "tbody", "tfoot", "thead"], n ∈ partNames) _ hmem)
  cases hp : p.mode with
  | inBody =>
      rw [opening?, hp]
      exact closesAs_bodyOpening (by rw [hp]; decide)
  | inCaption =>
      rw [opening?, hp]
      exact hbeside (by rw [hp]; decide)
  | inCell =>
      rw [opening?, hp]
      exact hbeside (by rw [hp]; decide)
  | inTable =>
      rw [opening?, hp]
      exact closesAs_tableOpening (by rw [hp]; decide) fun _ => hp
  | inTableBody =>
      rw [opening?, hp]
      refine closesAs_ite (fun hrow => closesAs_ite (fun _ => ?_) fun _ => closesAs_none) fun _ =>
        closesAs_ite (fun _ => closesAs_none) fun hnone => ?_
      · exact closesAs_some (.holds (.row hp (beq_iff_eq.mp hrow)))
      · exact closesAs_tableOpening (by rw [hp]; decide) fun hmem => absurd (hpart hmem) hnone
  | inRow =>
      rw [opening?, hp]
      refine closesAs_ite (fun hcell => closesAs_ite (fun _ => ?_) fun _ => closesAs_none) fun _ =>
        closesAs_ite (fun _ => closesAs_none) fun hnone => ?_
      · exact closesAs_some (.holds (.cell hp (List.contains_iff_mem.mp hcell)))
      · exact closesAs_tableOpening (by rw [hp]; decide) fun hmem => absurd (hpart hmem) hnone
  | inColumnGroup =>
      rw [opening?, hp]
      refine closesAs_ite (fun _ => closesAs_some .void) fun _ =>
        closesAs_ite (fun htemplate => ?_) fun _ => closesAs_none
      exact closesAs_some (.template (beq_iff_eq.mp htemplate))
  | inSelect =>
      rw [opening?, hp]
      exact closesAs_selectOpening hp
  | inTemplate =>
      rw [opening?, hp]
      exact closesAs_ite (fun hname => closesAs_some (hmetadata _ hname fun _ hmem =>
        List.mem_cons_of_mem _ hmem)) fun _ => closesAs_none
  | inHead =>
      rw [opening?, hp]
      refine closesAs_ite (fun hname => closesAs_some (closesAs_metadataOpening ?_)) fun _ => closesAs_none
      rw [List.contains_cons, Bool.or_comm]
      exact hname
  | inFrameset =>
      rw [opening?, hp]
      refine closesAs_ite (fun hname => closesAs_ite (fun hinside => ?_) fun _ => closesAs_none) fun _ =>
        closesAs_ite (fun _ => closesAs_some .void) fun _ =>
        closesAs_ite (fun hname => closesAs_some ?_) fun _ => closesAs_none
      · exact closesAs_some (.holds (.frameset hp (beq_iff_eq.mp hname) hinside))
      · exact hmetadata ["noframes"] (by rw [beq_iff_eq.mp hname]; decide) (by decide)
  | _ =>
      rw [opening?, hp]
      exact closesAs_none

end

end Builder

end MarkupModule.Markup.Construction
