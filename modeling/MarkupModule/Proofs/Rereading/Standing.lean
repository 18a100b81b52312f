import MarkupModule.Proofs.Construction.Steps
import MarkupModule.Proofs.Rereading.Nest
import MarkupModule.Proofs.Rereading.Site

/-! States that stand at a site. The open elements are those of the site, nothing is pending, every
formatting to take up again is still open, and the elements ask for the mode of the site when a table, a
selection or a template inside them is closed. In such a state the rules open an element or close it and
do nothing else. -/

namespace MarkupModule.Markup.Construction

theorem Growing.serial_lt {n : Nat} {frames : List Frame} (h : Growing n frames) {f : Frame}
    (hf : f ∈ frames) : f.serial < n := by
  induction h with
  | nil => cases hf
  | cons hserial _ _ ih =>
      rcases List.mem_cons.mp hf with rfl | hf
      · exact hserial
      · exact Nat.lt_trans (ih hf) hserial

variable {f : Frame} {around frames : List Frame} {children : List Branch}

/-! ### Scopes -/

theorem reaches_map_opened (ends target : ElementName → Bool) (frames : List Frame) :
    Builder.reaches ends (fun e => target e.name) (frames.map Frame.opened) =
      meets ends target (frames.map Frame.name) := by
  induction frames with
  | nil => rfl
  | cons f around ih =>
      rw [List.map_cons, List.map_cons, Builder.reaches, meets, ih]
      rfl

theorem reaches_eq_false {ends : ElementName → Bool} {target : OpenElement → Bool} {opened : List OpenElement}
    (h : ∀ e ∈ opened, target e = false) : Builder.reaches ends target opened = false := by
  induction opened with
  | nil => rfl
  | cons e rest ih =>
      rw [List.forall_mem_cons] at h
      rw [Builder.reaches, h.1, ih h.2, Bool.and_false]
      rfl

/-- Where the first of some elements is not met before a scope ends, it is not the first that is either
of them or ends the scope. -/
theorem find?_of_not_meets {ends target : ElementName → Bool} {e : OpenElement} {opened : List OpenElement}
    (hmeets : meets ends target (opened.map OpenElement.name) = false)
    (hfind : (opened.find? fun e => target e.name || ends e.name) = some e) : target e.name = false := by
  induction opened with
  | nil => cases hfind
  | cons first rest ih =>
      rw [List.map_cons, meets, Bool.or_eq_false_iff] at hmeets
      rw [List.find?_cons, hmeets.1, Bool.false_or] at hfind
      cases hends : ends first.name with
      | true =>
          rw [hends] at hfind
          obtain rfl := Option.some.inj hfind
          exact hmeets.1
      | false =>
          rw [hends] at hfind hmeets
          exact ih hmeets.2 hfind

/-! ### Modes -/

/-- One mode for the modes of selections. -/
def Mode.canonical : Mode → Mode
  | .inSelectInTable => .inSelect
  | mode => mode

/-- The mode that an open element asks for, unless it leaves that to the elements around it. -/
def ownMode? (name : ElementName) : Option Mode :=
  if name.space != .html then none
  else if name.name == "select" then some .inSelect
  else if name.name == "td" || name.name == "th" then some .inCell
  else if name.name == "tr" then some .inRow
  else if ["tbody", "thead", "tfoot"].contains name.name then some .inTableBody
  else if name.name == "caption" then some .inCaption
  else if name.name == "colgroup" then some .inColumnGroup
  else if name.name == "table" then some .inTable
  else if name.name == "head" then some .inHead
  else if name.name == "body" then some .inBody
  else if name.name == "frameset" then some .inFrameset
  else none

/-- The mode that the open elements ask for, whatever else is known. -/
def Resets (modes : List Mode) (frames : List Frame) (mode : Mode) : Prop :=
  ∀ b : Builder, b.templateModes = modes → (b.modeFor (frames.map Frame.opened)).canonical = mode

theorem canonical_ite {condition : Prop} [Decidable condition] {x y mode : Mode} {x' y' : Option Mode}
    (h : x.canonical = x'.getD mode) (h' : y.canonical = y'.getD mode) :
    (if condition then x else y).canonical = (if condition then x' else y').getD mode := by
  split
  · exact h
  · exact h'

theorem canonical_modeFor_cons (b : Builder) {e : OpenElement} {rest : List OpenElement} (hrest : rest ≠ [])
    (htemplate : isHtml "template" e.name = false) (hhtml : isHtml "html" e.name = false) :
    (b.modeFor (e :: rest)).canonical = (ownMode? e.name).getD (b.modeFor rest).canonical := by
  have hlast : rest.isEmpty = false := List.isEmpty_eq_false_iff.mpr hrest
  rw [Builder.modeFor, ownMode?]
  dsimp only
  rw [hlast, Bool.not_false, Bool.and_true, Bool.and_true]
  by_cases hspace : (e.name.space != .html) = true
  · rw [if_pos hspace, if_pos hspace]
    rfl
  · have hhtmlSpace : (e.name.space == .html) = true := by
      rwa [Bool.not_eq_true, bne, Bool.not_eq_false'] at hspace
    rw [isHtml, hhtmlSpace, Bool.true_and] at htemplate hhtml
    rw [if_neg hspace, if_neg hspace, htemplate, hhtml, if_neg Bool.false_ne_true, if_neg Bool.false_ne_true]
    refine canonical_ite ?_ <| canonical_ite rfl <| canonical_ite rfl <| canonical_ite rfl <|
      canonical_ite rfl <| canonical_ite rfl <| canonical_ite rfl <| canonical_ite rfl <|
      canonical_ite rfl <| canonical_ite rfl rfl
    -- in a select element the mode depends on whether there is a table around it
    split
    · split <;> rfl
    · rfl

theorem Resets.cons {modes : List Mode} {mode : Mode} (h : Resets modes around mode) (haround : around ≠ [])
    (htemplate : isHtml "template" f.name = false) (hhtml : isHtml "html" f.name = false) :
    Resets modes (f :: around) ((ownMode? f.name).getD mode) := by
  intro b hb
  rw [List.map_cons, canonical_modeFor_cons b (by simpa using haround) htemplate hhtml, h b hb]
  rfl

theorem resets_template (hname : f.name = ⟨.html, "template"⟩) (mode : Mode) (modes : List Mode)
    (around : List Frame) : Resets (mode :: modes) (f :: around) mode.canonical := by
  intro b hb
  rw [List.map_cons, Frame.opened, hname, Builder.modeFor, hb]
  rfl

/-! ### Formatting -/

/-- The formatting to take up again, as the open elements leave it: a mark for each of them that nothing
is taken up across, and an entry for one that formats, unless it repeats others. -/
inductive Marked : List Frame → List Formatting → Prop where
  | nil : Marked [] []
  | plain {f : Frame} {around : List Frame} {entries : List Formatting} (hname : isMarkName f.name = false)
      (h : Marked around entries) : Marked (f :: around) entries
  | mark {f : Frame} {around : List Frame} {entries : List Formatting} (hname : isMarkName f.name = true)
      (h : Marked around entries) : Marked (f :: around) (.mark :: entries)
  | entry {f : Frame} {around : List Frame} {entries : List Formatting} {tag : Tag}
      (hname : f.name = ⟨.html, tag.name⟩) (hformats : isFormattingName f.name = true)
      (h : Marked around entries) : Marked (f :: around) (.element f.serial tag :: entries)

theorem isMarkName_of_isFormattingName {name : ElementName} (h : isFormattingName name = true) :
    isMarkName name = false := by
  obtain ⟨space, name⟩ := name
  rw [isFormattingName, htmlIn, Bool.and_eq_true, List.contains_iff_mem] at h
  rw [isMarkName, htmlIn, Bool.and_eq_false_iff, ← Bool.not_eq_true, ← Bool.not_eq_true, List.contains_iff_mem]
  refine Or.inr fun hmark => ?_
  revert h hmark
  simp only [formattingNames, List.mem_cons, List.not_mem_nil, or_false]
  rintro ⟨-, h⟩ hmark
  rcases hmark with rfl | rfl | rfl | rfl | rfl | rfl | rfl <;> revert h <;> decide

namespace Marked

variable {entries : List Formatting}

/-- An entry may be missing. -/
theorem erase {e : Formatting} (h : Marked frames entries) (he : e ≠ .mark) :
    Marked frames (entries.erase e) := by
  induction h with
  | nil => exact .nil
  | plain hname _ ih => exact .plain hname ih
  | mark hname _ ih =>
      rw [List.erase_cons_tail (by simpa using Ne.symm he)]
      exact .mark hname ih
  | entry hname hformats hrest ih =>
      rw [List.erase_cons]
      split
      · exact .plain (isMarkName_of_isFormattingName hformats) hrest
      · exact .entry hname hformats ih

theorem isOpen {serial : Nat} {tag : Tag} (h : Marked frames entries)
    (hentry : .element serial tag ∈ entries) : ∃ f ∈ frames, f.serial = serial := by
  induction h with
  | nil => cases hentry
  | plain _ _ ih =>
      obtain ⟨f, hf, hserial⟩ := ih hentry
      exact ⟨f, List.mem_cons_of_mem _ hf, hserial⟩
  | mark _ _ ih =>
      rcases List.mem_cons.mp hentry with heq | hentry
      · cases heq
      · obtain ⟨f, hf, hserial⟩ := ih hentry
        exact ⟨f, List.mem_cons_of_mem _ hf, hserial⟩
  | entry _ _ _ ih =>
      rcases List.mem_cons.mp hentry with heq | hentry
      · cases heq
        exact ⟨_, List.mem_cons_self, rfl⟩
      · obtain ⟨f, hf, hserial⟩ := ih hentry
        exact ⟨f, List.mem_cons_of_mem _ hf, hserial⟩

theorem serialOf_ne {n : Nat} (h : Marked frames entries) (hgrowing : Growing n frames) {e : Formatting}
    (he : e ∈ entries) : Builder.serialOf e ≠ some n := by
  cases e with
  | mark => exact fun heq => by cases heq
  | element serial tag =>
      obtain ⟨f, hf, hserial⟩ := h.isOpen he
      intro heq
      obtain rfl := Option.some.inj heq
      have hlt := hgrowing.serial_lt hf
      rw [hserial] at hlt
      exact Nat.lt_irrefl _ hlt

/-- What may be taken up again before the next mark stands inside the next element with a mark. -/
theorem meets_of_mem {name : String} {serial : Nat} {tag : Tag} (h : Marked frames entries)
    (hentry : .element serial tag ∈ entries.takeWhile (· != .mark)) (htag : (tag.name == name) = true) :
    meets isMarkName (isHtml name) (frames.map Frame.name) = true := by
  induction h with
  | nil => cases hentry
  | plain hname _ ih =>
      rw [List.map_cons, meets, hname, ih hentry, Bool.not_false, Bool.and_true, Bool.or_true]
  | mark => cases hentry
  | entry hname hformats _ ih =>
      rw [List.map_cons, meets, isMarkName_of_isFormattingName hformats, Bool.not_false, Bool.true_and,
        Bool.or_eq_true]
      rw [List.takeWhile_cons_of_pos rfl, List.mem_cons] at hentry
      rcases hentry with heq | hentry
      · cases heq
        left
        rw [hname]
        exact htag
      · exact Or.inr (ih hentry)

end Marked

/-! ### Forms -/

/-- The form that fields belong to: one outside of all templates. -/
def formOf : List Frame → Option OpenElement
  | [] => none
  | f :: around =>
    if isHtml "form" f.name && !around.any fun a => isHtml "template" a.name then some f.opened
    else formOf around

theorem formOf_cons_of_ne (h : isHtml "form" f.name = false) (around : List Frame) :
    formOf (f :: around) = formOf around := by
  rw [formOf, h]
  rfl

theorem formOf_eq_none (h : frames.any (fun a => isHtml "form" a.name) = false) : formOf frames = none := by
  induction frames with
  | nil => rfl
  | cons f around ih =>
      rw [List.any_cons, Bool.or_eq_false_iff] at h
      rw [formOf_cons_of_ne h.1, ih h.2]

/-- Outside of templates, the form is the innermost element of that name. -/
theorem formOf_isSome (h : frames.any (fun a => isHtml "template" a.name) = false) :
    (formOf frames).isSome = frames.any fun a => isHtml "form" a.name := by
  induction frames with
  | nil => rfl
  | cons f around ih =>
      rw [List.any_cons, Bool.or_eq_false_iff] at h
      rw [formOf, h.2, Bool.not_false, Bool.and_true, List.any_cons]
      cases isHtml "form" f.name with
      | true => rfl
      | false => exact ih h.2

/-! ### Standing -/

/-- The modes of sites. -/
def siteModes : List Mode :=
  [.inBody, .inCaption, .inCell, .inTable, .inTableBody, .inRow, .inColumnGroup, .inSelect, .inTemplate,
    .inHead, .inFrameset]

theorem mem_siteModes_of_ownMode? {name : ElementName} {mode : Mode} (h : mode ∈ siteModes) :
    (ownMode? name).getD mode ∈ siteModes := by
  have hite : ∀ {condition : Prop} [Decidable condition] {x y : Option Mode},
      x.getD mode ∈ siteModes → y.getD mode ∈ siteModes →
        (if condition then x else y).getD mode ∈ siteModes := by
    intro condition _ x y hx hy
    split
    · exact hx
    · exact hy
  rw [ownMode?]
  refine hite h <| hite ?_ <| hite ?_ <| hite ?_ <| hite ?_ <| hite ?_ <| hite ?_ <| hite ?_ <| hite ?_ <|
    hite ?_ <| hite ?_ h
  all_goals
    simp [siteModes]

/-- The open elements of a site, with the modes that are entered again when something in them is closed. -/
structure Surrounds (modes : List Mode) (p : Site) (frames : List Frame) : Prop where
  names : frames.map Frame.name = p.around
  open_ : frames ≠ []
  known : p.mode ∈ siteModes
  resets : Resets modes frames p.mode

namespace Builder

/-- A state that stands at a site, behind the children of the innermost element there. -/
structure Stands (modes : List Mode) (p : Site) (frames : List Frame) (children : List Branch)
    (b : Builder) : Prop where
  tree : Tree frames children b
  surrounds : Surrounds modes p frames
  mode : b.mode.canonical = p.mode
  content : b.content = .markup
  formatting : Marked frames b.formatting
  form : b.form = formOf frames
  templateModes : b.templateModes = modes
  olderRules : b.olderRules = true

namespace Stands

variable {b : Builder} {modes : List Mode} {p : Site}

theorem opened_eq (h : Stands modes p frames children b) : b.openElements = frames.map Frame.opened :=
  h.tree.opened

theorem exists_cons (h : Stands modes p frames children b) :
    ∃ f around, frames = f :: around ∧ p.around = f.name :: around.map Frame.name := by
  obtain ⟨f, around, rfl⟩ := List.exists_cons_of_ne_nil h.surrounds.open_
  exact ⟨f, around, rfl, h.surrounds.names.symm⟩

/-- What a state that stands at a site is told apart by. -/
theorem alike {b' : Builder} (h : Stands modes p frames children b) (hbranches : b'.branches = b.branches)
    (hopened : b'.openElements = b.openElements) (hserial : b'.nextSerial = b.nextSerial)
    (hmode : b'.mode = b.mode) (hcontent : b'.content = b.content) (hformatting : b'.formatting = b.formatting)
    (hform : b'.form = b.form) (hmodes : b'.templateModes = b.templateModes)
    (holder : b'.olderRules = b.olderRules) : Stands modes p frames children b' where
  tree := ⟨hbranches.trans h.tree.branches, hopened.trans h.tree.opened, hserial ▸ h.tree.growing,
    hserial ▸ h.tree.below⟩
  surrounds := h.surrounds
  mode := hmode ▸ h.mode
  content := hcontent.trans h.content
  formatting := hformatting ▸ h.formatting
  form := hform.trans h.form
  templateModes := hmodes.trans h.templateModes
  olderRules := holder.trans h.olderRules

theorem forbidFrameset (h : Stands modes p frames children b) :
    Stands modes p frames children b.forbidFrameset :=
  h.alike rfl rfl rfl rfl rfl rfl rfl rfl rfl

theorem fostering (h : Stands modes p frames children b) (fosterParenting : Bool) :
    Stands modes p frames children { b with fosterParenting } :=
  h.alike rfl rfl rfl rfl rfl rfl rfl rfl rfl

theorem skipping (h : Stands modes p frames children b) (skipLineFeed : Bool) :
    Stands modes p frames children { b with skipLineFeed } :=
  h.alike rfl rfl rfl rfl rfl rfl rfl rfl rfl

/-! #### What the rules ask -/

theorem readsForeign_eq (h : Stands modes p frames children b) (event : Event) :
    b.readsForeign event = p.readsForeign event := by
  obtain ⟨f, around, rfl, haround⟩ := h.exists_cons
  rw [Site.readsForeign, haround, readsForeign, h.opened_eq]
  rfl

theorem currentIs_eq (h : Stands modes p frames children b) (condition : ElementName → Bool) :
    b.currentIs condition = p.innermost condition := by
  obtain ⟨f, around, rfl, haround⟩ := h.exists_cons
  rw [Site.innermost, haround, currentIs, h.opened_eq]
  rfl

theorem hasOpen_eq (h : Stands modes p frames children b) (name : String) :
    b.hasOpen name = p.around.any (isHtml name) := by
  rw [hasOpen, h.opened_eq, ← h.surrounds.names, List.any_map, List.any_map]
  rfl

theorem any_isHtml_eq (h : Stands modes p frames children b) (name : String) :
    p.around.any (isHtml name) = frames.any fun a => isHtml name a.name := by
  rw [← h.surrounds.names, List.any_map]
  rfl

theorem inScope_eq (h : Stands modes p frames children b) (ends : ElementName → Bool) (name : String) :
    b.inScope ends name = meets ends (isHtml name) p.around := by
  rw [inScope, h.opened_eq, reaches_map_opened, h.surrounds.names]

theorem closeImplied_of_innermost (h : Stands modes p frames children b) {implied : ElementName → Bool}
    (hinnermost : p.innermost implied = false) : b.closeImplied implied = b := by
  obtain ⟨f, around, rfl, haround⟩ := h.exists_cons
  rw [Site.innermost, haround] at hinnermost
  have hopened := h.opened_eq
  have hstays : ¬implied f.opened.name = true := Bool.eq_false_iff.mp hinnermost
  have hdrop : ((f :: around).map Frame.opened).dropWhile (fun e => implied e.name) =
      (f :: around).map Frame.opened :=
    List.dropWhile_cons_of_neg hstays
  rw [closeImplied, hopened, hdrop, ← hopened]

theorem popTo_of_innermost (h : Stands modes p frames children b) {condition : ElementName → Bool}
    (hinnermost : p.innermost condition = true) : b.popTo condition = b := by
  refine closeImplied_of_innermost h (show p.innermost (fun name => !condition name) = false from ?_)
  obtain ⟨f, around, rfl, haround⟩ := h.exists_cons
  rw [Site.innermost, haround] at hinnermost ⊢
  exact congrArg not hinnermost

theorem closeParagraphInScope_eq (h : Stands modes p frames children b)
    (hparagraph : meets endsButtonScope (isHtml "p") p.around = false) : b.closeParagraphInScope = b := by
  rw [closeParagraphInScope, h.inScope_eq, hparagraph]
  rfl

/-- No formatting is closed, so none is opened again. -/
theorem reopenFormatting_eq (h : Stands modes p frames children b) : b.reopenFormatting = b := by
  have hopen : ∀ e ∈ b.formatting, b.isMarkOrOpen e = true := by
    intro e he
    cases e with
    | mark => rfl
    | element serial tag =>
        obtain ⟨f, hf, rfl⟩ := h.formatting.isOpen he
        rw [isMarkOrOpen, h.opened_eq, List.any_map]
        exact List.any_eq_true.mpr ⟨f, hf, beq_self_eq_true f.serial⟩
  have hnone : b.formatting.takeWhile (fun e => !b.isMarkOrOpen e) = [] := by
    cases hentries : b.formatting with
    | nil => rfl
    | cons e rest => exact List.takeWhile_cons_of_neg (by simp [hopen e (hentries ▸ List.mem_cons_self)])
  rw [reopenFormatting, hnone]
  rfl

theorem closeOpenAnchor_eq (h : Stands modes p frames children b)
    (hanchor : meets isMarkName (isHtml "a") p.around = false) : b.closeOpenAnchor = b := by
  rw [closeOpenAnchor]
  split
  · rename_i serial tag hfound
    have htag := List.find?_some hfound
    rw [← h.surrounds.names, h.formatting.meets_of_mem (List.mem_of_find?_eq_some hfound) htag] at hanchor
    cases hanchor
  · rfl

theorem marked_limitRepeats (h : Stands modes p frames children b) (tag : Tag) :
    Marked frames (b.limitRepeats tag) := by
  rw [limitRepeats]
  split
  · rename_i earliest hlast
    split
    · refine h.formatting.erase ?_
      rintro rfl
      have hmem := List.mem_of_getLast? hlast
      exact absurd (List.mem_filter.mp hmem).2 Bool.false_ne_true
    · exact h.formatting
  · exact h.formatting

end Stands

end Builder

end MarkupModule.Markup.Construction
