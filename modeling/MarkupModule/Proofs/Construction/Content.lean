import MarkupModule.Markup.Construction

/-! Only a start tag changes how the text that follows is read. Every other event leaves the kind of
content as it is, whatever the state: no operation of tree construction touches it but those that begin
an element that holds text only. -/

namespace MarkupModule.Markup

def Token.isTag : Token → Bool
  | .startTag _ => true
  | .endTag _ => true
  | _ => false

namespace Construction

def Event.opens : Event → Bool
  | .startTag _ => true
  | _ => false

/-- An outcome with this kind of content, that passes on no start tag. -/
def Outcome.Keeps (content : ContentMode) : Outcome → Prop
  | .done b => b.content = content
  | .again b event => b.content = content ∧ event.opens = false

namespace Builder

theorem content_ite {content : ContentMode} {condition : Prop} [Decidable condition]
    {b other : Builder} (h : b.content = content) (h' : other.content = content) :
    (if condition then b else other).content = content := by
  split
  · exact h
  · exact h'

variable (b : Builder)

/-! ### Operations -/

theorem content_insertAt (new : Branch) (place : Place) :
    (b.insertAt new place).content = b.content := by
  cases place with
  | beforeTable table around =>
      rw [insertAt]
      split <;> rfl
  | _ => rfl

theorem content_insert (new : Branch) : (b.insert new).content = b.content :=
  content_insertAt b new b.place

theorem content_addText (run : String) : (b.addText run).content = b.content :=
  content_insert b _

theorem content_addComment (content : String) : (b.addComment content).content = b.content :=
  content_insert b _

theorem content_addDocumentComment (content : String) :
    (b.addDocumentComment content).content = b.content :=
  content_insertAt b _ _

theorem content_addRootComment (content : String) :
    (b.addRootComment content).content = b.content := by
  rw [addRootComment]
  split
  · exact content_insertAt b _ _
  · rfl

theorem content_insertClosed (name : ElementName) (attributes : List Attribute) :
    (b.insertClosed name attributes).content = b.content :=
  content_insert { b with nextSerial := b.nextSerial + 1 } _

theorem content_insertOpen (name : ElementName) (attributes : List Attribute) :
    (b.insertOpen name attributes).content = b.content :=
  content_insertClosed b name attributes

theorem content_insertTag (tag : Tag) : (b.insertTag tag).content = b.content :=
  content_insertOpen b _ _

theorem content_insertTagClosed (tag : Tag) : (b.insertTagClosed tag).content = b.content :=
  content_insertClosed b _ _

theorem content_insertImplied (name : String) : (b.insertImplied name).content = b.content :=
  content_insertTag b _

theorem content_insertRoot (attributes : List (String × String)) :
    (b.insertRoot attributes).content = b.content :=
  content_insertAt { b with
    nextSerial := b.nextSerial + 1
    openElements := [b.upcoming ⟨.html, "html"⟩] } _ _

theorem content_closeTemplate : b.closeTemplate.content = b.content := rfl

theorem content_popOption : b.popOption.content = b.content :=
  content_ite rfl rfl

theorem content_popOptionGroup : b.popOptionGroup.content = b.content :=
  content_ite rfl rfl

theorem content_closeSelect : b.closeSelect.content = b.content :=
  content_ite rfl rfl

theorem content_reopen (entries : List Formatting) : (reopen entries b).1.content = b.content := by
  induction entries with
  | nil => rfl
  | cons entry rest ih =>
      cases entry with
      | mark => exact ih
      | element serial tag => exact (content_insertTag _ tag).trans ih

theorem content_reopenFormatting : b.reopenFormatting.content = b.content :=
  content_reopen b _

theorem content_closeByName (name : String) : (b.closeByName name).content = b.content := by
  rw [closeByName]
  dsimp only
  split
  · split <;> rfl
  · rfl

theorem content_rebuild (between : List OpenElement) (count : Nat) (r : Rebuilt) :
    (rebuild between count r).builder.content = r.builder.content := by
  induction between generalizing count r with
  | nil => rfl
  | cons e rest ih =>
      rw [rebuild]
      dsimp only
      split
      · split
        · rw [ih]
        · rw [ih]
          rfl
      · rw [ih]

theorem content_restructure (closed : Nat) (tag : Tag) (inner : List OpenElement)
    (block : OpenElement) (between : List OpenElement) (ancestor : OpenElement)
    (outer : List OpenElement) :
    (b.restructure closed tag inner block between ancestor outer).content = b.content := by
  rw [restructure]
  split
  · rfl
  · exact (content_insertAt _ _ _).trans (content_rebuild _ _ _)

theorem content_closeFormattingWithin (rounds : Nat) (name : String) :
    (closeFormattingWithin rounds b name).content = b.content := by
  induction rounds generalizing b with
  | zero => rfl
  | succ rounds ih =>
      rw [closeFormattingWithin]
      dsimp only
      split
      · split
        · rfl
        · split
          · rfl
          · split
            · rw [ih, content_restructure]
            · rfl
      · exact content_closeByName b name

theorem content_closeFormatting (name : String) :
    (b.closeFormatting name).content = b.content := by
  rw [closeFormatting]
  split
  · split
    · rfl
    · exact content_closeFormattingWithin b 8 name
  · exact content_closeFormattingWithin b 8 name

theorem content_addHeldText (held : List HeldRun) : (addHeldText held b).content = b.content := by
  induction held generalizing b with
  | nil => rfl
  | cons run rest ih => exact (ih _).trans (content_addText b _)

/-! ### Rules -/

section

variable {b} {event : Event}

theorem keeps_ite {content : ContentMode} {condition : Prop} [Decidable condition]
    {outcome other : Outcome} (h : outcome.Keeps content) (h' : other.Keeps content) :
    (if condition then outcome else other).Keeps content := by
  split
  · exact h
  · exact h'

theorem keeps_endTemplate : b.endTemplate.Keeps b.content :=
  keeps_ite (content_closeTemplate _) rfl

theorem keeps_endInsideTemplates : b.endInsideTemplates.Keeps b.content :=
  keeps_ite ⟨content_closeTemplate b, rfl⟩ rfl

theorem keeps_initial (h : event.opens = false) : (b.initial event).Keeps b.content := by
  cases event with
  | startTag tag => cases h
  | blank run => rfl
  | comment content => exact content_addDocumentComment b content
  | _ => exact ⟨rfl, rfl⟩

theorem keeps_beforeHtml (h : event.opens = false) : (b.beforeHtml event).Keeps b.content := by
  have himplied : (Outcome.again ((b.insertRoot []).enter .beforeHead) event).Keeps b.content :=
    ⟨content_insertRoot b [], h⟩
  cases event with
  | startTag tag => cases h
  | blank run => rfl
  | comment content => exact content_addDocumentComment b content
  | endTag name => exact keeps_ite himplied rfl
  | _ => exact himplied

theorem keeps_beforeHead (h : event.opens = false) : (b.beforeHead event).Keeps b.content := by
  have himplied : (Outcome.again (b.insertImplied "head").withHead event).Keeps b.content :=
    ⟨content_insertImplied b "head", h⟩
  cases event with
  | startTag tag => cases h
  | blank run => rfl
  | comment content => exact content_addComment b content
  | endTag name => exact keeps_ite himplied rfl
  | _ => exact himplied

theorem keeps_inHead (h : event.opens = false) : (b.inHead event).Keeps b.content := by
  have hleave : (Outcome.again (b.pop.enter .afterHead) event).Keeps b.content := ⟨rfl, h⟩
  cases event with
  | startTag tag => cases h
  | blank run => exact content_addText b run
  | comment content => exact content_addComment b content
  | endTag name => exact keeps_ite rfl (keeps_ite hleave (keeps_ite keeps_endTemplate rfl))
  | _ => exact hleave

theorem keeps_afterHead (h : event.opens = false) : (b.afterHead event).Keeps b.content := by
  have himplied : (Outcome.again ((b.insertImplied "body").enter .inBody) event).Keeps b.content :=
    ⟨content_insertImplied b "body", h⟩
  cases event with
  | startTag tag => cases h
  | blank run => exact content_addText b run
  | comment content => exact content_addComment b content
  | endTag name => exact keeps_ite himplied (keeps_ite keeps_endTemplate rfl)
  | _ => exact himplied

theorem keeps_inText (h : event.opens = false) : (b.inText event).Keeps b.content := by
  cases event with
  | startTag tag => cases h
  | blank run => exact content_addText b run
  | words run => exact content_addText b run
  | endOfInput => exact ⟨rfl, rfl⟩
  | _ => rfl

theorem keeps_voidInText (tag : Tag) : (b.voidInText tag).Keeps b.content := by
  have hinserted : (b.reopenFormatting.insertTagClosed tag).content = b.content := by
    rw [content_insertTagClosed, content_reopenFormatting]
  exact content_ite hinserted hinserted

theorem keeps_endForm : b.endForm.Keeps b.content := by
  rw [endForm]
  split
  · exact keeps_ite rfl rfl
  · split
    · rfl
    · exact keeps_ite rfl rfl

theorem keeps_bodyEnd (name : String) : (b.bodyEnd name).Keeps b.content := by
  refine keeps_ite keeps_endTemplate ?_
  refine keeps_ite (keeps_ite rfl rfl) ?_
  refine keeps_ite (keeps_ite ⟨rfl, rfl⟩ rfl) ?_
  refine keeps_ite (keeps_ite rfl rfl) ?_
  refine keeps_ite keeps_endForm ?_
  refine keeps_ite (keeps_ite rfl (content_insertImplied b "p")) ?_
  refine keeps_ite (keeps_ite rfl rfl) ?_
  refine keeps_ite (keeps_ite rfl rfl) ?_
  refine keeps_ite (content_closeFormatting b name) ?_
  refine keeps_ite (keeps_ite rfl rfl) ?_
  exact keeps_ite (keeps_voidInText _) (content_closeByName b name)

theorem keeps_inBody (h : event.opens = false) : (b.inBody event).Keeps b.content := by
  have hreopened := content_reopenFormatting b
  cases event with
  | startTag tag => cases h
  | nul => rfl
  | blank run => exact (content_addText _ run).trans hreopened
  | words run => exact (content_addText _ run).trans hreopened
  | comment content => exact content_addComment b content
  | endTag name => exact keeps_bodyEnd name
  | endOfInput => exact keeps_ite rfl keeps_endInsideTemplates

/-! ### Rules for tables -/

theorem keeps_inBodyFostered (h : event.opens = false) :
    (b.inBodyFostered event).Keeps b.content := by
  have hbody : ({ b with fosterParenting := true }.inBody event).Keeps b.content := keeps_inBody h
  rw [inBodyFostered]
  split
  · rename_i heq
    rw [heq] at hbody
    exact hbody
  · rename_i heq
    rw [heq] at hbody
    exact hbody

theorem keeps_tableCharacters (h : event.opens = false) :
    (b.tableCharacters event).Keeps b.content :=
  keeps_ite ⟨rfl, h⟩ (keeps_inBodyFostered h)

theorem keeps_tableEnd (name : String) : (b.tableEnd name).Keeps b.content := by
  refine keeps_ite (keeps_ite rfl rfl) ?_
  refine keeps_ite rfl ?_
  have hevent : Event.opens (.endTag name) = false := rfl
  exact keeps_ite keeps_endTemplate (keeps_inBodyFostered hevent)

theorem keeps_inTable (h : event.opens = false) : (b.inTable event).Keeps b.content := by
  cases event with
  | startTag tag => cases h
  | comment content => exact content_addComment b content
  | endTag name => exact keeps_tableEnd name
  | endOfInput => exact keeps_inBody h
  | _ => exact keeps_tableCharacters h

theorem opens_event (run : HeldRun) : run.event.opens = false := by
  rw [HeldRun.event]
  split <;> rfl

theorem content_fosterText (held : List HeldRun) (b : Builder) :
    (fosterText held b).content = b.content := by
  induction held generalizing b with
  | nil => rfl
  | cons run rest ih =>
      have hrun := keeps_inBodyFostered (b := b) (opens_event run)
      rw [fosterText]
      split
      · rename_i heq
        rw [heq] at hrun
        exact (ih _).trans hrun
      · rename_i heq
        rw [heq] at hrun
        exact (ih _).trans hrun.1

theorem keeps_inTableText (h : event.opens = false) : (b.inTableText event).Keeps b.content := by
  have hflushed : (if b.tableText.all HeldRun.isBlank then
      addHeldText b.tableText { b with tableText := [] }
      else fosterText b.tableText { b with tableText := [] }).content = b.content :=
    content_ite (content_addHeldText _ _) (content_fosterText _ _)
  cases event with
  | startTag tag => cases h
  | nul => rfl
  | blank run => rfl
  | words run => rfl
  | _ => exact ⟨hflushed, rfl⟩

theorem keeps_inCaption (h : event.opens = false) : (b.inCaption event).Keeps b.content := by
  have hleave : (if b.inScope endsTableScope "caption" then Outcome.again b.closeCaption event
      else .done b).Keeps b.content :=
    keeps_ite ⟨rfl, h⟩ rfl
  cases event with
  | startTag tag => cases h
  | endTag name =>
      refine keeps_ite (keeps_ite rfl rfl) ?_
      exact keeps_ite hleave (keeps_ite rfl (keeps_inBody h))
  | _ => exact keeps_inBody h

theorem keeps_inColumnGroup (h : event.opens = false) :
    (b.inColumnGroup event).Keeps b.content := by
  have hleave : (if b.currentIs (isHtml "colgroup") then
      Outcome.again (b.pop.enter .inTable) event else .done b).Keeps b.content :=
    keeps_ite ⟨rfl, h⟩ rfl
  cases event with
  | startTag tag => cases h
  | blank run => exact content_addText b run
  | comment content => exact content_addComment b content
  | endTag name =>
      refine keeps_ite (keeps_ite rfl rfl) ?_
      exact keeps_ite rfl (keeps_ite keeps_endTemplate hleave)
  | endOfInput => exact keeps_inBody h
  | _ => exact hleave

theorem keeps_inTableBody (h : event.opens = false) : (b.inTableBody event).Keeps b.content := by
  cases event with
  | startTag tag => cases h
  | endTag name =>
      refine keeps_ite (keeps_ite rfl rfl) ?_
      refine keeps_ite (keeps_ite ⟨rfl, rfl⟩ rfl) ?_
      exact keeps_ite rfl (keeps_inTable h)
  | _ => exact keeps_inTable h

theorem keeps_inRow (h : event.opens = false) : (b.inRow event).Keeps b.content := by
  have hleave : (if b.inScope endsTableScope "tr" then
      Outcome.again ((b.popTo isRowContext).pop.enter .inTableBody) event
      else .done b).Keeps b.content :=
    keeps_ite ⟨rfl, h⟩ rfl
  cases event with
  | startTag tag => cases h
  | endTag name =>
      refine keeps_ite (keeps_ite rfl rfl) ?_
      refine keeps_ite hleave ?_
      refine keeps_ite (keeps_ite hleave rfl) ?_
      exact keeps_ite rfl (keeps_inTable h)
  | _ => exact keeps_inTable h

theorem keeps_inCell (h : event.opens = false) : (b.inCell event).Keeps b.content := by
  cases event with
  | startTag tag => cases h
  | endTag name =>
      refine keeps_ite (keeps_ite rfl rfl) ?_
      refine keeps_ite rfl ?_
      exact keeps_ite (keeps_ite ⟨rfl, rfl⟩ rfl) (keeps_inBody h)
  | _ => exact keeps_inBody h

/-! ### The other modes -/

theorem keeps_inSelect (h : event.opens = false) : (b.inSelect event).Keeps b.content := by
  cases event with
  | startTag tag => cases h
  | nul => rfl
  | blank run => exact content_addText b run
  | words run => exact content_addText b run
  | comment content => exact content_addComment b content
  | endTag name =>
      refine keeps_ite (content_ite (content_popOptionGroup b.pop) (content_popOptionGroup b)) ?_
      refine keeps_ite (content_popOption b) ?_
      refine keeps_ite (content_closeSelect b) ?_
      exact keeps_ite keeps_endTemplate rfl
  | endOfInput => exact keeps_inBody h

theorem keeps_inSelectInTable (h : event.opens = false) :
    (b.inSelectInTable event).Keeps b.content := by
  cases event with
  | startTag tag => cases h
  | endTag name => exact keeps_ite (keeps_ite ⟨rfl, rfl⟩ rfl) (keeps_inSelect h)
  | _ => exact keeps_inSelect h

theorem keeps_inTemplate (h : event.opens = false) : (b.inTemplate event).Keeps b.content := by
  cases event with
  | startTag tag => cases h
  | nul => rfl
  | endTag name => exact keeps_ite keeps_endTemplate rfl
  | endOfInput => exact keeps_endInsideTemplates
  | _ => exact keeps_inBody h

theorem keeps_afterBody (h : event.opens = false) : (b.afterBody event).Keeps b.content := by
  cases event with
  | startTag tag => cases h
  | blank run => exact keeps_inBody h
  | comment content => exact content_addRootComment b content
  | endTag name => exact keeps_ite rfl ⟨rfl, rfl⟩
  | endOfInput => rfl
  | _ => exact ⟨rfl, rfl⟩

theorem keeps_inFrameset (h : event.opens = false) : (b.inFrameset event).Keeps b.content := by
  cases event with
  | startTag tag => cases h
  | blank run => exact content_addText b run
  | comment content => exact content_addComment b content
  | endTag name =>
      exact keeps_ite (content_ite rfl rfl) rfl
  | _ => rfl

theorem keeps_afterFrameset (h : event.opens = false) : (b.afterFrameset event).Keeps b.content := by
  cases event with
  | startTag tag => cases h
  | blank run => exact content_addText b run
  | comment content => exact content_addComment b content
  | endTag name => exact keeps_ite rfl rfl
  | _ => rfl

theorem keeps_afterAfterBody (h : event.opens = false) :
    (b.afterAfterBody event).Keeps b.content := by
  cases event with
  | startTag tag => cases h
  | blank run => exact keeps_inBody h
  | comment content => exact content_addDocumentComment b content
  | endOfInput => rfl
  | _ => exact ⟨rfl, rfl⟩

theorem keeps_afterAfterFrameset (h : event.opens = false) :
    (b.afterAfterFrameset event).Keeps b.content := by
  cases event with
  | startTag tag => cases h
  | blank run => exact keeps_inBody h
  | comment content => exact content_addDocumentComment b content
  | _ => rfl

theorem keeps_byMode (h : event.opens = false) : (b.byMode event).Keeps b.content := by
  rw [byMode]
  cases b.mode with
  | initial => exact keeps_initial h
  | beforeHtml => exact keeps_beforeHtml h
  | beforeHead => exact keeps_beforeHead h
  | inHead => exact keeps_inHead h
  | afterHead => exact keeps_afterHead h
  | inBody => exact keeps_inBody h
  | text => exact keeps_inText h
  | inTable => exact keeps_inTable h
  | inTableText => exact keeps_inTableText h
  | inCaption => exact keeps_inCaption h
  | inColumnGroup => exact keeps_inColumnGroup h
  | inTableBody => exact keeps_inTableBody h
  | inRow => exact keeps_inRow h
  | inCell => exact keeps_inCell h
  | inSelect => exact keeps_inSelect h
  | inSelectInTable => exact keeps_inSelectInTable h
  | inTemplate => exact keeps_inTemplate h
  | afterBody => exact keeps_afterBody h
  | inFrameset => exact keeps_inFrameset h
  | afterFrameset => exact keeps_afterFrameset h
  | afterAfterBody => exact keeps_afterAfterBody h
  | afterAfterFrameset => exact keeps_afterAfterFrameset h

theorem keeps_foreignEnd (name : String) (innermost : Bool) (elements : List OpenElement) :
    (b.foreignEnd name innermost elements).Keeps b.content := by
  fun_induction foreignEnd b name innermost elements with
  | case1 => rfl
  | case2 => rfl
  | case3 => exact keeps_byMode rfl
  | case4 => rfl
  | case5 innermost e around rest _ _ ih => exact ih

theorem keeps_inForeign (h : event.opens = false) : (b.inForeign event).Keeps b.content := by
  cases event with
  | startTag tag => cases h
  | nul => exact content_addText b _
  | blank run => exact content_addText b run
  | words run => exact content_addText b.forbidFrameset run
  | comment content => exact content_addComment b content
  | endTag name =>
      refine keeps_ite ?_ (keeps_foreignEnd name true b.openElements)
      exact keeps_byMode (b := b.popTo _) rfl
  | endOfInput => rfl

end

/-! ### Events and tokens -/

theorem content_settle (n : Nat) {event : Event} (h : event.opens = false) :
    (settle n b event).content = b.content := by
  induction n generalizing b event with
  | zero => rfl
  | succ n ih =>
      have hrule : (if b.readsForeign event then b.inForeign event else b.byMode event).Keeps
          b.content :=
        keeps_ite (keeps_inForeign h) (keeps_byMode h)
      rw [settle]
      split
      · rename_i heq
        rw [heq] at hrule
        exact hrule
      · rename_i heq
        rw [heq] at hrule
        exact (ih _ hrule.2).trans hrule.1

theorem content_handle {event : Event} (h : event.opens = false) :
    (b.handle event).content = b.content :=
  content_settle b _ h

theorem content_foldl_handle {events : List Event} (h : ∀ event ∈ events, event.opens = false) :
    (events.foldl handle b).content = b.content := by
  induction events generalizing b with
  | nil => rfl
  | cons event rest ih =>
      rw [List.forall_mem_cons] at h
      rw [List.foldl_cons, ih _ h.2, content_handle b h.1]

theorem opens_of_mem_runs {s : List Char} {event : Event} (h : event ∈ runs s) :
    event.opens = false := by
  fun_induction runs s with
  | case1 => cases h
  | case2 c cs same run ih =>
      rcases List.mem_cons.mp h with rfl | h
      · split <;> rfl
      · exact ih h

theorem content_receive_endTag (name : String) : (b.receive (.endTag name)).content = .markup :=
  content_handle { b with skipLineFeed := false, content := .markup } rfl

/-- A token that is no tag leaves the kind of content as it is. -/
theorem content_receive {token : Token} (h : token.isTag = false) :
    (b.receive token).content = b.content := by
  cases token with
  | startTag tag => cases h
  | endTag name => cases h
  | text run => exact content_foldl_handle _ fun _ => opens_of_mem_runs
  | nul => exact content_handle _ rfl
  | comment content => exact content_handle _ rfl
  | doctype declaration =>
      rw [receive, handleDoctype]
      split
      · exact content_insertAt _ _ _
      · rfl

end Builder

end Construction

end MarkupModule.Markup
