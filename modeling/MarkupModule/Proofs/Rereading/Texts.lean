import MarkupModule.Proofs.Rereading.Foreign

/-! Texts and comments at a site. A text comes in runs of white space and of other characters, which are put
together again behind the children. In a table white space is held back until the next event that is none;
the state is then one that leads to the state that stands there. -/

namespace MarkupModule.Markup.Construction

open MarkupModule.Text

/-- White space and other text are read alike. -/
theorem Site.readsForeign_blank (p : Site) (run : String) :
    p.readsForeign (.blank run) = p.readsForeign (.words "") := by
  obtain ⟨mode, around⟩ := p
  cases around <;> rfl

theorem Site.readsForeign_words (p : Site) (run : String) :
    p.readsForeign (.words run) = p.readsForeign (.words "") := by
  obtain ⟨mode, around⟩ := p
  cases around <;> rfl

namespace Builder

/-! ### Leading to a state -/

/-- An event is passed on to another state in so many looks. -/
def Leads (looks : Nat) (event : Event) (b b' : Builder) : Prop :=
  ∀ n b'', SettlesIn n b' event b'' → SettlesIn (n + looks) b event b''

theorem SettlesIn.mono {n m : Nat} {b b' : Builder} {event : Event} (h : SettlesIn n b event b')
    (hle : n ≤ m) : SettlesIn m b event b' :=
  fun k hk => h k (Nat.le_trans hle hk)

theorem leads_self (looks : Nat) (event : Event) (b : Builder) : Leads looks event b b :=
  fun _ _ h => h.mono (Nat.le_add_right _ _)

theorem leads_of_again {b b' : Builder} {event : Event} (hforeign : b.readsForeign event = false)
    (h : b.byMode event = .again b' event) : Leads 1 event b b' :=
  fun _ _ hsettles => settlesIn_of_again hforeign h hsettles

theorem Leads.trans {n m : Nat} {b b' b'' : Builder} {event : Event} (h : Leads n event b b')
    (h' : Leads m event b' b'') : Leads (m + n) event b b'' := by
  intro k c hsettles
  rw [← Nat.add_assoc]
  exact h _ c (h' k c hsettles)

/-! ### Receiving -/

/-- The state in which a line feed counts, as it does behind every token. -/
def calm (b : Builder) : Builder :=
  { b with skipLineFeed := false }

theorem calm_eq {b : Builder} (h : b.skipLineFeed = false) : b.calm = b := by
  rw [calm, ← h]

theorem receive_endTag {b : Builder} (hcontent : b.content = .markup) (name : String) :
    b.receive (.endTag name) = b.calm.handle (.endTag name) := by
  rw [receive, calm, ← hcontent]

/-- A text counts whole unless a line feed at its start is dropped. -/
theorem receive_text {b : Builder} {s : List Char} (h : b.skipLineFeed = true → s.head? ≠ some '\n') :
    b.receive (.text (String.ofList s)) = (runs s).foldl handle b.calm := by
  have hkept : (b.skipLineFeed && s.head? == some '\n') = false := by
    cases hline : b.skipLineFeed with
    | true => rw [Bool.true_and, beq_eq_false_iff_ne.mpr (h hline)]
    | false => rfl
  rw [receive, String.toList_ofList, hkept]
  rfl

/-! ### Runs of text -/

/-- What holds of a text behind each of its runs holds of it behind the whole text. -/
theorem foldl_runs (reads : List Char → Builder → Prop)
    (hstep : ∀ before run event b, run ≠ [] →
      (event = .blank (String.ofList run) ∨ event = .words (String.ofList run)) →
      reads before b → reads (before ++ run) (b.handle event))
    (before s : List Char) (b : Builder) (h : reads before b) :
    reads (before ++ s) ((runs s).foldl handle b) := by
  fun_induction runs s generalizing before b with
  | case1 => rwa [List.append_nil]
  | case2 c cs same run ih =>
      have hevent : (if isSpace c = true then Event.blank run else Event.words run) = .blank run ∨
          (if isSpace c = true then Event.blank run else Event.words run) = .words run := by
        cases isSpace c
        · exact Or.inr rfl
        · exact Or.inl rfl
      have hrest := ih _ _ (hstep before (c :: same) _ b (List.cons_ne_nil c same) hevent h)
      rwa [List.append_assoc, List.cons_append, List.takeWhile_append_dropWhile] at hrest

/-- The children with a text behind them that is read up to here. -/
def withText (children : List Branch) (s : List Char) : List Branch :=
  if s = [] then children else children ++ [.text (String.ofList s)]

theorem append_withText {children : List Branch} (hends : Branch.endsInText children = false) (s : List Char)
    {run : List Char} (hrun : run ≠ []) :
    Branch.append (.text (String.ofList run)) (withText children s) = withText children (s ++ run) := by
  rw [withText, withText, if_neg (List.append_ne_nil_of_right_ne_nil s hrun)]
  split
  · rename_i hs
    rw [hs, List.nil_append, Branch.append_eq (Or.inr hends)]
  · rw [Branch.append_text_text, String.ofList_append]

/-- White space is one run. -/
theorem runs_of_all_isSpace {c : Char} {cs : List Char} (h : (c :: cs).all isSpace = true) :
    runs (c :: cs) = [.blank (String.ofList (c :: cs))] := by
  rw [List.all_cons, Bool.and_eq_true, List.all_eq_true] at h
  have hsame : ∀ d ∈ cs, (isSpace d == isSpace c) = true := by
    intro d hd
    rw [h.1, h.2 d hd]
    rfl
  rw [runs]
  rw [List.takeWhile_eq_self_iff.mpr hsame, List.dropWhile_eq_nil_iff.mpr hsame, if_pos h.1, runs]

namespace Stands

variable {b : Builder} {modes : List Mode} {p : Site} {frames : List Frame} {children : List Branch}

/-! ### Comments -/

/-- What is inserted at a site goes behind the children there. -/
theorem insert (h : Stands modes p frames children b) (hstays : b.StaysIn p) {new : Branch}
    (hnew : ∀ n, Branch.Below n [new]) :
    Stands modes p frames (Branch.append new children) (b.insert new) ∧
      (b.insert new).fosterParenting = b.fosterParenting ∧
      (b.insert new).skipLineFeed = b.skipLineFeed := by
  obtain ⟨f, around, rfl, haround⟩ := h.exists_cons
  rw [StaysIn, Site.innermost, haround] at hstays
  rw [h.tree.insert_eq hstays]
  refine ⟨?_, rfl, rfl⟩
  exact
    { tree :=
        { branches := rfl
          opened := h.opened_eq
          growing := h.tree.growing
          below := Branch.below_append (hnew _) h.tree.below }
      surrounds := h.surrounds
      mode := h.mode
      content := h.content
      formatting := h.formatting
      form := h.form
      templateModes := h.templateModes
      olderRules := h.olderRules }

theorem addComment (h : Stands modes p frames children b) (hfoster : b.fosterParenting = false)
    (content : String) :
    Stands modes p frames (children ++ [.comment content]) (b.addComment content) ∧
      (b.addComment content).fosterParenting = false ∧
      (b.addComment content).skipLineFeed = b.skipLineFeed := by
  obtain ⟨hstands, hfoster', hline⟩ :=
    h.insert (staysIn hfoster p) (fun n => Branch.below_comment n content)
  rw [Branch.append_eq (Or.inl rfl)] at hstands
  exact ⟨hstands, hfoster'.trans hfoster, hline⟩

/-- Wherever it stands, a comment is inserted. -/
theorem settlesIn_comment (h : Stands modes p frames children b) (content : String) :
    SettlesIn 1 b (.comment content) (b.addComment content) := by
  cases hforeign : b.readsForeign (.comment content) with
  | true => exact settlesIn_of_foreign hforeign rfl
  | false =>
      refine settlesIn_of_done hforeign ?_
      have hknown := h.surrounds.known
      have hmode := h.mode
      rw [byMode]
      cases hb : b.mode with
      | initial | beforeHtml | beforeHead | afterHead | text | inTableText | afterBody | afterFrameset
        | afterAfterBody | afterAfterFrameset =>
          rw [← hmode, hb] at hknown
          exact absurd hknown (by decide)
      | _ => rfl

/-! ### Where runs go -/

theorem addText (h : Stands modes p frames children b) (hstays : b.StaysIn p) (run : String) :
    Stands modes p frames (Branch.append (.text run) children) (b.addText run) ∧
      (b.addText run).fosterParenting = b.fosterParenting ∧
      (b.addText run).skipLineFeed = b.skipLineFeed :=
  h.insert hstays fun n => Branch.below_text n run

/-- The rule of the body for a run. -/
theorem exists_inBody_run (h : Stands modes p frames children b) (hstays : b.StaysIn p) {event : Event}
    {run : String} (hevent : event = .blank run ∨ event = .words run) :
    ∃ b', b.inBody event = .done b' ∧ Stands modes p frames (Branch.append (.text run) children) b' ∧
      b'.fosterParenting = b.fosterParenting ∧ b'.skipLineFeed = b.skipLineFeed := by
  rcases hevent with rfl | rfl
  · refine ⟨b.addText run, ?_, h.addText hstays run⟩
    rw [inBody, h.reopenFormatting_eq]
  · refine ⟨b.forbidFrameset.addText run, ?_, h.forbidFrameset.addText hstays run⟩
    rw [inBody, h.reopenFormatting_eq]

theorem exists_inBodyFostered_run (h : Stands modes p frames children b)
    (hpart : p.innermost isTablePart = false) {event : Event} {run : String}
    (hevent : event = .blank run ∨ event = .words run) :
    ∃ b', b.tableCharacters event = .done b' ∧ Stands modes p frames (Branch.append (.text run) children) b' ∧
      b'.fosterParenting = false ∧ b'.skipLineFeed = b.skipLineFeed := by
  obtain ⟨b', hrule, hstands, -, hline⟩ := (h.fostering true).exists_inBody_run hpart hevent
  refine ⟨{ b' with fosterParenting := false }, ?_, hstands.fostering false, rfl, hline⟩
  rw [tableCharacters, show b.currentIs (htmlIn ["table", "tbody", "tfoot", "thead", "tr"]) = false from
    (h.currentIs_eq _).trans hpart, if_neg Bool.false_ne_true, inBodyFostered, hrule]

theorem exists_byMode_run (h : Stands modes p frames children b) (hfoster : b.fosterParenting = false)
    (htakes : p.readsBody = true ∨ [Mode.inSelect, .inTemplate].contains p.mode = true) {event : Event}
    {run : String} (hevent : event = .blank run ∨ event = .words run) :
    ∃ b', b.byMode event = .done b' ∧ Stands modes p frames (Branch.append (.text run) children) b' ∧
      b'.fosterParenting = false ∧ b'.skipLineFeed = b.skipLineFeed := by
  have hbody : ∃ b', b.inBody event = .done b' ∧
      Stands modes p frames (Branch.append (.text run) children) b' ∧ b'.fosterParenting = false ∧
      b'.skipLineFeed = b.skipLineFeed := by
    obtain ⟨b', hrule, hstands, hfoster', hline⟩ := h.exists_inBody_run (staysIn hfoster p) hevent
    exact ⟨b', hrule, hstands, hfoster'.trans hfoster, hline⟩
  by_cases hselect : p.mode = .inSelect
  · have hmode := h.mode
    rw [hselect] at hmode
    obtain ⟨hstands, hfoster', hline⟩ := h.addText (staysIn hfoster p) run
    refine ⟨b.addText run, ?_, hstands, hfoster'.trans hfoster, hline⟩
    rw [byMode]
    cases hb : b.mode with
    | inSelect => rcases hevent with rfl | rfl <;> rfl
    | inSelectInTable => rcases hevent with rfl | rfl <;> rfl
    | _ =>
        rw [hb] at hmode
        cases hmode
  · have hpart : p.readsBody = true → p.mode ∈ [Mode.inTable, .inTableBody, .inRow] →
        p.innermost isTablePart = false := by
      intro hreads hmem
      simp only [List.mem_cons, List.not_mem_nil, or_false] at hmem
      rw [← Bool.not_eq_true']
      rcases hmem with hp | hp | hp <;> rwa [Site.readsBody, hp] at hreads
    have hnone : [Mode.inSelect, .inTemplate].contains p.mode = true → p.mode = .inTemplate := by
      intro hcontains
      simpa [hselect] using hcontains
    rw [byMode, h.mode_eq hselect]
    cases hp : p.mode with
    | inBody => rcases hevent with rfl | rfl <;> exact hbody
    | inCaption => rcases hevent with rfl | rfl <;> exact hbody
    | inCell => rcases hevent with rfl | rfl <;> exact hbody
    | inTemplate => rcases hevent with rfl | rfl <;> exact hbody
    | inTable | inTableBody | inRow =>
        have hreads := htakes.resolve_right fun hcontains => by
          have := hnone hcontains
          rw [hp] at this
          cases this
        have hfostered := h.exists_inBodyFostered_run (hpart hreads (by rw [hp]; decide)) hevent
        rcases hevent with rfl | rfl <;> exact hfostered
    | inSelect => exact absurd hp hselect
    | _ =>
        rw [Site.readsBody, hp] at htakes
        rcases htakes with hreads | hcontains
        · cases hreads
        · exact absurd hcontains (by decide)

/-- Where any text is read as such, a run is inserted. -/
theorem exists_settlesIn_run (h : Stands modes p frames children b) (hfoster : b.fosterParenting = false)
    (htakes : p.takesText = true) {event : Event} {run : String}
    (hevent : event = .blank run ∨ event = .words run) :
    ∃ b', SettlesIn 1 b event b' ∧ Stands modes p frames (Branch.append (.text run) children) b' ∧
      b'.fosterParenting = false ∧ b'.skipLineFeed = b.skipLineFeed := by
  have hcharacters : b.readsForeign event = p.readsForeign (.words "") := by
    rw [h.readsForeign_eq]
    rcases hevent with rfl | rfl
    · exact p.readsForeign_blank run
    · exact p.readsForeign_words run
  cases hforeign : p.readsForeign (.words "") with
  | true =>
      rcases hevent with rfl | rfl
      · obtain ⟨hstands, hfoster', hline⟩ := h.addText (staysIn hfoster p) run
        exact ⟨_, settlesIn_of_foreign (hcharacters.trans hforeign) rfl, hstands, hfoster'.trans hfoster, hline⟩
      · obtain ⟨hstands, hfoster', hline⟩ := h.forbidFrameset.addText (staysIn hfoster p) run
        exact ⟨_, settlesIn_of_foreign (hcharacters.trans hforeign) rfl, hstands, hfoster'.trans hfoster, hline⟩
  | false =>
      rw [Site.takesText, hforeign, Bool.false_or, Bool.or_eq_true] at htakes
      obtain ⟨b', hrule, hstands, hfoster', hline⟩ := h.exists_byMode_run hfoster htakes hevent
      exact ⟨b', settlesIn_of_done (hcharacters.trans hforeign) hrule, hstands, hfoster', hline⟩

/-! ### Texts -/

/-- The runs of a text are put together again. -/
theorem exists_foldl_runs {s : List Char} (hends : Branch.endsInText children = false)
    (htakes : p.takesText = true) (h : Stands modes p frames children b) (hfoster : b.fosterParenting = false) :
    ∃ b', (runs s).foldl handle b = b' ∧ Stands modes p frames (withText children s) b' ∧
      b'.fosterParenting = false ∧ b'.skipLineFeed = b.skipLineFeed := by
  let reads (before : List Char) (b' : Builder) : Prop :=
    Stands modes p frames (withText children before) b' ∧ b'.fosterParenting = false ∧
      b'.skipLineFeed = b.skipLineFeed
  have hstep : ∀ before run event b', run ≠ [] →
      (event = .blank (String.ofList run) ∨ event = .words (String.ofList run)) → reads before b' →
      reads (before ++ run) (b'.handle event) := by
    rintro before run event b' hrun hevent ⟨hstands, hfoster', hline⟩
    obtain ⟨b'', hsettles, hstands', hfoster'', hline'⟩ :=
      hstands.exists_settlesIn_run hfoster' htakes hevent
    rw [append_withText hends before hrun] at hstands'
    rw [handle_of_settlesIn hsettles (by decide)]
    exact ⟨hstands', hfoster'', hline'.trans hline⟩
  exact ⟨_, rfl, foldl_runs reads hstep [] s b ⟨h, hfoster, rfl⟩⟩

/-- The state in which white space in a table is held back. -/
def holding (b : Builder) (run : String) : Builder :=
  { b with returnMode := b.mode, mode := .inTableText, tableText := [⟨true, run⟩] }

/-- In a table white space is held back. -/
theorem settlesIn_holding (h : Stands modes p frames children b)
    (hmode : p.mode ∈ [Mode.inTable, .inTableBody, .inRow]) (hpart : p.innermost isTablePart = true)
    (hforeign : p.readsForeign (.words "") = false) (run : String) :
    SettlesIn 2 b (.blank run) (holding b run) := by
  have hcharacters : ∀ b' : Builder, b'.openElements = b.openElements → b'.readsForeign (.blank run) = false := by
    intro b' hopened
    rw [readsForeign, hopened]
    exact ((h.readsForeign_eq _).trans (p.readsForeign_blank run)).trans hforeign
  have hrule : b.byMode (.blank run) = b.tableCharacters (.blank run) := by
    have hb := h.mode_eq fun hselect => by
      rw [hselect] at hmode
      exact absurd hmode (by decide)
    simp only [List.mem_cons, List.not_mem_nil, or_false] at hmode
    rw [byMode, hb]
    rcases hmode with hp | hp | hp <;> rw [hp] <;> rfl
  have hcurrent : b.currentIs (htmlIn ["table", "tbody", "tfoot", "thead", "tr"]) = true :=
    (h.currentIs_eq _).trans hpart
  have hagain : b.byMode (.blank run) =
      .again { b with returnMode := b.mode, mode := .inTableText, tableText := [] } (.blank run) := by
    rw [hrule, tableCharacters, hcurrent, if_pos rfl]
  exact settlesIn_of_again (hcharacters b rfl) hagain (settlesIn_of_done (hcharacters _ rfl) rfl)

/-- The next event that is no text lets the white space go where it stands. -/
theorem exists_leads_holding (h : Stands modes p frames children b) (hfoster : b.fosterParenting = false)
    (hends : Branch.endsInText children = false) (hpart : p.innermost isTablePart = true) (run : String) :
    ∃ b₀, Stands modes p frames (children ++ [.text run]) b₀ ∧ b₀.fosterParenting = false ∧
      b₀.skipLineFeed = b.skipLineFeed ∧
      ∀ event, isCharacters event = false → Leads 1 event (holding b run) b₀ := by
  obtain ⟨f, around, rfl, haround⟩ := h.exists_cons
  have hhtml : f.name.space = .html := by
    rw [Site.innermost, haround] at hpart
    exact beq_iff_eq.mp (Bool.and_eq_true_iff.mp hpart).1
  have hreleased : Tree (f :: around) children { holding b run with tableText := [] } :=
    ⟨h.tree.branches, h.tree.opened, h.tree.growing, h.tree.below⟩
  have hinsert := hreleased.insert_eq (by change (b.fosterParenting && _) = false; rw [hfoster]; rfl)
    (.text run)
  rw [Branch.append_eq (Or.inr hends)] at hinsert
  refine ⟨({ holding b run with tableText := [] } : Builder).insert (.text run) |>.enter b.mode, ?_, ?_, ?_, ?_⟩
  · rw [hinsert]
    exact
      { tree :=
          { branches := rfl
            opened := h.opened_eq
            growing := h.tree.growing
            below := Branch.below_append_iff.mpr ⟨h.tree.below, Branch.below_text _ run⟩ }
        surrounds := h.surrounds
        mode := h.mode
        content := h.content
        formatting := h.formatting
        form := h.form
        templateModes := h.templateModes
        olderRules := h.olderRules }
  · rw [hinsert]
    exact hfoster
  · rw [hinsert]
    rfl
  · intro event hevent
    refine leads_of_again ?_ ?_
    · rw [readsForeign, show (holding b run).openElements = f.opened :: around.map Frame.opened from h.opened_eq]
      dsimp only [Frame.opened]
      rw [hhtml]
      rfl
    · cases event with
      | startTag tag => rfl
      | endTag name => rfl
      | comment content => rfl
      | endOfInput => rfl
      | _ => cases hevent

/-- A text is read back whole; where it is held back, with the event that follows it. -/
theorem exists_text (h : Stands modes p frames children b) (hfoster : b.fosterParenting = false)
    (hends : Branch.endsInText children = false) {s : List Char} (hne : s ≠ []) (hfits : textFits p s = true) :
    ∃ b' b₀, (runs s).foldl handle b = b' ∧ b'.content = .markup ∧ b'.skipLineFeed = b.skipLineFeed ∧
      Stands modes p frames (children ++ [.text (String.ofList s)]) b₀ ∧ b₀.fosterParenting = false ∧
      b₀.skipLineFeed = b.skipLineFeed ∧ ∀ event, isCharacters event = false → Leads 1 event b' b₀ := by
  rw [textFits, Bool.or_eq_true] at hfits
  by_cases htakes : p.takesText = true
  · obtain ⟨b', hfold, hstands, hfoster', hline⟩ :=
      exists_foldl_runs (s := s) hends htakes h hfoster
    rw [withText, if_neg hne] at hstands
    exact ⟨b', b', hfold, hstands.content, hline, hstands, hfoster', hline, fun event _ => leads_self 1 event b'⟩
  · obtain ⟨hblank, hmode⟩ := Bool.and_eq_true_iff.mp (hfits.resolve_left htakes)
    rw [Site.takesText, Bool.not_eq_true, Bool.or_eq_false_iff, Bool.or_eq_false_iff] at htakes
    obtain ⟨⟨hforeign, hbody⟩, -⟩ := htakes
    obtain ⟨c, cs, rfl⟩ := List.exists_cons_of_ne_nil hne
    rw [runs_of_all_isSpace hblank, List.foldl_cons, List.foldl_nil]
    generalize String.ofList (c :: cs) = run
    by_cases htable : p.mode ∈ [Mode.inTable, .inTableBody, .inRow]
    · have hpart : p.innermost isTablePart = true := by
        simp only [List.mem_cons, List.not_mem_nil, or_false] at htable
        rw [← Bool.not_eq_false']
        rcases htable with hp | hp | hp <;> rwa [Site.readsBody, hp] at hbody
      obtain ⟨b₀, hstands, hfoster', hline, hleads⟩ := h.exists_leads_holding hfoster hends hpart run
      refine ⟨holding b run, b₀, ?_, h.content, rfl, hstands, hfoster', hline, hleads⟩
      exact handle_of_settlesIn (h.settlesIn_holding htable hpart hforeign run) (by decide)
    · obtain ⟨hstands, hfoster', hline⟩ := h.addText (staysIn hfoster p) run
      rw [Branch.append_eq (Or.inr hends)] at hstands
      refine ⟨b.addText run, b.addText run, ?_, hstands.content, hline, hstands, hfoster'.trans hfoster, hline,
        fun event _ => leads_self 1 event _⟩
      have hmodes : p.mode ∈ [Mode.inColumnGroup, .inHead, .inFrameset] := by
        rw [List.contains_iff_mem] at hmode
        exact (List.mem_append.mp (show p.mode ∈ [Mode.inTable, .inTableBody, .inRow] ++
          [Mode.inColumnGroup, .inHead, .inFrameset] from hmode)).resolve_left htable
      have hrule : b.byMode (.blank run) = .done (b.addText run) := by
        rw [byMode, h.mode_eq fun hselect => by
          rw [hselect] at hmodes
          exact absurd hmodes (by decide)]
        simp only [List.mem_cons, List.not_mem_nil, or_false] at hmodes
        rcases hmodes with hp | hp | hp <;> rw [hp] <;> rfl
      refine handle_of_settlesIn (settlesIn_of_done ?_ hrule) (by decide)
      exact ((h.readsForeign_eq _).trans (p.readsForeign_blank run)).trans hforeign

end Stands

end Builder

end MarkupModule.Markup.Construction
