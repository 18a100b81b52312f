import MarkupModule.Markup.Construction
import MarkupModule.Proofs.Construction.Frames

/-! How a state deals with an event: a rule either deals with it or passes it on to another mode, so an
event is dealt with in a number of looks. Given here are the looks that the elements of a component need:
links and scripts, wherever they stand, template modules in the body, and the document elements that are
supplied in front of the first of them. -/

namespace MarkupModule.Markup.Construction.Builder

open MarkupModule.Text

theorem read_cons {b : Builder} {c : Char} {cs rest : List Char} {tokens : List Token}
    (h : Lexer.first b.content b.allowsSections c cs = ⟨tokens, rest⟩) :
    b.read (c :: cs) = (tokens.foldl receive b).read rest := by
  rw [read, h]

/-- An event is dealt with in so many looks at most. -/
def SettlesIn (looks : Nat) (b : Builder) (event : Event) (b' : Builder) : Prop :=
  ∀ n, looks ≤ n → settle n b event = b'

section

variable {looks : Nat} {b b' b'' : Builder} {event event' : Event}

theorem settlesIn_of_done (hforeign : b.readsForeign event = false) (h : b.byMode event = .done b') :
    SettlesIn 1 b event b' := by
  intro n hn
  obtain ⟨m, rfl⟩ := Nat.exists_eq_add_of_le hn
  rw [Nat.add_comm, settle, hforeign, if_neg Bool.false_ne_true, h]

theorem settlesIn_of_again (hforeign : b.readsForeign event = false)
    (h : b.byMode event = .again b' event') (hsettles : SettlesIn looks b' event' b'') :
    SettlesIn (looks + 1) b event b'' := by
  intro n hn
  obtain ⟨m, rfl⟩ := Nat.exists_eq_add_of_le hn
  rw [Nat.add_right_comm, settle, hforeign, if_neg Bool.false_ne_true, h]
  exact hsettles (looks + m) (Nat.le_add_right looks m)

theorem handle_of_settlesIn (h : SettlesIn looks b event b') (hlooks : looks ≤ 16) :
    b.handle event = b' :=
  h _ (Nat.le_trans hlooks (Nat.le_add_left _ _))

theorem readsForeign_within {f : Frame} (hspace : f.name.space = .html) (around : List Frame)
    (children : List Branch) (event : Event) :
    (b.within (f :: around) children).readsForeign event = false := by
  change ((f.name.space != .html) && _ && _ && _ && _) = false
  rw [hspace]
  rfl

end

/-- A state in which nothing is pending, in a mode and with the mode to return to behind text. -/
def plain (mode returnMode : Mode) (head : Option OpenElement) (nextSerial : Nat) : Builder :=
  { mode, returnMode, head, nextSerial, olderRules := true }

/-- The modes in which links and scripts are inserted where they stand. -/
def TakesMetadata (mode : Mode) : Prop :=
  mode = .inHead ∨ mode = .inBody

section

variable {mode returnMode : Mode} {head : Option OpenElement} {k : Nat} {f : Frame}
  {around : List Frame} {children : List Branch}

theorem settlesIn_link (hmode : TakesMetadata mode) (h : Growing k (f :: around))
    (hspace : f.name.space = .html) (hname : isHtml "template" f.name = false)
    (attributes : List (String × String)) :
    SettlesIn 1 ((plain mode returnMode head k).within (f :: around) children)
      (.startTag ⟨"link", attributes, false⟩)
      ((plain mode returnMode head (k + 1)).within (f :: around)
        (children ++ [.element k ⟨.html, "link"⟩ (attributes.map Attribute.ofPair) []])) := by
  refine settlesIn_of_done (readsForeign_within hspace _ _ _) ?_
  have hrule : ((plain mode returnMode head k).within (f :: around) children).byMode
      (.startTag ⟨"link", attributes, false⟩) =
      .done (((plain mode returnMode head k).within (f :: around) children).insertTagClosed
        ⟨"link", attributes, false⟩) := by
    rcases hmode with rfl | rfl
    · simp [byMode, plain, within, inHead, metadataNames, metadataStart]
    · simp [byMode, plain, within, inBody, bodyStart, metadataNames, metadataStart]
  rw [hrule, insertTagClosed, insertClosed_within h rfl hname rfl]
  rfl

/-- The state in which the text of an element that holds text only is read as that of a script. -/
def scripting (returnMode : Mode) (head : Option OpenElement) (nextSerial : Nat) : Builder :=
  { plain .text returnMode head nextSerial with content := .scriptText }

/-- A script is inserted and left open, and its text follows. -/
theorem settlesIn_script (hmode : TakesMetadata mode) (h : Growing k (f :: around))
    (hspace : f.name.space = .html) (hname : isHtml "template" f.name = false)
    (attributes : List (String × String)) :
    SettlesIn 1 ((plain mode returnMode head k).within (f :: around) children)
      (.startTag ⟨"script", attributes, false⟩)
      ((scripting mode head (k + 1)).within
        (⟨children, k, ⟨.html, "script"⟩, attributes.map Attribute.ofPair⟩ :: f :: around) []) := by
  refine settlesIn_of_done (readsForeign_within hspace _ _ _) ?_
  have hrule : ((plain mode returnMode head k).within (f :: around) children).byMode
      (.startTag ⟨"script", attributes, false⟩) =
      .done (((plain mode returnMode head k).within (f :: around) children).insertTextElement
        ⟨"script", attributes, false⟩ .scriptText) := by
    rcases hmode with rfl | rfl
    · simp [byMode, plain, within, inHead, metadataNames, metadataStart]
    · simp [byMode, plain, within, inBody, bodyStart, metadataNames, metadataStart]
  rw [hrule, insertTextElement, insertTag, insertOpen_within h rfl hname rfl]
  rfl

/-- The children of an element that hold a text, if there is any. -/
def textBranches (s : List Char) : List Branch :=
  if s = [] then [] else [.text (String.ofList s)]

theorem append_textBranches (s : List Char) {run : List Char} (h : run ≠ []) :
    Branch.append (.text (String.ofList run)) (textBranches s) = textBranches (s ++ run) := by
  rw [textBranches, textBranches, if_neg (List.append_ne_nil_of_right_ne_nil s h)]
  split
  · rename_i hnil
    rw [hnil, List.nil_append]
    rfl
  · rw [String.ofList_append]
    rfl

theorem handle_run (h : Growing k (f :: around)) (hspace : f.name.space = .html)
    (hname : isHtml "template" f.name = false) {event : Event} {run : String}
    (hevent : event = .blank run ∨ event = .words run) :
    ((scripting returnMode head k).within (f :: around) children).handle event =
      (scripting returnMode head k).within (f :: around) (Branch.append (.text run) children) := by
  refine handle_of_settlesIn (settlesIn_of_done (readsForeign_within hspace _ _ _) ?_) (by decide)
  rw [← insert_within h rfl hname]
  rcases hevent with rfl | rfl
  · rfl
  · rfl

/-- The runs of a text are put together again. -/
theorem foldl_handle_runs (h : Growing k (f :: around)) (hspace : f.name.space = .html)
    (hname : isHtml "template" f.name = false) (before s : List Char) :
    (runs s).foldl handle ((scripting returnMode head k).within (f :: around) (textBranches before)) =
      (scripting returnMode head k).within (f :: around) (textBranches (before ++ s)) := by
  fun_induction runs s generalizing before with
  | case1 => rw [List.append_nil, List.foldl_nil]
  | case2 c cs same run ih =>
      have hevent : (if isSpace c = true then Event.blank run else Event.words run) = .blank run ∨
          (if isSpace c = true then Event.blank run else Event.words run) = .words run := by
        cases isSpace c
        · exact Or.inr rfl
        · exact Or.inl rfl
      rw [List.foldl_cons, handle_run h hspace hname hevent, append_textBranches _ (by simp), ih,
        List.append_assoc, List.cons_append, List.takeWhile_append_dropWhile]

/-- The text of a script becomes its only child. -/
theorem receive_scriptText (h : Growing k (f :: around)) (hspace : f.name.space = .html)
    (hname : isHtml "template" f.name = false) (body : List Char) :
    ((scripting returnMode head k).within (f :: around) []).receive (.text (String.ofList body)) =
      (scripting returnMode head k).within (f :: around) (textBranches body) := by
  have hfold : (runs body).foldl handle ((scripting returnMode head k).within (f :: around) []) = _ :=
    foldl_handle_runs h hspace hname [] body
  rw [receive]
  change (runs (String.ofList body).toList).foldl handle _ = _
  rw [String.toList_ofList]
  exact hfold

theorem receive_scriptEnd (hspace : f.name.space = .html) (name : String) :
    ((scripting returnMode head k).within (f :: around) children).receive (.endTag name) =
      (plain returnMode returnMode head k).within around (f.closed children) := by
  rw [receive]
  change ((plain .text returnMode head k).within (f :: around) children).handle (.endTag name) = _
  exact handle_of_settlesIn (settlesIn_of_done (readsForeign_within hspace _ _ _) rfl) (by decide)

/-! ### Template modules -/

/-- In the body a template module is inserted and left open. -/
theorem settlesIn_moduleStart (returnMode : Mode) (head : Option OpenElement)
    (children : List Branch) (h : Growing k (f :: around)) (hspace : f.name.space = .html)
    (hname : isHtml "template" f.name = false) :
    SettlesIn 1 ((plain .inBody returnMode head k).within (f :: around) children)
      (.startTag ⟨"dom-module", [], false⟩)
      ((plain .inBody returnMode head (k + 1)).within
        (⟨children, k, ⟨.html, "dom-module"⟩, []⟩ :: f :: around) []) := by
  refine settlesIn_of_done (readsForeign_within hspace _ _ _) ?_
  have hrule : ((plain .inBody returnMode head k).within (f :: around) children).byMode
      (.startTag ⟨"dom-module", [], false⟩) =
      .done (((plain .inBody returnMode head k).within (f :: around) children).insertTag
        ⟨"dom-module", [], false⟩) := by
    simp [byMode, plain, within, inBody, bodyStart, metadataNames, blockNames, headingNames,
      tableGroupNames, textStart, formattingNames, reopenFormatting, reopen]
  rw [hrule, insertTag, insertOpen_within h rfl hname rfl]
  rfl

theorem receive_moduleEnd (hname : f.name = ⟨.html, "dom-module"⟩) :
    ((plain .inBody returnMode head k).within (f :: around) children).receive (.endTag "dom-module") =
      (plain .inBody returnMode head k).within around (f.closed children) := by
  have hspace : f.name.space = .html := by rw [hname]
  rw [receive]
  change ((plain .inBody returnMode head k).within (f :: around) children).handle _ = _
  refine handle_of_settlesIn (settlesIn_of_done (readsForeign_within hspace _ _ _) ?_) (by decide)
  simp [byMode, plain, within, inBody, bodyEnd, closableNames, headingNames, formattingNames,
    closeByName, closeImpliedExcept, closeImplied, isHtml, hname, Frame.opened, plug]

end

/-! ### Document elements -/

def htmlFrame : Frame := ⟨[], 0, ⟨.html, "html"⟩, []⟩

def headFrame : Frame := ⟨[], 1, ⟨.html, "head"⟩, []⟩

/-- The body of a document, behind the closed head. -/
def bodyFrame (serial : Nat) (headNodes : List Branch) : Frame :=
  ⟨headFrame.closed headNodes, serial, ⟨.html, "body"⟩, []⟩

def headState (returnMode : Mode) (k : Nat) (headNodes : List Branch) : Builder :=
  (plain .inHead returnMode (some headFrame.opened) k).within [headFrame, htmlFrame] headNodes

def bodyState (returnMode : Mode) (k serial : Nat) (headNodes bodyNodes : List Branch) : Builder :=
  (plain .inBody returnMode (some headFrame.opened) k).within [bodyFrame serial headNodes, htmlFrame] bodyNodes

theorem growing_html {k : Nat} (hk : 0 < k) : Growing k [htmlFrame] :=
  .cons hk (Branch.below_nil _) .nil

theorem growing_head {k : Nat} (hk : 2 ≤ k) : Growing k [headFrame, htmlFrame] :=
  .cons hk (Branch.below_nil _) (growing_html Nat.one_pos)

theorem growing_body {k serial : Nat} {headNodes : List Branch} (hk : serial < k) (hserial : 2 ≤ serial)
    (hbelow : Branch.Below serial headNodes) : Growing k [bodyFrame serial headNodes, htmlFrame] := by
  refine .cons hk ?_ (growing_html (Nat.lt_of_lt_of_le Nat.two_pos hserial))
  exact Branch.below_append_iff.mpr
    ⟨Branch.below_nil _, Branch.below_element_iff.mpr ⟨hserial, hbelow⟩⟩

/-- The events that no document element deals with before the head is open. -/
def OpensHead (event : Event) : Prop :=
  event = .endOfInput ∨
    ∃ tag, event = .startTag tag ∧ (tag.name == "html") = false ∧ (tag.name == "head") = false

/-- The outermost element and the head are supplied in front of the first content. -/
theorem settlesIn_start {looks : Nat} {event : Event} {b' : Builder} (hevent : OpensHead event)
    (h : SettlesIn looks (headState .initial 2 []) event b') :
    SettlesIn (looks + 3) default event b' := by
  have hhtml : ({ (default : Builder) with olderRules := true, mode := .beforeHtml }).byMode event =
      .again ((plain .beforeHead .initial none 1).within [htmlFrame] []) event := by
    rcases hevent with rfl | ⟨tag, rfl, hhtml, _⟩
    · rfl
    · change (if (tag.name == "html") = true then _ else _) = _
      rw [hhtml]
      rfl
  have hhead : ((plain .beforeHead .initial none 1).within [htmlFrame] []).byMode event =
      .again (((plain .beforeHead .initial none 1).within [htmlFrame] []).insertImplied
        "head").withHead event := by
    rcases hevent with rfl | ⟨tag, rfl, hhtml, hhead⟩
    · rfl
    · change (if (tag.name == "html") = true then _ else if (tag.name == "head") = true then _ else _) = _
      rw [hhtml, hhead]
      rfl
  refine settlesIn_of_again rfl ?_ (settlesIn_of_again rfl hhtml (settlesIn_of_again
    (readsForeign_within rfl _ _ _) hhead ?_))
  · rcases hevent with rfl | ⟨tag, rfl, _⟩
    · rfl
    · rfl
  · rw [insertImplied, insertTag, insertOpen_within (growing_html Nat.one_pos) rfl rfl rfl]
    exact h

/-- The events that no document element deals with before the body is open. -/
def OpensBody (event : Event) : Prop :=
  event = .endOfInput ∨ event = .startTag ⟨"dom-module", [], false⟩

/-- The body is supplied in front of the first content that the head does not take. -/
theorem settlesIn_leaveHead {looks k : Nat} {returnMode : Mode} {event : Event} {b' : Builder}
    {headNodes : List Branch} (hevent : OpensBody event)
    (h : SettlesIn looks (bodyState returnMode (k + 1) k headNodes []) event b') :
    SettlesIn (looks + 2) (headState returnMode k headNodes) event b' := by
  have hleave : (headState returnMode k headNodes).byMode event =
      .again ((plain .afterHead returnMode (some headFrame.opened) k).within [htmlFrame]
        (headFrame.closed headNodes)) event := by
    rcases hevent with rfl | rfl
    · rfl
    · simp [headState, byMode, plain, within, inHead, metadataNames, pop, enter, plug, Frame.opened]
  have himplied : ((plain .afterHead returnMode (some headFrame.opened) k).within [htmlFrame]
        (headFrame.closed headNodes)).byMode event =
      .again ((((plain .afterHead returnMode (some headFrame.opened) k).within [htmlFrame]
        (headFrame.closed headNodes)).insertImplied "body").enter .inBody) event := by
    rcases hevent with rfl | rfl
    · rfl
    · simp [byMode, plain, within, afterHead, metadataNames]
  refine settlesIn_of_again (readsForeign_within rfl _ _ _) hleave (settlesIn_of_again
    (readsForeign_within rfl _ _ _) himplied ?_)
  rw [insertImplied, insertTag, insertOpen_within (growing_html Nat.one_pos) rfl rfl rfl]
  exact h

/-- The end of the input leaves the body as it is. -/
theorem settlesIn_end (returnMode : Mode) (k serial : Nat) (headNodes bodyNodes : List Branch) :
    SettlesIn 1 (bodyState returnMode k serial headNodes bodyNodes) .endOfInput
      (bodyState returnMode k serial headNodes bodyNodes) :=
  settlesIn_of_done (readsForeign_within rfl _ _ _) rfl

end MarkupModule.Markup.Construction.Builder
