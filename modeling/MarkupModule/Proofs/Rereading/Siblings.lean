import MarkupModule.Proofs.Rereading.TextElements

/-! Nodes that are read one after the other at a site. What is written of a node that fits there leads from
one state to the next, in which the node stands behind the children. In a template the first element that is
no metadata decides by which rules the template is read from there on. -/

namespace MarkupModule.Markup

open MarkupModule.Text
open Lexer (EndsText)

theorem isReadable_reread {name : ElementName} {attributes : List Attribute}
    (h : isWritable name attributes = true) : (Tag.reread name attributes).IsReadable := by
  rw [isWritable, Bool.and_eq_true, Bool.and_eq_true, List.all_eq_true, decide_eq_true_eq] at h
  obtain ⟨⟨hname, hattributes⟩, hdistinct⟩ := h
  have hattribute : ∀ a ∈ attributes, isAttributeName (lower a.name.toList) = true ∧ IsClean a.value := by
    intro a ha
    have := hattributes a ha
    rwa [Bool.and_eq_true, decide_eq_true_eq] at this
  refine ⟨?_, ?_, ?_, ?_, rfl⟩
  · rwa [Tag.reread, Tag.ofElement, Tag.lowered, lowerName, String.toList_ofList]
  · refine List.forall_mem_map.mpr (List.forall_mem_map.mpr fun a ha => ?_)
    rw [lowerName, String.toList_ofList]
    exact (hattribute a ha).1
  · exact List.forall_mem_map.mpr (List.forall_mem_map.mpr fun a ha => (hattribute a ha).2.2)
  · rw [Tag.reread, Tag.ofElement, Tag.lowered, List.map_map, List.map_map]
    exact hdistinct

theorem isTagName_of_isWritable {name : ElementName} {attributes : List Attribute}
    (h : isWritable name attributes = true) : isTagName (lower name.name.toList) = true := by
  rw [isWritable, Bool.and_eq_true, Bool.and_eq_true] at h
  exact h.1.1

theorem isWritable_of_fits {p : Construction.Site} {name : ElementName} {attributes : List Attribute}
    {children : List Node} (h : (Node.element name attributes children).fits p = true) :
    isWritable name attributes = true := by
  rw [Node.fits, Bool.and_eq_true] at h
  exact h.1

/-- A text ends before any other node. -/
theorem Node.endsText_of_fits {p : Construction.Site} {node : Node} (h : node.fits p = true)
    (htext : startsWithText [node] = false) (rest : List Char) : EndsText (node.markup ++ rest) := by
  cases node with
  | element name attributes children =>
      have hname : isTagName (lower (Tag.ofElement name attributes).name.toList) = true :=
        isTagName_of_isWritable (isWritable_of_fits h)
      rw [markup, List.cons_append, List.append_assoc]
      exact Lexer.endsText_startTag hname _
  | text content => cases htext
  | comment content =>
      rw [markup, List.append_assoc, List.append_assoc]
      exact Or.inr ⟨_, rfl, rfl⟩
  | doctype =>
      rw [Node.fits] at h
      cases h
  | contents =>
      rw [Node.fits] at h
      cases h

theorem startsWithText_cons (node : Node) (rest : List Node) :
    startsWithText (node :: rest) = startsWithText [node] := by
  cases node <;> rfl

theorem startsWithLineFeed_cons (node : Node) (rest : List Node) :
    startsWithLineFeed (node :: rest) = startsWithLineFeed [node] := by
  cases node <;> rfl

namespace Construction

/-! ### Templates -/

/-- Where the mode of a template is still open, the site is directly in the template. -/
def IsOpenIn (modes : List Mode) (p : Site) : Prop :=
  p.mode = .inTemplate → p.innermost (isHtml "template") = true ∧ modes.head? = some .inTemplate

/-- How the modes and the site change along nodes. -/
def Turned (modes : List Mode) (p : Site) (modes' : List Mode) (p' : Site) : Prop :=
  modes' = modes ∧ p' = p ∨
    p.mode = .inTemplate ∧ ∃ mode, mode ≠ .inTemplate ∧ mode ∈ Builder.modesOfTemplates ∧
      modes' = mode :: modes.drop 1 ∧ p' = { p with mode }

theorem turned_self (modes : List Mode) (p : Site) : Turned modes p modes p :=
  Or.inl ⟨rfl, rfl⟩

namespace Turned

variable {modes modes' modes'' : List Mode} {p p' p'' : Site}

theorem eq_of_ne (h : Turned modes p modes' p') (hmode : p.mode ≠ .inTemplate) : modes' = modes ∧ p' = p :=
  h.resolve_right fun hturned => hmode hturned.1

theorem trans (h : Turned modes p modes' p') (h' : Turned modes' p' modes'' p'') :
    Turned modes p modes'' p'' := by
  rcases h with ⟨rfl, rfl⟩ | ⟨hp, mode, hne, hmem, rfl, rfl⟩
  · exact h'
  · obtain ⟨rfl, rfl⟩ := h'.eq_of_ne hne
    exact Or.inr ⟨hp, mode, hne, hmem, rfl, rfl⟩

theorem isOpenIn (h : Turned modes p modes' p') (hopen : IsOpenIn modes p) : IsOpenIn modes' p' := by
  rcases h with ⟨rfl, rfl⟩ | ⟨_, mode, hne, _, rfl, rfl⟩
  · exact hopen
  · exact fun hmode => absurd hmode hne

theorem around_eq (h : Turned modes p modes' p') : p'.around = p.around := by
  rcases h with ⟨rfl, rfl⟩ | ⟨_, mode, _, _, rfl, rfl⟩ <;> rfl

end Turned

theorem templateMode_facts (name : String) :
    templateMode name ≠ .inTemplate ∧ templateMode name ∈ Builder.modesOfTemplates ∧
      (templateMode name).canonical = templateMode name ∧ templateMode name ∈ siteModes := by
  rw [templateMode]
  split
  · decide
  · split
    · decide
    · split
      · decide
      · split <;> decide

namespace Builder

variable {modes modes' : List Mode} {p : Site} {frames : List Frame} {children : List Branch} {b b₀ : Builder}

/-- The first element of a template that is no metadata is passed on to the rules that read it. -/
theorem byMode_inTemplate (hmode : b.mode = .inTemplate) {tag : Tag}
    (hname : metadataNames.contains tag.name = false) :
    b.byMode (.startTag tag) = b.switchTemplate (templateMode tag.name) (.startTag tag) := by
  have hrule : b.byMode (.startTag tag) = b.inTemplate (.startTag tag) := by
    rw [byMode, hmode]
  have hite : ∀ {condition : Prop} [Decidable condition] {mode mode' : Mode} {rule : Outcome},
      rule = b.switchTemplate mode' (.startTag tag) →
      (if condition then b.switchTemplate mode (.startTag tag) else rule) =
        b.switchTemplate (if condition then mode else mode') (.startTag tag) := by
    intro condition _ mode mode' rule h
    split
    · rfl
    · exact h
  rw [hrule, inTemplate, templateMode]
  rw [hname, if_neg Bool.false_ne_true]
  exact hite (hite (hite (hite rfl)))

/-- What a template is read by is settled before an element is read in it. -/
theorem Stands.exists_before (h : Stands modes p frames children b) (hopen : IsOpenIn modes p) {tag : Tag}
    (hforeign : p.readsForeign (.startTag tag) = false) :
    ∃ modes' b', Turned modes p modes' (p.before tag.name) ∧
      Stands modes' (p.before tag.name) frames children b' ∧ b'.fosterParenting = b.fosterParenting ∧
      b'.skipLineFeed = b.skipLineFeed ∧ Leads 1 (.startTag tag) b b' := by
  rw [Site.before]
  split
  · rename_i hswitch
    rw [Bool.and_eq_true, Bool.not_eq_true', beq_iff_eq] at hswitch
    obtain ⟨hmode, hname⟩ := hswitch
    obtain ⟨hinnermost, -⟩ := hopen hmode
    obtain ⟨hne, hmem, hcanonical, hknown⟩ := templateMode_facts tag.name
    obtain ⟨f, around, rfl, haround⟩ := h.exists_cons
    have hf : f.name = ⟨.html, "template"⟩ := by
      rw [Site.innermost, haround] at hinnermost
      obtain ⟨hspace, hname⟩ := Bool.and_eq_true_iff.mp hinnermost
      exact congrArg₂ ElementName.mk (beq_iff_eq.mp hspace) (beq_iff_eq.mp hname)
    have hb : b.mode = .inTemplate := (h.mode_eq (by rw [hmode]; decide)).trans hmode
    have hresets := resets_template hf (templateMode tag.name) (modes.drop 1) around
    rw [hcanonical] at hresets
    refine ⟨_, { b with
        mode := templateMode tag.name
        templateModes := templateMode tag.name :: b.templateModes.drop 1 },
      Or.inr ⟨hmode, _, hne, hmem, rfl, rfl⟩, ?_, rfl, rfl, ?_⟩
    · exact
        { tree := ⟨h.tree.branches, h.tree.opened, h.tree.growing, h.tree.below⟩
          surrounds := ⟨h.surrounds.names, h.surrounds.open_, hknown, hresets⟩
          mode := hcanonical
          content := h.content
          formatting := h.formatting
          form := h.form
          templateModes := by rw [h.templateModes]
          olderRules := h.olderRules }
    · exact leads_of_again ((h.readsForeign_eq _).trans hforeign) (byMode_inTemplate hb hname)
  · exact ⟨modes, b, turned_self modes p, h, rfl, rfl, leads_self 1 _ b⟩

/-! ### Tags and comments as they are written -/

theorem read_startTagText (hcontent : b.content = .markup) {tag : Tag} (htag : tag.lowered.IsReadable)
    (rest : List Char) :
    b.read ('<' :: (tag.text ++ rest)) = (b.calm.handle (.startTag tag.lowered)).read rest := by
  have hfirst := Lexer.first_startTag_lowered htag b.allowsSections rest
  rw [← hcontent] at hfirst
  rw [read_cons hfirst]
  rfl

theorem read_endTagText (hcontent : b.content = .markup) {name : String}
    (hname : isTagName (lower name.toList) = true) (rest : List Char) :
    b.read (endTagText name ++ rest) = (b.calm.handle (.endTag (lowerName name))).read rest := by
  have htext : endTagText name ++ rest = '<' :: '/' :: (name.toList ++ '>' :: rest) := by
    simp [endTagText]
  have hfirst := Lexer.first_endTag_lower hname b.allowsSections rest
  rw [← hcontent] at hfirst
  rw [htext, read_cons hfirst, List.foldl_cons, List.foldl_nil, receive_endTag hcontent]

theorem read_commentText (hcontent : b.content = .markup) {content : String} (hclean : IsClean content)
    (hcomment : Lexer.isCommentText content.toList = true) (rest : List Char) :
    b.read ((Node.comment content).markup ++ rest) = (b.calm.handle (.comment content)).read rest := by
  have hfirst := Lexer.first_comment hcomment hclean.2 b.allowsSections rest
  rw [← hcontent, String.ofList_toList] at hfirst
  have htext : (Node.comment content).markup ++ rest =
      '<' :: '!' :: '-' :: '-' :: (content.toList ++ '-' :: '-' :: '>' :: rest) := by
    simp [Node.markup]
  rw [htext, read_cons hfirst]
  rfl

/-! ### From state to state -/

/-- All but text is read from a state as from another one, which stands at a site. They differ where white
space in a table is held back. -/
structure ReadsAs (modes : List Mode) (p : Site) (frames : List Frame) (children : List Branch)
    (b b₀ : Builder) : Prop where
  stands : Stands modes p frames children b₀
  content : b.content = .markup
  fosterParenting : b₀.fosterParenting = false
  skipLineFeed : b₀.skipLineFeed = false
  leads : ∀ event, isCharacters event = false → Leads 1 event b.calm b₀
  same : Branch.endsInText children = false → b.calm = b₀

theorem Stands.readsAs (h : Stands modes p frames children b) (hfoster : b.fosterParenting = false) :
    ReadsAs modes p frames children b b.calm where
  stands := h.skipping false
  content := h.content
  fosterParenting := hfoster
  skipLineFeed := rfl
  leads := fun event _ => leads_self 1 event b.calm
  same := fun _ => rfl

namespace ReadsAs

theorem handle_eq (h : ReadsAs modes p frames children b b₀) {event : Event}
    (hevent : isCharacters event = false) {n : Nat} {b' : Builder} (hsettles : SettlesIn n b₀ event b')
    (hn : n ≤ 15) : b.calm.handle event = b' :=
  handle_of_settlesIn (h.leads event hevent n b' hsettles) (Nat.succ_le_succ hn)

theorem read_startTag (h : ReadsAs modes p frames children b b₀) {tag : Tag} (htag : tag.lowered.IsReadable)
    {n : Nat} {b' : Builder} (hsettles : SettlesIn n b₀ (.startTag tag.lowered) b') (hn : n ≤ 15)
    (rest : List Char) : b.read ('<' :: (tag.text ++ rest)) = b'.read rest := by
  rw [read_startTagText h.content htag, h.handle_eq rfl hsettles hn]

theorem read_endTag (h : ReadsAs modes p frames children b b₀) {name : String}
    (hname : isTagName (lower name.toList) = true) {n : Nat} {b' : Builder}
    (hsettles : SettlesIn n b₀ (.endTag (lowerName name)) b') (hn : n ≤ 15) (rest : List Char) :
    b.read (endTagText name ++ rest) = b'.read rest := by
  rw [read_endTagText h.content hname, h.handle_eq rfl hsettles hn]

/-- The end tag of the innermost element, which some rule closes by it. -/
theorem exists_closed {modes' : List Mode} {q : Site} {f : Frame} {inside : List Branch} {rule : Outcome}
    (h : ReadsAs modes' q (f :: frames) inside b b₀) (hname : isTagName (lower f.name.name.toList) = true)
    (hclosed : ClosesBy modes p frames (f.filled inside) b₀ rule)
    (hrule : ∀ b', rule = .done b' → SettlesIn 1 b₀ (.endTag (lowerName f.name.name)) b') :
    ∃ b', Stands modes p frames (f.filled inside) b' ∧ b'.fosterParenting = false ∧
      b'.skipLineFeed = false ∧ ∀ rest, b.read (endTagText f.name.name ++ rest) = b'.read rest := by
  obtain ⟨b', hdone, hstands, hfoster, hline⟩ := hclosed
  exact ⟨b', hstands, hfoster.trans h.fosterParenting, hline.trans h.skipLineFeed,
    h.read_endTag hname (hrule b' hdone) (by decide)⟩

/-- A text is read back, however it is written. -/
theorem exists_text (h : ReadsAs modes p frames children b b₀) (hends : Branch.endsInText children = false)
    {content : String} (hne : content ≠ "") (hfits : textFits p content.toList = true)
    (hline : b.skipLineFeed = true → startsWithLineFeed [.text content] = false) :
    ∃ b' b₁, ReadsAs modes p frames (children ++ [.text content]) b' b₁ ∧ b'.skipLineFeed = false ∧
      ∀ (c : Char) (cs : List Char), (∀ d ∈ c :: cs, d ≠ '<' ∧ d ≠ '\x00') →
        Reference.resolve false (c :: cs) = content.toList →
        ∀ rest, EndsText rest → b.read (c :: (cs ++ rest)) = b'.read rest := by
  have hchars : content.toList ≠ [] := fun hnil => hne (String.toList_eq_nil_iff.mp hnil)
  obtain ⟨b', b₁, hfold, hcontent, hskips, hstands, hfoster, hskips', hleads⟩ :=
    h.stands.exists_text h.fosterParenting hends hchars hfits
  rw [String.ofList_toList] at hstands
  have hcalm : b'.skipLineFeed = false := hskips.trans h.skipLineFeed
  refine ⟨b', b₁, ⟨hstands, hcontent, hfoster, hskips'.trans h.skipLineFeed, ?_, ?_⟩, hcalm, ?_⟩
  · rw [calm_eq hcalm]
    exact hleads
  · intro htext
    rw [Branch.endsInText_append] at htext
    cases htext
  · intro c cs hwritten hresolve rest hrest
    have hfirst := Lexer.first_text hwritten hresolve hrest b.allowsSections
    rw [← h.content] at hfirst
    have hfeed : b.skipLineFeed = true → content.toList.head? ≠ some '\n' :=
      fun hskip => beq_eq_false_iff_ne.mp (hline hskip)
    rw [read_cons hfirst, List.foldl_cons, List.foldl_nil, receive_text hfeed, h.same hends, hfold]

end ReadsAs

end Builder

/-! ### Nodes -/

open Builder

/-- A node is read back wherever it fits. A text is so when no text stands before it and it ends where it
ended. -/
def Rereads (node : Node) : Prop :=
  ∀ ⦃modes : List Mode⦄ ⦃p : Site⦄ ⦃frames : List Frame⦄ ⦃children : List Branch⦄ ⦃b b₀ : Builder⦄,
    ReadsAs modes p frames children b b₀ → IsOpenIn modes p → node.fits p = true →
    (startsWithText [node] = true → Branch.endsInText children = false) →
    (b.skipLineFeed = true → startsWithLineFeed [node] = false) →
    ∃ modes' branch b' b₁, Turned modes p modes' (p.behind node) ∧
      ReadsAs modes' (p.behind node) frames (children ++ [branch]) b' b₁ ∧ b'.skipLineFeed = false ∧
      branch.toNode = node ∧ branch.isText = startsWithText [node] ∧
      ∀ rest, (startsWithText [node] = true → EndsText rest) → b.read (node.markup ++ rest) = b'.read rest

theorem rereads_text (content : String) : Rereads (.text content) := by
  intro modes p frames children b b₀ h _ hfits hends hline
  rw [Node.fits, Bool.and_eq_true, decide_eq_true_eq] at hfits
  obtain ⟨⟨hne, hclean⟩, hfits⟩ := hfits
  obtain ⟨b', b₁, hreads, hskips, hread⟩ := h.exists_text (hends rfl) hne hfits hline
  refine ⟨modes, .text content, b', b₁, turned_self modes p, hreads, hskips, rfl, rfl, fun rest hrest => ?_⟩
  have hchars : content.toList ≠ [] := fun hnil => hne (String.toList_eq_nil_iff.mp hnil)
  obtain ⟨c, cs, hcons⟩ := List.exists_cons_of_ne_nil (escapeText_ne_nil hchars)
  rw [Node.markup, hcons, List.cons_append]
  refine hread c cs (fun d hd => ?_) ?_ rest (hrest rfl)
  · exact Lexer.of_mem_escapeText hclean.2 (hcons ▸ hd)
  · rw [← hcons, Reference.resolve_escapeText]

theorem rereads_comment (content : String) : Rereads (.comment content) := by
  intro modes p frames children b b₀ h _ hfits _ _
  rw [Node.fits, Bool.and_eq_true, decide_eq_true_eq] at hfits
  obtain ⟨hclean, hcomment⟩ := hfits
  obtain ⟨hstands, hfoster, hline⟩ := h.stands.addComment h.fosterParenting content
  have hcalm := hline.trans h.skipLineFeed
  refine ⟨modes, .comment content, b₀.addComment content, _, turned_self modes p, hstands.readsAs hfoster, hcalm,
    rfl, rfl, fun rest _ => ?_⟩
  rw [read_commentText h.content hclean hcomment, h.handle_eq rfl (h.stands.settlesIn_comment content) (by decide)]

/-- Nodes that fit one after the other are read back one after the other. -/
theorem exists_nodes {nodes : List Node} (hnodes : ∀ node ∈ nodes, Rereads node) {modes : List Mode} {p : Site}
    {frames : List Frame} {children : List Branch} {b b₀ : Builder}
    (h : ReadsAs modes p frames children b b₀) (hopen : IsOpenIn modes p) (hfits : nodesFit p nodes = true)
    (hends : startsWithText nodes = true → Branch.endsInText children = false)
    (hline : b.skipLineFeed = true → startsWithLineFeed nodes = false) :
    ∃ modes' p' branches b' b₁, Turned modes p modes' p' ∧
      ReadsAs modes' p' frames (children ++ branches) b' b₁ ∧ Branch.toNodes branches = nodes ∧
      ∀ rest, EndsText rest → b.read (markupOf nodes ++ rest) = b'.read rest := by
  induction nodes generalizing modes p children b b₀ with
  | nil => exact ⟨modes, p, [], b, b₀, turned_self modes p, by rwa [List.append_nil], rfl, fun _ _ => rfl⟩
  | cons node others ih =>
      rw [List.forall_mem_cons] at hnodes
      rw [nodesFit, Bool.and_eq_true, Bool.and_eq_true, Bool.not_eq_true', Bool.and_eq_false_iff] at hfits
      obtain ⟨⟨hnode, hapart⟩, hothers⟩ := hfits
      rw [startsWithText_cons] at hends
      rw [startsWithLineFeed_cons] at hline
      obtain ⟨modes', branch, b', b₁, hturned, hreads, hskips, htoNode, htext, hread⟩ :=
        hnodes.1 h hopen hnode hends hline
      have hendsBranch : startsWithText others = true → Branch.endsInText (children ++ [branch]) = false := by
        intro hothersText
        rw [Branch.endsInText_append, htext]
        exact hapart.resolve_right fun hnone => by rw [hnone] at hothersText; cases hothersText
      obtain ⟨modes'', p', branches, b'', b₂, hturned', hreads', htoNodes, hread'⟩ :=
        ih hnodes.2 hreads (hturned.isOpenIn hopen) hothers hendsBranch fun hskip => by
          rw [hskips] at hskip
          cases hskip
      rw [List.append_assoc] at hreads'
      refine ⟨modes'', p', branch :: branches, b'', b₂, hturned.trans hturned', hreads', ?_, fun rest hrest => ?_⟩
      · rw [Branch.toNodes, htoNode, htoNodes]
      · have hrestEnds : startsWithText [node] = true → EndsText (markupOf others ++ rest) := by
          intro hnodeText
          cases others with
          | nil => exact hrest
          | cons next more =>
              rw [nodesFit, Bool.and_eq_true, Bool.and_eq_true] at hothers
              have hnext := hapart.resolve_left fun hnone => by rw [hnone] at hnodeText; cases hnodeText
              rw [startsWithText_cons] at hnext
              rw [markupOf, List.append_assoc]
              exact Node.endsText_of_fits hothers.1.1 hnext _
        rw [markupOf, List.append_assoc, hread _ hrestEnds, hread' rest hrest]

end Construction

end MarkupModule.Markup
