import MarkupModule.Proofs.Rereading.Elements

/-! The document elements around the nodes of a document: the outermost one and in it the head, then the body
or a frameset. The rules open them at their start tags, or supply them in front of the first content that
calls for them, and close them at their end tags or at the end of the input. -/

namespace MarkupModule.Markup.Construction

open MarkupModule.Text
open Lexer (EndsText)

/-- The elements directly in the outermost one. -/
inductive Region where
  | head
  | body
  | frameset
  deriving DecidableEq, Repr

namespace Region

def name : Region → String
  | head => "head"
  | body => "body"
  | frameset => "frameset"

/-- The mode in which the nodes of a region are read. -/
def mode : Region → Mode
  | head => .inHead
  | body => .inBody
  | frameset => .inFrameset

/-- The mode in which the start tag of a region is read. -/
def modeBefore : Region → Mode
  | head => .beforeHead
  | body => .afterHead
  | frameset => .afterHead

def element (region : Region) : ElementName :=
  ⟨.html, region.name⟩

/-- Where the nodes of a region stand. -/
def site (region : Region) : Site :=
  ⟨region.mode, [region.element, ⟨.html, "html"⟩]⟩

/-- Whether a region with these attributes and nodes is read again. -/
def fits (region : Region) (attributes : List Attribute) (nodes : List Node) : Bool :=
  isWritable region.element attributes && isPlainElement region.element attributes &&
    nodesFit region.site nodes

end Region

namespace Builder

/-- A state in which document elements are open and nothing is pending. -/
structure Bare (mode : Mode) (frames : List Frame) (children : List Branch) (b : Builder) : Prop where
  tree : Tree frames children b
  mode : b.mode = mode
  content : b.content = .markup
  formatting : b.formatting = []
  form : b.form = none
  templateModes : b.templateModes = []
  olderRules : b.olderRules = true
  fosterParenting : b.fosterParenting = false
  skipLineFeed : b.skipLineFeed = false

namespace Bare

variable {mode : Mode} {f r : Frame} {around frames : List Frame} {children : List Branch} {b b' : Builder}
  {region : Region} {tag : Tag} {event : Event}

/-- What changes in a state besides the tree and the mode does not matter. -/
theorem alike (h : Bare mode frames children b) {mode' : Mode} {frames' : List Frame} {children' : List Branch}
    (htree : Tree frames' children' b') (hmode : b'.mode = mode') (hcontent : b'.content = b.content)
    (hformatting : b'.formatting = b.formatting) (hform : b'.form = b.form)
    (hmodes : b'.templateModes = b.templateModes) (holder : b'.olderRules = b.olderRules)
    (hfoster : b'.fosterParenting = b.fosterParenting) (hline : b'.skipLineFeed = b.skipLineFeed) :
    Bare mode' frames' children' b' where
  tree := htree
  mode := hmode
  content := hcontent.trans h.content
  formatting := hformatting.trans h.formatting
  form := hform.trans h.form
  templateModes := hmodes.trans h.templateModes
  olderRules := holder.trans h.olderRules
  fosterParenting := hfoster.trans h.fosterParenting
  skipLineFeed := hline.trans h.skipLineFeed

theorem enter (h : Bare mode frames children b) (mode' : Mode) : Bare mode' frames children (b.enter mode') :=
  h.alike ⟨h.tree.branches, h.tree.opened, h.tree.growing, h.tree.below⟩ rfl rfl rfl rfl rfl rfl rfl rfl

theorem withHead (h : Bare mode frames children b) : Bare .inHead frames children b.withHead :=
  h.alike ⟨h.tree.branches, h.tree.opened, h.tree.growing, h.tree.below⟩ rfl rfl rfl rfl rfl rfl rfl rfl

theorem forbidFrameset (h : Bare mode frames children b) : Bare mode frames children b.forbidFrameset :=
  h.alike ⟨h.tree.branches, h.tree.opened, h.tree.growing, h.tree.below⟩ h.mode rfl rfl rfl rfl rfl rfl rfl

theorem pop (h : Bare mode (f :: around) children b) : Bare mode around (f.filled children) b.pop :=
  h.alike (h.tree.pop rfl (by rw [Builder.pop, h.tree.opened]; rfl) rfl) h.mode rfl rfl rfl rfl rfl rfl rfl

theorem insertTag (h : Bare mode (f :: around) children b) (tag : Tag) :
    Bare mode (b.frameFor children tag :: f :: around) [] (b.insertTag tag) := by
  have hfoster : (b.fosterParenting && htmlIn ["table", "tbody", "tfoot", "thead", "tr"] f.name) = false := by
    rw [h.fosterParenting, Bool.false_and]
  rw [Builder.insertTag, h.tree.insertOpen_eq hfoster]
  exact h.alike (h.tree.push _ _ rfl rfl rfl) h.mode rfl rfl rfl rfl rfl rfl rfl

theorem insert (h : Bare mode (f :: around) children b) {new : Branch} (hnew : ∀ n, Branch.Below n [new])
    (htext : new.isText = false ∨ Branch.endsInText children = false) :
    Bare mode (f :: around) (children ++ [new]) (b.insert new) := by
  have hfoster : (b.fosterParenting && htmlIn ["table", "tbody", "tfoot", "thead", "tr"] f.name) = false := by
    rw [h.fosterParenting, Bool.false_and]
  have hbelow := Branch.below_append (hnew _) h.tree.below
  rw [h.tree.insert_eq hfoster, Branch.append_eq htext]
  rw [Branch.append_eq htext] at hbelow
  exact h.alike ⟨rfl, h.tree.opened, h.tree.growing, hbelow⟩ h.mode rfl rfl rfl rfl rfl rfl rfl

theorem readsForeign (h : Bare mode (f :: around) children b) (hspace : f.name.space = .html) (event : Event) :
    b.readsForeign event = false := by
  rw [Builder.readsForeign, h.tree.opened]
  change ((f.name.space != .html) && _ && _ && _ && _) = false
  rw [hspace]
  rfl

theorem settlesIn (h : Bare mode (f :: around) children b) (hspace : f.name.space = .html)
    (hrule : b.byMode event = .done b') : SettlesIn 1 b event b' :=
  settlesIn_of_done (h.readsForeign hspace event) hrule

theorem leads (h : Bare mode (f :: around) children b) (hspace : f.name.space = .html)
    (hrule : b.byMode event = .again b' event) : Leads 1 event b b' :=
  leads_of_again (h.readsForeign hspace event) hrule

/-! ### In a region -/

theorem surrounds (hf : f.name = region.element) (hr : r.name = ⟨.html, "html"⟩) :
    Surrounds [] region.site [f, r] where
  names := by
    rw [List.map_cons, List.map_cons, hf, hr]
    rfl
  open_ := List.cons_ne_nil f [r]
  known := by cases region <;> decide
  resets := by
    intro b _
    rw [List.map_cons, List.map_cons, Frame.opened, hf]
    cases region <;> rfl

theorem stands (h : Bare region.mode [f, r] children b) (hf : f.name = region.element)
    (hr : r.name = ⟨.html, "html"⟩) : Stands [] region.site [f, r] children b where
  tree := h.tree
  surrounds := surrounds hf hr
  mode := by
    rw [h.mode]
    cases region <;> rfl
  content := h.content
  formatting := by
    rw [h.formatting]
    exact .plain (by rw [hf]; cases region <;> rfl) (.plain (by rw [hr]; rfl) .nil)
  form := by
    rw [h.form, formOf_cons_of_ne (by rw [hf]; cases region <;> rfl), formOf_cons_of_ne (by rw [hr]; rfl)]
    rfl
  templateModes := h.templateModes
  olderRules := h.olderRules

end Bare

/-- A state that stands in a region has nothing pending. -/
theorem Stands.bare {region : Region} {f r : Frame} {children : List Branch} {b : Builder}
    (h : Stands [] region.site [f, r] children b) (hf : f.name = region.element)
    (hr : r.name = ⟨.html, "html"⟩) (hfoster : b.fosterParenting = false) (hline : b.skipLineFeed = false) :
    Bare region.mode [f, r] children b where
  tree := h.tree
  mode := h.mode_eq (by cases region <;> decide)
  content := h.content
  formatting := by
    have hinside := h.formatting.of_plain (by rw [hf]; cases region <;> rfl) (by rw [hf]; cases region <;> rfl)
    have haround := hinside.of_plain (by rw [hr]; rfl) (by rw [hr]; rfl)
    generalize b.formatting = entries at haround ⊢
    cases haround with
    | nil => rfl
  form := by
    rw [h.form, formOf_cons_of_ne (by rw [hf]; cases region <;> rfl), formOf_cons_of_ne (by rw [hr]; rfl)]
    rfl
  templateModes := h.templateModes
  olderRules := h.olderRules
  fosterParenting := hfoster
  skipLineFeed := hline

/-! ### Opening -/

/-- The frame of the outermost element. -/
def rootFrame (attributes : List Attribute) : Frame :=
  ⟨[], 0, ⟨.html, "html"⟩, attributes⟩

theorem bare_beforeHtml :
    Bare .beforeHtml [] [] { (default : Builder) with olderRules := true, mode := .beforeHtml } where
  tree := ⟨rfl, rfl, .nil, Branch.below_nil _⟩
  mode := rfl
  content := rfl
  formatting := rfl
  form := rfl
  templateModes := rfl
  olderRules := rfl
  fosterParenting := rfl
  skipLineFeed := rfl

theorem bare_insertRoot (attributes : List (String × String)) :
    Bare .beforeHead [rootFrame (attributes.map Attribute.ofPair)] []
      (({ (default : Builder) with olderRules := true, mode := .beforeHtml }.insertRoot attributes).enter
        .beforeHead) :=
  bare_beforeHtml.alike
    (bare_beforeHtml.tree.push ⟨.html, "html"⟩ (attributes.map Attribute.ofPair) rfl rfl rfl) rfl rfl rfl rfl
    rfl rfl rfl rfl

theorem leads_beforeHtml (tag : Tag) : Leads 1 (.startTag tag) default
    { (default : Builder) with olderRules := true, mode := .beforeHtml } :=
  leads_of_again rfl rfl

/-- The outermost element is opened at its start tag. -/
theorem exists_root_of_tag {tag : Tag} (htag : tag.name = "html") :
    ∃ b, Bare .beforeHead [rootFrame (tag.attributes.map Attribute.ofPair)] [] b ∧
      SettlesIn 2 default (.startTag tag) b := by
  refine ⟨_, bare_insertRoot tag.attributes, leads_beforeHtml tag 1 _ (settlesIn_of_done rfl ?_)⟩
  change (if (tag.name == "html") = true then _ else _) = _
  rw [htag]
  rfl

/-- The outermost element is supplied in front of another start tag. -/
theorem exists_root_of_other {tag : Tag} (htag : tag.name ≠ "html") :
    ∃ b, Bare .beforeHead [rootFrame []] [] b ∧ Leads 2 (.startTag tag) default b := by
  refine ⟨_, bare_insertRoot [], (leads_beforeHtml tag).trans (leads_of_again rfl ?_)⟩
  change (if (tag.name == "html") = true then _ else _) = _
  rw [beq_eq_false_iff_ne.mpr htag]
  rfl

namespace Bare

variable {mode : Mode} {f r : Frame} {around frames : List Frame} {children : List Branch} {b b' : Builder}
  {region : Region} {tag : Tag} {event : Event}

/-- A region is opened at its start tag. -/
theorem exists_region_of_tag (h : Bare region.modeBefore [r] children b) (hr : r.name = ⟨.html, "html"⟩)
    (htag : tag.name = region.name) :
    ∃ b', Bare region.mode [b.frameFor children tag, r] [] b' ∧ SettlesIn 1 b (.startTag tag) b' := by
  have hspace : r.name.space = .html := by rw [hr]
  have hopened := h.insertTag tag
  cases region with
  | head =>
      refine ⟨_, hopened.withHead, h.settlesIn hspace ?_⟩
      rw [byMode, h.mode]
      simp [Region.modeBefore, beforeHead, htag, Region.name]
  | body =>
      refine ⟨_, hopened.forbidFrameset.enter .inBody, h.settlesIn hspace ?_⟩
      rw [byMode, h.mode]
      simp [Region.modeBefore, afterHead, htag, Region.name]
  | frameset =>
      refine ⟨_, hopened.enter .inFrameset, h.settlesIn hspace ?_⟩
      rw [byMode, h.mode]
      simp [Region.modeBefore, afterHead, htag, Region.name]

/-- The head is supplied in front of what is none. -/
theorem exists_head (h : Bare .beforeHead [r] children b) (hr : r.name = ⟨.html, "html"⟩)
    (hrule : b.beforeHead event = .again (b.insertImplied "head").withHead event) :
    ∃ b', Bare .inHead [b.frameFor children ⟨"head", [], false⟩, r] [] b' ∧ Leads 1 event b b' := by
  refine ⟨_, (h.insertTag ⟨"head", [], false⟩).withHead, h.leads (by rw [hr]) ?_⟩
  rw [byMode, h.mode]
  exact hrule

/-- The head is closed in front of what it does not hold. -/
theorem exists_afterHead (h : Bare .inHead (f :: around) children b) (hf : f.name = Region.head.element)
    (hrule : b.inHead event = .again (b.pop.enter .afterHead) event) :
    ∃ b', Bare .afterHead around (f.filled children) b' ∧ Leads 1 event b b' := by
  refine ⟨_, h.pop.enter .afterHead, h.leads (by rw [hf]; rfl) ?_⟩
  rw [byMode, h.mode]
  exact hrule

/-- The body is supplied in front of what is neither a body nor a frameset. -/
theorem exists_body (h : Bare .afterHead [r] children b) (hr : r.name = ⟨.html, "html"⟩)
    (hrule : b.afterHead event = .again ((b.insertImplied "body").enter .inBody) event) :
    ∃ b', Bare .inBody [b.frameFor children ⟨"body", [], false⟩, r] [] b' ∧ Leads 1 event b b' := by
  refine ⟨_, (h.insertTag ⟨"body", [], false⟩).enter .inBody, h.leads (by rw [hr]) ?_⟩
  rw [byMode, h.mode]
  exact hrule

/-! ### Start tags that are passed on -/

theorem beforeHead_startTag (hhtml : tag.name ≠ "html") (hhead : tag.name ≠ "head") :
    b.beforeHead (.startTag tag) = .again (b.insertImplied "head").withHead (.startTag tag) := by
  rw [beforeHead, beq_eq_false_iff_ne.mpr hhtml, beq_eq_false_iff_ne.mpr hhead, if_neg Bool.false_ne_true,
    if_neg Bool.false_ne_true]

theorem inHead_startTag (hhtml : tag.name ≠ "html") (hhead : tag.name ≠ "head")
    (hmetadata : (metadataNames.contains tag.name || tag.name == "noscript") = false) :
    b.inHead (.startTag tag) = .again (b.pop.enter .afterHead) (.startTag tag) := by
  rw [inHead, beq_eq_false_iff_ne.mpr hhtml, hmetadata, beq_eq_false_iff_ne.mpr hhead, if_neg Bool.false_ne_true,
    if_neg Bool.false_ne_true, if_neg Bool.false_ne_true]

theorem afterHead_startTag (hhtml : tag.name ≠ "html") (hhead : tag.name ≠ "head")
    (hmetadata : (metadataNames.contains tag.name || tag.name == "noscript") = false)
    (hbody : tag.name ≠ "body") (hframeset : tag.name ≠ "frameset") :
    b.afterHead (.startTag tag) = .again ((b.insertImplied "body").enter .inBody) (.startTag tag) := by
  rw [Bool.or_eq_false_iff] at hmetadata
  rw [afterHead, beq_eq_false_iff_ne.mpr hhtml, hmetadata.1, beq_eq_false_iff_ne.mpr hhead,
    beq_eq_false_iff_ne.mpr hbody, beq_eq_false_iff_ne.mpr hframeset, if_neg Bool.false_ne_true,
    if_neg Bool.false_ne_true, if_neg Bool.false_ne_true, if_neg Bool.false_ne_true, if_neg Bool.false_ne_true]

/-! ### Closing -/

/-- A state behind the end tag of a region. The body stays open. -/
def Behind (region : Region) (f r : Frame) (inside : List Branch) (b : Builder) : Prop :=
  match region with
  | .head => Bare .afterHead [r] (f.filled inside) b
  | .body => Bare .afterBody [f, r] inside b
  | .frameset => Bare .afterFrameset [r] (f.filled inside) b

/-- A region is closed at its end tag. -/
theorem exists_behind (h : Bare region.mode [f, r] children b) (hf : f.name = region.element)
    (hr : r.name = ⟨.html, "html"⟩) :
    ∃ b', Behind region f r children b' ∧ SettlesIn 1 b (.endTag region.name) b' := by
  have hspace : f.name.space = .html := by rw [hf]; rfl
  cases region with
  | head =>
      refine ⟨_, h.pop.enter .afterHead, h.settlesIn hspace ?_⟩
      rw [byMode, h.mode]
      rfl
  | body =>
      refine ⟨_, h.enter .afterBody, h.settlesIn hspace ?_⟩
      have hscope : b.inScope endsScope "body" = true := by
        rw [inScope, h.tree.opened, List.map_cons, reaches, Frame.opened, hf]
        rfl
      rw [byMode, h.mode]
      change (if b.inScope endsScope "body" = true then Outcome.done (b.enter .afterBody) else _) = _
      rw [hscope, if_pos rfl]
  | frameset =>
      refine ⟨_, h.pop.enter .afterFrameset, h.settlesIn hspace ?_⟩
      have hinner : b.pop.currentIs (isHtml "frameset") = false := by
        rw [currentIs, h.pop.tree.opened, List.map_cons, Frame.opened, hr]
        rfl
      have hlength : (b.openElements.length != 1) = true := by
        rw [h.tree.opened]
        rfl
      rw [byMode, h.mode]
      change (if ("frameset" == "frameset" && b.openElements.length != 1) = true then
        Outcome.done (if b.pop.currentIs (isHtml "frameset") = true then b.pop else b.pop.enter .afterFrameset)
        else _) = _
      rw [hlength, hinner]
      rfl

/-- At the end of the input the body is left open. -/
theorem settlesIn_end (h : Bare .inBody (f :: around) children b) (hf : f.name = Region.body.element) :
    SettlesIn 1 b .endOfInput b := by
  refine h.settlesIn (by rw [hf]; rfl) ?_
  rw [byMode, h.mode]
  change (if b.templateModes.isEmpty = true then Outcome.done b else _) = _
  rw [h.templateModes]
  rfl

/-- Behind the head, the end of the input supplies a body. -/
theorem exists_end_afterHead (h : Bare .afterHead [r] children b) (hr : r.name = ⟨.html, "html"⟩) :
    ∃ f b', f.before = children ∧ f.name = Region.body.element ∧ f.attributes = [] ∧
      Bare .inBody [f, r] [] b' ∧ SettlesIn 2 b .endOfInput b' := by
  have hrule : b.afterHead .endOfInput = .again ((b.insertImplied "body").enter .inBody) .endOfInput := rfl
  obtain ⟨b', hbare, hleads⟩ := h.exists_body hr hrule
  exact ⟨_, b', rfl, rfl, rfl, hbare, hleads 1 b' (hbare.settlesIn_end rfl)⟩

/-- Where the end of the input changes nothing, the tree is complete. -/
theorem branches_handle (h : Bare mode (f :: around) children b) (hspace : f.name.space = .html)
    (hrule : b.byMode .endOfInput = .done b) :
    (b.handle .endOfInput).branches = nest (f :: around) children := by
  rw [handle_of_settlesIn (h.settlesIn hspace hrule) (by decide), h.tree.branches]

end Bare

/-! ### Reading -/

variable {region : Region} {attributes : List Attribute} {nodes : List Node} {f r : Frame}
  {children : List Branch} {b b₀ : Builder}

theorem markup_region (region : Region) (attributes : List Attribute) (children : List Node) :
    (Node.element region.element attributes children).markup =
      '<' :: ((Tag.ofElement region.element attributes).text ++
        (markupOf children ++ endTagText region.name)) := by
  cases region <;> rw [Node.markup] <;> rfl

/-- The nodes of a region are read back inside of it. -/
theorem Bare.exists_nodes (h : Bare region.mode [f, r] [] b) (hf : f.name = region.element)
    (hr : r.name = ⟨.html, "html"⟩) (hfits : nodesFit region.site nodes = true) :
    ∃ inside b' b₁, Bare region.mode [f, r] inside b₁ ∧ ReadsAs [] region.site [f, r] inside b' b₁ ∧
      Branch.toNodes inside = nodes ∧
      ∀ rest, EndsText rest → b.read (markupOf nodes ++ rest) = b'.read rest := by
  have hmode : region.site.mode ≠ .inTemplate := by cases region <;> decide
  have hnoFeed : b.skipLineFeed = true → startsWithLineFeed nodes = false := by
    intro hskip
    rw [h.skipLineFeed] at hskip
    cases hskip
  obtain ⟨modes', p', inside, b', b₁, hturned, hreads, htoNodes, hread⟩ :=
    Construction.exists_nodes (fun node _ => rereads node) ((h.stands hf hr).readsAs h.fosterParenting)
      (fun hp => absurd hp hmode) hfits (fun _ => rfl) hnoFeed
  obtain ⟨rfl, rfl⟩ := hturned.eq_of_ne hmode
  rw [List.nil_append] at hreads
  exact ⟨inside, b', b₁, hreads.stands.bare hf hr hreads.fosterParenting hreads.skipLineFeed, hreads, htoNodes,
    hread⟩

/-- From behind its start tag a region is read to its end tag. -/
theorem Bare.exists_behind_nodes (h : Bare region.mode [f, r] [] b) (hf : f.name = region.element)
    (hr : r.name = ⟨.html, "html"⟩) (hfits : nodesFit region.site nodes = true) :
    ∃ inside b', Bare.Behind region f r inside b' ∧ Branch.toNodes inside = nodes ∧
      ∀ rest, b.read (markupOf nodes ++ (endTagText region.name ++ rest)) = b'.read rest := by
  obtain ⟨inside, b', b₁, hbare, hreads, htoNodes, hread⟩ := h.exists_nodes hf hr hfits
  obtain ⟨b₂, hbehind, hsettles⟩ := hbare.exists_behind hf hr
  have hname : isTagName (lower region.name.toList) = true := by cases region <;> decide
  have hlower : lowerName region.name = region.name := by cases region <;> decide
  rw [← hlower] at hsettles
  refine ⟨inside, b₂, hbehind, htoNodes, fun rest => ?_⟩
  rw [hread _ (Lexer.endsText_endTag hname rest), hreads.read_endTag hname hsettles (by decide)]

/-- A region is read back where its start tag is passed on to a state in front of it. -/
theorem exists_region {n : Nat} (hleads : Leads n (.startTag (Tag.reread region.element attributes)) b₀ b)
    (hn : n ≤ 15) (hcontent : b₀.content = .markup) (hline : b₀.skipLineFeed = false)
    (h : Bare region.modeBefore [r] children b) (hr : r.name = ⟨.html, "html"⟩)
    (hfits : region.fits attributes nodes = true) :
    ∃ f inside b', f.before = children ∧ f.name = region.element ∧ f.attributes = attributes ∧
      Bare.Behind region f r inside b' ∧ Branch.toNodes inside = nodes ∧
      ∀ rest, b₀.read ((Node.element region.element attributes nodes).markup ++ rest) = b'.read rest := by
  rw [Region.fits, Bool.and_eq_true, Bool.and_eq_true] at hfits
  obtain ⟨⟨hwritable, hplain⟩, hnodes⟩ := hfits
  obtain ⟨htagname, hattributes⟩ := of_isPlainElement hplain
  obtain ⟨b₁, hopened, hsettles⟩ := h.exists_region_of_tag hr htagname
  obtain ⟨inside, b', hbehind, htoNodes, hread⟩ :=
    hopened.exists_behind_nodes (congrArg (ElementName.mk .html) htagname) hr hnodes
  refine ⟨_, inside, b', rfl, congrArg (ElementName.mk .html) htagname, hattributes, hbehind, htoNodes,
    fun rest => ?_⟩
  have hstart : b₀.handle (.startTag (Tag.reread region.element attributes)) = b₁ :=
    handle_of_settlesIn (hleads 1 b₁ hsettles) (Nat.add_comm 1 n ▸ Nat.succ_le_succ hn)
  rw [markup_region, List.cons_append, List.append_assoc, List.append_assoc,
    read_startTagText hcontent (isReadable_reread hwritable), calm_eq hline]
  exact (congrArg (read · _) hstart).trans (hread rest)

theorem filled_eq (hf : f.name = region.element) (inside : List Branch) :
    f.filled inside = f.before ++ [.element f.serial f.name f.attributes inside] := by
  have hname : isHtml "template" f.name = false := by
    rw [hf]
    cases region <;> rfl
  rw [Frame.filled, held_of_ne hname]
  rfl

theorem endsInText_filled (hf : f.name = region.element) (inside : List Branch) :
    Branch.endsInText (f.filled inside) = false := by
  rw [filled_eq hf, Branch.endsInText_append]
  rfl

/-- A region that is closed stands behind what was read before it. -/
theorem toNodes_filled (hf : f.name = region.element) {inside : List Branch}
    (htoNodes : Branch.toNodes inside = nodes) :
    Branch.toNodes (f.filled inside) =
      Branch.toNodes f.before ++ [.element region.element f.attributes nodes] := by
  rw [filled_eq hf, Branch.toNodes_append, Branch.toNodes, Branch.toNode, htoNodes, hf]
  rfl

/-- The document with its children known. -/
theorem toNodes_nest_rootFrame (attributes : List Attribute) (children : List Branch) :
    Branch.toNodes (nest [rootFrame attributes] children) =
      [.element ⟨.html, "html"⟩ attributes (Branch.toNodes children)] := by
  change Branch.toNodes [.element 0 ⟨.html, "html"⟩ attributes children] = _
  rw [Branch.toNodes, Branch.toNode]
  rfl

theorem toNodes_nest_region (hf : f.name = region.element) (rootAttributes : List Attribute)
    {inside : List Branch} (htoNodes : Branch.toNodes inside = nodes) :
    Branch.toNodes (nest [f, rootFrame rootAttributes] inside) =
      [.element ⟨.html, "html"⟩ rootAttributes
        (Branch.toNodes f.before ++ [.element region.element f.attributes nodes])] := by
  change Branch.toNodes (nest [rootFrame rootAttributes] (f.filled inside)) = _
  rw [toNodes_nest_rootFrame, toNodes_filled hf htoNodes]

theorem isWrittenClean_region (h : region.fits attributes nodes = true) :
    IsWrittenClean (.element region.element attributes nodes) := by
  rw [Region.fits, Bool.and_eq_true, Bool.and_eq_true] at h
  exact isWrittenClean_element h.1.1 (isWrittenClean_of_nodesFit h.2)

end Builder

end MarkupModule.Markup.Construction
