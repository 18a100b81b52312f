import MarkupModule.Proofs.Rereading.Siblings

/-! Elements are read back where they fit: the start tag opens the element, what it holds is read back inside
of it, and the end tag closes it. So every node is read back, by induction over the tree. -/

namespace MarkupModule.Markup.Construction

open MarkupModule.Text
open Lexer (EndsText)
open Builder

variable {modes : List Mode} {p : Site} {frames : List Frame} {b : Builder} {f : Frame} {tag : Tag}
  {name : ElementName} {attributes : List Attribute} {children : List Node} {before : List Branch}

/-- What is written of an element between its tags. -/
def heldMarkup (name : ElementName) (children : List Node) : List Char :=
  if rawTextNames.contains name.name then textOf children else markupOf children

/-- From behind its start tag an element is read to its end, and the state stands behind it. -/
def ReadsOn (modes : List Mode) (p : Site) (frames : List Frame) (before : List Branch) (name : ElementName)
    (attributes : List Attribute) (children : List Node) (b : Builder) : Prop :=
  ∃ branch b', Stands modes p frames (before ++ [branch]) b' ∧ b'.fosterParenting = false ∧
    b'.skipLineFeed = false ∧ branch.toNode = .element name attributes children ∧ branch.isText = false ∧
    ∀ rest, b.read ((if voidNames.contains name.name then []
      else heldMarkup name children ++ endTagText name.name) ++ rest) = b'.read rest

/-- An element with an end tag. -/
theorem readsOn_of_read {inside : List Branch} {b' : Builder} (hvoid : voidNames.contains f.name.name = false)
    (hinside : Branch.toNodes (held f.name inside) = children)
    (hstands : Stands modes p frames (f.filled inside) b')
    (hfoster : b'.fosterParenting = false) (hline : b'.skipLineFeed = false)
    (hread : ∀ rest, b.read (heldMarkup f.name children ++ (endTagText f.name.name ++ rest)) = b'.read rest) :
    ReadsOn modes p frames f.before f.name f.attributes children b := by
  refine ⟨.element f.serial f.name f.attributes (held f.name inside), b', hstands, hfoster, hline, ?_, rfl, ?_⟩
  · rw [Branch.toNode, hinside]
  · intro rest
    rw [hvoid, if_neg Bool.false_ne_true, List.append_assoc]
    exact hread rest

/-- An element that is left behind with nothing in it. -/
theorem readsOn_of_closed {b' : Builder} (hstands : Stands modes p frames (f.closed []) b')
    (hfoster : b'.fosterParenting = false) (hline : b'.skipLineFeed = false)
    (hread : ∀ rest, b.read ((if voidNames.contains f.name.name then []
      else heldMarkup f.name [] ++ endTagText f.name.name) ++ rest) = b'.read rest) :
    ReadsOn modes p frames f.before f.name f.attributes [] b :=
  ⟨.element f.serial f.name f.attributes [], b', hstands, hfoster, hline,
    by rw [Branch.toNode, Branch.toNodes], rfl, hread⟩

/-! ### HTML elements -/

theorem ne_inTemplate_of_held {name : String} {mode : Mode} (h : Held p name mode) : mode ≠ .inTemplate := by
  cases h with
  | body hmode =>
      intro hp
      rw [hp] at hmode
      revert hmode
      decide
  | table | select | option | caption | columns | rows | row | cell | frameset => decide

theorem readsForeign_of_html (h : Stands modes p (f :: frames) before b) (hspace : f.name.space = .html)
    (name : String) : b.readsForeign (.endTag name) = false := by
  rw [h.readsForeign_endTag, hspace]
  rfl

/-- An element that holds others. -/
theorem readsOn_holds {mode : Mode} {name : String} (h : Stands modes (p.inside mode f.name) (f :: frames) [] b)
    (hsurrounds : Surrounds modes p frames) (hfoster : b.fosterParenting = false) (hheld : Held p name mode)
    (hf : f.name = ⟨.html, name⟩) (hlower : lowerName name = name) (hname : isTagName (lower name.toList) = true)
    (hvoid : voidNames.contains name = false) (hraw : rawTextNames.contains name = false)
    (hchildren : ∀ child ∈ children, Rereads child)
    (hfits : nodesFit (p.inside mode f.name) children = true)
    (hline : b.skipLineFeed = true → startsWithLineFeed children = false) :
    ReadsOn modes p frames f.before f.name f.attributes children b := by
  have hmode := ne_inTemplate_of_held hheld
  obtain ⟨modes', p', inside, b', b₁, hturned, hreads, htoNodes, hread⟩ :=
    exists_nodes hchildren (h.readsAs hfoster) (fun hp => absurd hp hmode) hfits (fun _ => rfl) hline
  obtain ⟨rfl, rfl⟩ := hturned.eq_of_ne hmode
  rw [List.nil_append] at hreads
  have htemplate : isHtml "template" f.name = false := by
    rw [hf]
    cases hheld with
    | body _ hname =>
        refine beq_eq_false_iff_ne.mpr ?_
        rintro rfl
        exact hname (by decide)
    | table _ hname | select _ hname | caption _ hname | columns _ hname | row _ hname | frameset _ hname =>
        subst hname
        rfl
    | option _ hname | rows _ hname | cell _ hname =>
        simp only [List.mem_cons, List.not_mem_nil, or_false] at hname
        rcases hname with rfl | rfl | rfl <;> rfl
  have hclosed := hreads.stands.closesBy_byMode hsurrounds hreads.fosterParenting hheld rfl hf
  have hfname : f.name.name = name := by rw [hf]
  obtain ⟨b₂, hstands, hfoster', hline', hreadEnd⟩ := hreads.exists_closed (by rw [hfname]; exact hname) hclosed
    fun b' hrule => by
      rw [hfname, hlower]
      exact settlesIn_of_done (readsForeign_of_html hreads.stands (by rw [hf]) name) hrule
  refine readsOn_of_read (hfname ▸ hvoid) (by rw [held_of_ne htemplate, htoNodes]) hstands hfoster' hline' ?_
  intro rest
  rw [heldMarkup, hfname, hraw, if_neg Bool.false_ne_true]
  rw [hfname] at hreadEnd
  rw [hread _ (Lexer.endsText_endTag hname rest), hreadEnd]

/-- A template with its contents. -/
theorem readsOn_template (h : Stands (.inTemplate :: modes) (p.inside .inTemplate f.name) (f :: frames) [] b)
    (hsurrounds : Surrounds modes p frames) (hfoster : b.fosterParenting = false)
    (hf : f.name = ⟨.html, "template"⟩) (hchildren : ∀ child ∈ children, Rereads child)
    (hfits : nodesFit (p.inside .inTemplate f.name) children = true) (hline : b.skipLineFeed = false) :
    ReadsOn modes p frames f.before f.name f.attributes [.contents children] b := by
  have hfname : f.name.name = "template" := by rw [hf]
  have hopen : IsOpenIn (.inTemplate :: modes) (p.inside .inTemplate f.name) :=
    fun _ => ⟨by change isHtml "template" f.name = true; rw [hf]; rfl, rfl⟩
  obtain ⟨modes', p', inside, b', b₁, hturned, hreads, htoNodes, hread⟩ :=
    exists_nodes hchildren (h.readsAs hfoster) hopen hfits (fun _ => rfl) fun hskip => by
      rw [hline] at hskip
      cases hskip
  rw [List.nil_append] at hreads
  obtain ⟨mode, rfl, hmode⟩ : ∃ mode, modes' = mode :: modes ∧ p'.mode ∈ modesOfTemplates := by
    rcases hturned with ⟨rfl, rfl⟩ | ⟨_, mode, _, hmem, rfl, rfl⟩
    · exact ⟨.inTemplate, rfl, (by decide : Mode.inTemplate ∈ modesOfTemplates)⟩
    · exact ⟨mode, rfl, hmem⟩
  have hb₁ : b₁.mode ∈ modesOfTemplates := by
    rw [hreads.stands.mode_eq fun hselect => by rw [hselect] at hmode; revert hmode; decide]
    exact hmode
  have hclosed := hreads.stands.closesBy_endTemplate hsurrounds hf
  rw [← byMode_endTag_template hb₁] at hclosed
  have hname : isTagName (lower "template".toList) = true := by decide
  obtain ⟨b₂, hstands, hfoster', hline', hreadEnd⟩ := hreads.exists_closed (by rw [hfname]; exact hname) hclosed
    fun b' hrule => by
      rw [hfname, show lowerName "template" = "template" by decide]
      exact settlesIn_of_done (readsForeign_of_html hreads.stands (by rw [hf]) "template") hrule
  refine readsOn_of_read (by rw [hfname]; decide) ?_ hstands hfoster' hline' ?_
  · rw [held_of_template (by rw [hf]; rfl), Branch.toNodes, Branch.toNode, htoNodes]
    rfl
  · intro rest
    rw [hfname] at hreadEnd
    rw [heldMarkup, hfname, show rawTextNames.contains "template" = false by decide, if_neg Bool.false_ne_true,
      markupOf, markupOf, List.append_nil, Node.markup, hread _ (Lexer.endsText_endTag hname rest), hreadEnd]

/-- An element that is closed at once although it has an end tag. -/
theorem readsOn_shut {b' : Builder} (h : Opened modes p frames before tag b b' .shut)
    (hmode : p.mode ∈ bodyModes) (hfoster : b'.fosterParenting = false) (hline : b'.skipLineFeed = false)
    (hpart : p.innermost isTablePart = true) (hname : tag.name = "form") :
    ReadsOn modes p frames before ⟨.html, tag.name⟩ (tag.attributes.map Attribute.ofPair) [] b' := by
  obtain ⟨b₂, hrule, hstands, hfoster', hline'⟩ := closesBy_shut h hmode hfoster
  have hforeign : b'.readsForeign (.endTag "form") = false := by
    obtain ⟨f, around, rfl, haround⟩ := h.1.exists_cons
    rw [Site.innermost, haround] at hpart
    exact readsForeign_of_html h.1 (beq_iff_eq.mp (Bool.and_eq_true_iff.mp hpart).1) "form"
  have hend : ∀ rest, b'.read (endTagText "form" ++ rest) = b₂.read rest := by
    intro rest
    have hcontent : b'.content = .markup := h.1.content
    have htagname : isTagName (lower "form".toList) = true := by decide
    rw [read_endTagText hcontent htagname, show lowerName "form" = "form" by decide, calm_eq hline,
      handle_of_settlesIn (settlesIn_of_done hforeign hrule) (by decide)]
  refine readsOn_of_closed (f := b.frameFor before tag) hstands (hfoster'.trans hfoster) (hline'.trans hline)
    fun rest => ?_
  have hfname : (b.frameFor before tag).name.name = "form" := hname
  rw [heldMarkup, hfname, show voidNames.contains "form" = false by decide,
    show rawTextNames.contains "form" = false by decide, if_neg Bool.false_ne_true, if_neg Bool.false_ne_true,
    List.append_assoc]
  exact hend rest

/-! ### Foreign elements -/

theorem resolve_of_not_mem {inAttribute : Bool} {s : List Char} (h : '&' ∉ s) :
    Reference.resolve inAttribute s = s := by
  induction s with
  | nil => rw [Reference.resolve]
  | cons c cs ih =>
      rw [List.mem_cons, not_or] at h
      rw [Reference.resolve_cons_of_ne (Ne.symm h.1), ih h.2]

/-- What a foreign element holds is read back, also where it is written as plain text. -/
theorem exists_foreignContents {b₀ : Builder} (h : ReadsAs modes p frames [] b b₀) (hopen : p.mode ≠ .inTemplate)
    (hchildren : ∀ child ∈ children, Rereads child) (hfits : nodesFit p children = true)
    (hline : b.skipLineFeed = false)
    (hraw : rawTextNames.contains name.name = true → areRawText children = true) :
    ∃ inside b' b₁, ReadsAs modes p frames inside b' b₁ ∧ Branch.toNodes inside = children ∧
      ∀ rest, EndsText rest → b.read (heldMarkup name children ++ rest) = b'.read rest := by
  have hnoFeed : ∀ {goal : Prop}, b.skipLineFeed = true → goal := by
    intro goal hskip
    rw [hline] at hskip
    cases hskip
  rw [heldMarkup]
  cases hcontains : rawTextNames.contains name.name with
  | false =>
      obtain ⟨modes', p', inside, b', b₁, hturned, hreads, htoNodes, hread⟩ :=
        exists_nodes hchildren h (fun hp => absurd hp hopen) hfits (fun _ => rfl) hnoFeed
      obtain ⟨rfl, rfl⟩ := hturned.eq_of_ne hopen
      exact ⟨inside, b', b₁, hreads, htoNodes, hread⟩
  | true =>
      rw [if_pos rfl]
      rcases of_areRawText (hraw hcontains) with rfl | ⟨s, rfl, hchars⟩
      · exact ⟨[], b, b₀, h, rfl, fun _ _ => rfl⟩
      · rw [nodesFit, Node.fits, Bool.and_eq_true, Bool.and_eq_true, Bool.and_eq_true,
          decide_eq_true_eq] at hfits
        obtain ⟨⟨⟨⟨hne, hclean⟩, hfits⟩, -⟩, -⟩ := hfits
        obtain ⟨b', b₁, hreads, -, hread⟩ := h.exists_text rfl hne hfits hnoFeed
        have hnonempty : s.toList ≠ [] := fun hnil => hne (String.toList_eq_nil_iff.mp hnil)
        obtain ⟨c, cs, hcons⟩ := List.exists_cons_of_ne_nil hnonempty
        refine ⟨[.text s], b', b₁, hreads, rfl, fun rest hrest => ?_⟩
        rw [show textOf [.text s] = s.toList from List.append_nil _, hcons, List.cons_append]
        refine hread c cs (fun d hd => ?_) ?_ rest hrest
        · rw [← hcons] at hd
          exact ⟨(hchars d hd).1, fun hnul => hclean.2 (hnul ▸ hd)⟩
        · rw [← hcons]
          exact resolve_of_not_mem fun hmem => (hchars _ hmem).2 rfl

theorem lowerName_lowerName (s : String) : lowerName (lowerName s) = lowerName s := by
  rw [lowerName, lowerName, String.toList_ofList, lower, lower, List.map_map]
  congr 1
  exact List.map_congr_left fun c _ => Char.toLower_toLower_eq_toLower c

/-- A foreign element, whose end tag closes it whatever mode the elements around it are read in. -/
theorem readsOn_foreign (h : Stands modes (p.inside p.mode f.name) (f :: frames) [] b)
    (hsurrounds : Surrounds modes p frames) (hfoster : b.fosterParenting = false) (hline : b.skipLineFeed = false)
    (hopen : p.mode ≠ .inTemplate) (hspace : f.name.space ≠ .html)
    (hname : isTagName (lower f.name.name.toList) = true) (hbreaks : lowerName f.name.name ∉ ["br", "p"])
    (hvoid : voidNames.contains f.name.name = false)
    (hraw : rawTextNames.contains f.name.name = true → areRawText children = true)
    (hchildren : ∀ child ∈ children, Rereads child)
    (hfits : nodesFit (p.inside p.mode f.name) children = true) :
    ReadsOn modes p frames f.before f.name f.attributes children b := by
  obtain ⟨inside, b', b₁, hreads, htoNodes, hread⟩ :=
    exists_foreignContents (h.readsAs hfoster) hopen hchildren hfits hline hraw
  have htemplate : isHtml "template" f.name = false := by
    rw [isHtml, beq_eq_false_iff_ne.mpr hspace, Bool.false_and]
  have hclosed := hreads.stands.closesBy_inForeign hsurrounds rfl hspace (lowerName_lowerName _).symm hbreaks
  obtain ⟨b₂, hstands, hfoster', hline', hreadEnd⟩ := hreads.exists_closed hname hclosed
    fun b' hrule => settlesIn_of_foreign
      ((hreads.stands.readsForeign_endTag _).trans (bne_iff_ne.mpr hspace)) hrule
  refine readsOn_of_read hvoid (by rw [held_of_ne htemplate, htoNodes]) hstands hfoster' hline' fun rest => ?_
  rw [hread _ (Lexer.endsText_endTag hname rest), hreadEnd]

/-! ### Start tags -/

theorem of_isPlainElement {name : String} (h : isPlainElement ⟨.html, name⟩ attributes = true) :
    (Tag.reread ⟨.html, name⟩ attributes).name = name ∧
      (Tag.reread ⟨.html, name⟩ attributes).attributes.map Attribute.ofPair = attributes := by
  rw [isPlainElement, Bool.and_eq_true, beq_iff_eq, List.all_eq_true] at h
  refine ⟨h.1, ?_⟩
  rw [Tag.reread, Tag.ofElement, Tag.lowered, List.map_map, List.map_map]
  exact map_eq_self fun a ha => beq_iff_eq.mp (h.2 a ha)

/-- An HTML element is opened where it fits, and read on. -/
theorem exists_readsOn_html {q : Site} {name : String} (h : Stands modes p frames before b)
    (hfoster : b.fosterParenting = false) (hline : b.skipLineFeed = false)
    (hbefore : p = q.before (Tag.reread ⟨.html, name⟩ attributes).name)
    (hforeign : q.readsForeign (.startTag (Tag.reread ⟨.html, name⟩ attributes)) = false)
    (hchildren : ∀ child ∈ children, Rereads child ∧ ∀ node ∈ child.children, Rereads node)
    (hfits : (Node.element ⟨.html, name⟩ attributes children).fits q = true) :
    ∃ b₁, b.byMode (.startTag (Tag.reread ⟨.html, name⟩ attributes)) = .done b₁ ∧
      ReadsOn modes p frames before ⟨.html, name⟩ attributes children b₁ := by
  have hopens : OpensBy modes p frames before (Tag.reread ⟨.html, name⟩ attributes) b _ _ :=
    h.opensBy_byMode hfoster hline
  rw [Node.fits, Bool.and_eq_true] at hfits
  obtain ⟨hwritable, hfits⟩ := hfits
  dsimp only at hfits
  rw [hforeign, if_neg Bool.false_ne_true, Bool.and_eq_true, ← hbefore] at hfits
  obtain ⟨hplain, hfits⟩ := hfits
  obtain ⟨htagname, hattributes⟩ := of_isPlainElement hplain
  have hname : isTagName (lower name.toList) = true := (isTagName_of_isWritable hwritable :)
  have hlower : lowerName name = name := htagname
  generalize Tag.reread ⟨.html, name⟩ attributes = tag at *
  subst hattributes
  subst htagname
  cases hopening : opening? p tag with
  | none =>
      rw [hopening] at hfits
      cases hfits
  | some opening =>
      obtain ⟨b₁, hrule, hopened, hfoster', hline'⟩ := hopens opening hopening
      have hcloses := closesAs_opening opening hopening
      have hfoster₁ := hfoster'.trans hfoster
      have hnoFeed : dropsLineFeed tag.name = false → b₁.skipLineFeed = false := fun hdrops =>
        Bool.eq_false_iff.mpr fun hskip => ne_true_of_eq_false hdrops (hline' hskip)
      rw [hopening] at hfits
      refine ⟨b₁, hrule, ?_⟩
      cases opening with
      | holds mode =>
          rw [Bool.and_eq_true, Bool.and_eq_true, Bool.and_eq_true, Bool.not_eq_true', Bool.not_eq_true',
            Bool.not_eq_true', Bool.and_eq_false_iff] at hfits
          obtain ⟨⟨⟨hvoid, hraw⟩, hfeed⟩, hfits⟩ := hfits
          have hheld : Held p tag.name mode := by
            cases hcloses with
            | holds hheld => exact hheld
          exact readsOn_holds (f := b.frameFor before tag) hopened h.surrounds hfoster₁ hheld rfl hlower hname
            hvoid hraw (fun child hchild => (hchildren child hchild).1) hfits fun hskip =>
              hfeed.resolve_left (ne_false_of_eq_true (hline' hskip))
      | void =>
          rw [Bool.and_eq_true, List.isEmpty_iff] at hfits
          obtain ⟨hvoid, rfl⟩ := hfits
          have hskip := hnoFeed
            ((by decide : ∀ n ∈ voidNames, dropsLineFeed n = false) _ (List.contains_iff_mem.mp hvoid))
          refine readsOn_of_closed (f := b.frameFor before tag) hopened hfoster₁ hskip fun rest => ?_
          have hfvoid : voidNames.contains (b.frameFor before tag).name.name = true := hvoid
          rw [hfvoid, if_pos rfl]
          rfl
      | shut =>
          rw [Bool.and_eq_true, List.isEmpty_iff] at hfits
          obtain ⟨hpart, rfl⟩ := hfits
          cases hcloses with
          | shut hmode hform =>
              exact readsOn_shut hopened hmode hfoster₁ (hnoFeed (by rw [hform]; rfl)) hpart hform
      | text content =>
          rw [Bool.and_eq_true, Bool.not_eq_true'] at hfits
          obtain ⟨hvoid, hfits⟩ := hfits
          obtain ⟨hmode, hcontent, hstands⟩ := hopened
          obtain ⟨inside, b₂, htoNodes, hstands', hfoster₂, hskip, hread⟩ := exists_textElement
            (f := b.frameFor before tag) ⟨hmode, hcontent, hstands⟩ h.surrounds hfoster₁ hcloses rfl hfits hline'
          refine readsOn_of_read (f := b.frameFor before tag) hvoid ?_ hstands' hfoster₂ hskip hread
          rw [held_of_ne ?_, htoNodes]
          have hheldText := (of_closesAs_text hcloses).2.1
          exact (by decide : ∀ n ∈ heldTextNames, isHtml "template" ⟨.html, n⟩ = false) _ hheldText
      | template =>
          obtain ⟨inside, rfl, hinside⟩ := exists_of_contentsFit hfits
          cases hcloses with
          | template htemplate =>
              have hskip := hnoFeed (by rw [htemplate]; rfl)
              exact readsOn_template (f := b.frameFor before tag) hopened h.surrounds hfoster₁
                (congrArg (ElementName.mk .html) htemplate)
                (hchildren (.contents inside) List.mem_cons_self).2 hinside hskip

theorem of_isForeignElement (h : isForeignElement name attributes children = true) :
    foreignElementName name.space (Tag.reread name attributes).name = name.name ∧
      (Tag.reread name attributes).attributes.map (foreignAttribute name.space) = attributes ∧
      voidNames.contains name.name = false ∧
      (rawTextNames.contains name.name = true → areRawText children = true) := by
  rw [isForeignElement, Bool.and_eq_true, Bool.and_eq_true, Bool.and_eq_true, beq_iff_eq, List.all_eq_true,
    Bool.not_eq_true', Bool.or_eq_true, Bool.not_eq_true'] at h
  obtain ⟨⟨⟨hname, hattributes⟩, hvoid⟩, hraw⟩ := h
  refine ⟨hname, ?_, hvoid, fun hcontains => hraw.resolve_left (ne_false_of_eq_true hcontains)⟩
  rw [Tag.reread, Tag.ofElement, Tag.lowered, List.map_map, List.map_map]
  exact map_eq_self fun a ha => beq_iff_eq.mp (hattributes a ha)

/-- An element is read back when its start tag leads to a state from which it is read on. -/
theorem exists_element {modes' : List Mode} {p' : Site} {b₀ b₁ : Builder} {n : Nat}
    (h : ReadsAs modes p frames before b b₀) (hwritable : isWritable name attributes = true)
    (hsettles : SettlesIn n b₀ (.startTag (Tag.reread name attributes)) b₁) (hn : n ≤ 15)
    (hreads : ReadsOn modes' p' frames before name attributes children b₁) :
    ∃ branch b' b₂, ReadsAs modes' p' frames (before ++ [branch]) b' b₂ ∧ b'.skipLineFeed = false ∧
      branch.toNode = .element name attributes children ∧ branch.isText = false ∧
      ∀ rest, b.read ((Node.element name attributes children).markup ++ rest) = b'.read rest := by
  obtain ⟨branch, b', hstands, hfoster, hline, htoNode, htext, hread⟩ := hreads
  refine ⟨branch, b', _, hstands.readsAs hfoster, hline, htoNode, htext, fun rest => ?_⟩
  rw [Node.markup, List.cons_append, List.append_assoc,
    h.read_startTag (isReadable_reread hwritable) hsettles hn]
  exact hread rest

/-- Inside a foreign element another one is read back. -/
theorem exists_readsOn_foreign (h : Stands modes p frames before b) (hfoster : b.fosterParenting = false)
    (hline : b.skipLineFeed = false) (hopen : IsOpenIn modes p)
    (hforeign : p.readsForeign (.startTag (Tag.reread name attributes)) = true)
    (hchildren : ∀ child ∈ children, Rereads child)
    (hfits : (Node.element name attributes children).fits p = true) :
    ∃ b₁, SettlesIn 1 b (.startTag (Tag.reread name attributes)) b₁ ∧
      ReadsOn modes p frames before name attributes children b₁ := by
  have hname : isTagName (lower name.name.toList) = true := isTagName_of_isWritable (isWritable_of_fits hfits)
  rw [Node.fits, Bool.and_eq_true] at hfits
  replace hfits := hfits.2
  dsimp only at hfits
  rw [hforeign, if_pos rfl, Bool.and_eq_true, Bool.and_eq_true, Bool.and_eq_true, Bool.not_eq_true'] at hfits
  obtain ⟨⟨⟨hspace, hbreaks⟩, helement⟩, hfits⟩ := hfits
  obtain ⟨hforeignName, hattributes, hvoid, hraw⟩ := of_isForeignElement helement
  have hsettles := h.settlesIn_foreignStart (Stands.staysIn hfoster p) hforeign hbreaks rfl hspace
  rw [hforeignName, hattributes] at hsettles
  refine ⟨_, hsettles, ?_⟩
  obtain ⟨f, around, rfl, haround⟩ := h.exists_cons
  rw [Site.innermost, haround] at hspace
  have hspaceEq : f.name.space = name.space := beq_iff_eq.mp hspace
  have hne : name.space ≠ .html := by
    intro hhtml
    rw [Site.readsForeign, haround, List.map_cons, readsForeign] at hforeign
    dsimp only at hforeign
    rw [hspaceEq, hhtml] at hforeign
    cases hforeign
  have hmode : p.mode ≠ .inTemplate := by
    intro hmode
    have hinnermost := (hopen hmode).1
    rw [Site.innermost, haround] at hinnermost
    exact hne (hspaceEq.symm.trans (beq_iff_eq.mp (Bool.and_eq_true_iff.mp hinnermost).1))
  have hnoBreak : lowerName name.name ∉ ["br", "p"] := by
    intro hmem
    rw [breaksForeign, Bool.or_eq_false_iff] at hbreaks
    exact ne_true_of_eq_false hbreaks.1 (List.contains_iff_mem.mpr
      ((by decide : ∀ n ∈ ["br", "p"], n ∈ foreignBreakNames) _ hmem))
  exact readsOn_foreign (f := b.frameOf before name attributes)
    (h.pushNeutral (isNeutral_of_foreign hne) attributes) h.surrounds hfoster hline hmode hne hname hnoBreak
    hvoid hraw hchildren hfits

/-- An element that begins foreign markup is read back. -/
theorem exists_readsOn_foreignRoot {q : Site} (h : Stands modes p frames before b)
    (hfoster : b.fosterParenting = false) (hline : b.skipLineFeed = false)
    (hbefore : p = q.before (Tag.reread name attributes).name)
    (hforeign : q.readsForeign (.startTag (Tag.reread name attributes)) = false) (hspace : name.space ≠ .html)
    (hchildren : ∀ child ∈ children, Rereads child)
    (hfits : (Node.element name attributes children).fits q = true) :
    ∃ b₁, b.byMode (.startTag (Tag.reread name attributes)) = .done b₁ ∧
      ReadsOn modes p frames before name attributes children b₁ := by
  have hname : isTagName (lower name.name.toList) = true := isTagName_of_isWritable (isWritable_of_fits hfits)
  obtain ⟨hroot, hbody, helement, hfits⟩ : (name.name = "svg" ∧ name.space = .svg ∨
      name.name = "math" ∧ name.space = .mathml) ∧ p.readsBody = true ∧
      isForeignElement name attributes children = true ∧ nodesFit (p.inside p.mode name) children = true := by
    rw [Node.fits, Bool.and_eq_true] at hfits
    replace hfits := hfits.2
    dsimp only at hfits
    rw [hforeign, if_neg Bool.false_ne_true, ← hbefore] at hfits
    cases hnamespace : name.space with
    | html => exact absurd hnamespace hspace
    | svg =>
        rw [hnamespace] at hfits
        dsimp only at hfits
        rw [Bool.and_eq_true, Bool.and_eq_true, Bool.and_eq_true, beq_iff_eq] at hfits
        obtain ⟨⟨⟨hbody, hsvg⟩, helement⟩, hfits⟩ := hfits
        exact ⟨Or.inl ⟨hsvg, rfl⟩, hbody, helement, hfits⟩
    | mathml =>
        rw [hnamespace] at hfits
        dsimp only at hfits
        rw [Bool.and_eq_true, Bool.and_eq_true, Bool.and_eq_true, beq_iff_eq] at hfits
        obtain ⟨⟨⟨hbody, hmath⟩, helement⟩, hfits⟩ := hfits
        exact ⟨Or.inr ⟨hmath, rfl⟩, hbody, helement, hfits⟩
  obtain ⟨-, hattributes, hvoid, hraw⟩ := of_isForeignElement helement
  have hlower : (Tag.reread name attributes).name = name.name := by
    change lowerName name.name = name.name
    rcases hroot with ⟨hroot, -⟩ | ⟨hroot, -⟩ <;> rw [hroot] <;> decide
  have hnoBreak : lowerName name.name ∉ ["br", "p"] := by
    rcases hroot with ⟨hroot, -⟩ | ⟨hroot, -⟩ <;> rw [hroot] <;> decide
  have hmode : p.mode ≠ .inTemplate := by
    intro hmode
    rw [Site.readsBody, hmode] at hbody
    cases hbody
  have hrootTag : (Tag.reread name attributes).name = "svg" ∧ name.space = .svg ∨
      (Tag.reread name attributes).name = "math" ∧ name.space = .mathml := by
    rw [hlower]
    exact hroot
  obtain ⟨b₁, hrule, hstands, hfoster₁, hline₁⟩ := h.exists_foreignRoot hfoster hbody hrootTag rfl
  rw [hlower, hattributes] at hstands
  refine ⟨b₁, hrule, ?_⟩
  exact readsOn_foreign (f := b.frameOf before name attributes) hstands h.surrounds hfoster₁
    (hline₁.trans hline) hmode hspace hname hnoBreak hvoid hraw hchildren hfits

/-- Where an element fits, its start tag leads to a state from which it is read on. -/
theorem exists_readsOn (h : Stands modes p frames before b) (hfoster : b.fosterParenting = false)
    (hline : b.skipLineFeed = false) (hopen : IsOpenIn modes p)
    (hchildren : ∀ child ∈ children, Rereads child ∧ ∀ node ∈ child.children, Rereads node)
    (hfits : (Node.element name attributes children).fits p = true) :
    ∃ modes' n b₁, Turned modes p modes' (p.behind (.element name attributes children)) ∧
      SettlesIn n b (.startTag (Tag.reread name attributes)) b₁ ∧ n ≤ 2 ∧
      ReadsOn modes' (p.behind (.element name attributes children)) frames before name attributes children
        b₁ := by
  have hinside : ∀ child ∈ children, Rereads child := fun child hchild => (hchildren child hchild).1
  cases hforeign : p.readsForeign (.startTag (Tag.reread name attributes)) with
  | true =>
      rw [Site.behind, hforeign, if_pos rfl]
      obtain ⟨b₁, hsettles, hreads⟩ := exists_readsOn_foreign h hfoster hline hopen hforeign hinside hfits
      exact ⟨modes, 1, b₁, turned_self modes p, hsettles, by decide, hreads⟩
  | false =>
      rw [Site.behind, hforeign, if_neg Bool.false_ne_true]
      obtain ⟨modes', b', hturned, hstands, hfoster', hline', hleads⟩ := h.exists_before hopen hforeign
      replace hfoster := hfoster'.trans hfoster
      replace hline := hline'.trans hline
      obtain ⟨b₁, hrule, hreads⟩ : ∃ b₁, b'.byMode (.startTag (Tag.reread name attributes)) = .done b₁ ∧
          ReadsOn modes' (p.before (Tag.reread name attributes).name) frames before name attributes children
            b₁ := by
        by_cases hspace : name.space = .html
        · obtain ⟨space, name⟩ := name
          obtain rfl : space = .html := hspace
          exact exists_readsOn_html hstands hfoster hline rfl hforeign hchildren hfits
        · exact exists_readsOn_foreignRoot hstands hfoster hline rfl hforeign hspace hinside hfits
      have hsettles := settlesIn_of_done ((hstands.readsForeign_eq _).trans
        ((congrArg (readsForeign · _) (by rw [hturned.around_eq])).trans hforeign)) hrule
      exact ⟨modes', 2, b₁, hturned, hleads 1 b₁ hsettles, Nat.le_refl 2, hreads⟩

theorem rereads_element (hchildren : ∀ child ∈ children, Rereads child ∧ ∀ node ∈ child.children, Rereads node) :
    Rereads (.element name attributes children) := by
  intro modes p frames before b b₀ h hopen hfits _ _
  obtain ⟨modes', n, b₁, hturned, hsettles, hn, hreads⟩ :=
    exists_readsOn h.stands h.fosterParenting h.skipLineFeed hopen hchildren hfits
  obtain ⟨branch, b', b₂, hreadsAs, hline, htoNode, htext, hread⟩ :=
    exists_element h (isWritable_of_fits hfits) hsettles (Nat.le_trans hn (by decide)) hreads
  exact ⟨modes', branch, b', b₂, hturned, hreadsAs, hline, htoNode, htext, fun rest _ => hread rest⟩

/-- Every node is read back wherever it fits. -/
theorem rereads (node : Node) : Rereads node := by
  have h : Rereads node ∧ ∀ child ∈ node.children, Rereads child := by
    induction node using Node.childInduction with
    | step node ih =>
        refine ⟨?_, fun child hchild => (ih child hchild).1⟩
        cases node with
        | element name attributes children => exact rereads_element ih
        | text content => exact rereads_text content
        | comment content => exact rereads_comment content
        | doctype =>
            intro modes p frames children b b₀ _ _ hfits
            rw [Node.fits] at hfits
            cases hfits
        | contents =>
            intro modes p frames children b b₀ _ _ hfits
            rw [Node.fits] at hfits
            cases hfits
  exact h.1

/-! ### The source -/

/-- Whether neither the markup nor the text of a node holds a carriage return. -/
def IsWrittenClean (node : Node) : Prop :=
  '\r' ∉ node.markup ∧ '\r' ∉ (node.text?.getD "").toList

theorem not_mem_markupOf {nodes : List Node} (h : ∀ node ∈ nodes, IsWrittenClean node) : '\r' ∉ markupOf nodes :=
  not_mem_markupOf_of_markup fun node hnode => (h node hnode).1

theorem not_mem_heldMarkup (h : ∀ child ∈ children, IsWrittenClean child) : '\r' ∉ heldMarkup name children := by
  rw [heldMarkup]
  split
  · rw [textOf, List.mem_flatMap]
    rintro ⟨child, hchild, hmem⟩
    exact (h child hchild).2 hmem
  · exact not_mem_markupOf h

theorem isWrittenClean_text {content : String} (h : IsClean content) : IsWrittenClean (.text content) := by
  refine ⟨fun hmem => ?_, h.1⟩
  rcases (mem_escapeText hmem).2 with hmem | hmem
  · exact h.1 hmem
  · revert hmem
    decide

theorem isWrittenClean_comment {content : String} (h : IsClean content) : IsWrittenClean (.comment content) := by
  refine ⟨?_, (by decide : '\r' ∉ "".toList)⟩
  have := h.1
  simp [Node.markup, this]

theorem isWrittenClean_element (hwritable : isWritable name attributes = true)
    (h : ∀ child ∈ children, IsWrittenClean child) : IsWrittenClean (.element name attributes children) := by
  refine ⟨?_, (by decide : '\r' ∉ "".toList)⟩
  have htag : '\r' ∉ (Tag.ofElement name attributes).text := by
    apply Tag.not_mem_text (isReadable_reread hwritable)
    rw [isWritable, Bool.and_eq_true, Bool.and_eq_true, List.all_eq_true] at hwritable
    refine List.forall_mem_map.mpr fun a ha => ?_
    have hattribute := hwritable.1.2 a ha
    rw [Bool.and_eq_true, decide_eq_true_eq] at hattribute
    exact hattribute.2.1
  rw [Node.markup, List.mem_cons, List.mem_append, not_or, not_or]
  refine ⟨by decide, htag, ?_⟩
  split
  · exact List.not_mem_nil
  · rw [List.mem_append, not_or]
    exact ⟨not_mem_heldMarkup h, not_mem_endTagText (isTagName_of_isWritable hwritable)⟩

/-- What an element that fits holds: nodes that fit, a text, or the contents of a template. -/
theorem children_of_fits (h : (Node.element name attributes children).fits p = true) :
    (∃ q, nodesFit q children = true) ∨ (∃ s, children = [.text s] ∧ IsClean s) ∨
      ∃ inside, children = [.contents inside] ∧ ∃ q, nodesFit q inside = true := by
  have hnil : children.isEmpty = true → ∃ q, nodesFit q children = true := by
    intro hempty
    rw [List.isEmpty_iff] at hempty
    exact ⟨p, by rw [hempty]; rfl⟩
  rw [Node.fits, Bool.and_eq_true] at h
  replace h := h.2
  dsimp only at h
  split at h
  · rw [Bool.and_eq_true] at h
    exact Or.inl ⟨_, h.2⟩
  · split at h
    · rw [Bool.and_eq_true] at h
      replace h := h.2
      split at h
      · rw [Bool.and_eq_true] at h
        exact Or.inl ⟨_, h.2⟩
      · rw [Bool.and_eq_true] at h
        exact Or.inl (hnil h.2)
      · rw [Bool.and_eq_true] at h
        exact Or.inl (hnil h.2)
      · rw [Bool.and_eq_true] at h
        rcases of_holdsText h.2 with rfl | ⟨s, rfl, -, hclean, -⟩
        · exact Or.inl ⟨p, rfl⟩
        · exact Or.inr (Or.inl ⟨s, rfl, hclean⟩)
      · obtain ⟨inside, rfl, hinside⟩ := exists_of_contentsFit h
        exact Or.inr (Or.inr ⟨inside, rfl, _, hinside⟩)
      · cases h
    · rw [Bool.and_eq_true] at h
      exact Or.inl ⟨_, h.2⟩
    · rw [Bool.and_eq_true] at h
      exact Or.inl ⟨_, h.2⟩

theorem fits_of_nodesFit {nodes : List Node} (h : nodesFit p nodes = true) :
    ∀ node ∈ nodes, ∃ q, node.fits q = true := by
  induction nodes generalizing p with
  | nil => exact fun node hnode => absurd hnode List.not_mem_nil
  | cons node rest ih =>
      rw [nodesFit, Bool.and_eq_true, Bool.and_eq_true] at h
      exact List.forall_mem_cons.mpr ⟨⟨p, h.1.1⟩, ih h.2⟩

/-- Reading replaces nothing in what is written of a node that fits. -/
theorem isWrittenClean_of_fits {node : Node} (h : ∃ q, node.fits q = true) : IsWrittenClean node := by
  have hall : ((∃ q, node.fits q = true) → IsWrittenClean node) ∧
      ∀ child ∈ node.children, (∃ q, child.fits q = true) → IsWrittenClean child := by
    clear h
    induction node using Node.childInduction with
    | step node ih =>
        refine ⟨?_, fun child hchild => (ih child hchild).1⟩
        rintro ⟨q, hfits⟩
        cases node with
        | element name attributes children =>
            refine isWrittenClean_element (isWritable_of_fits hfits) fun child hchild => ?_
            rcases children_of_fits hfits with ⟨q', hnodes⟩ | ⟨s, rfl, hclean⟩ | ⟨inside, rfl, q', hnodes⟩
            · exact (ih child hchild).1 (fits_of_nodesFit hnodes child hchild)
            · rw [List.mem_singleton.mp hchild]
              exact isWrittenClean_text hclean
            · rw [List.mem_singleton.mp hchild]
              have hgrandchildren := (ih _ List.mem_cons_self).2
              refine ⟨?_, (by decide : '\r' ∉ "".toList)⟩
              rw [Node.markup]
              exact not_mem_markupOf fun node hnode =>
                hgrandchildren node hnode (fits_of_nodesFit hnodes node hnode)
        | text content =>
            rw [Node.fits, Bool.and_eq_true, decide_eq_true_eq] at hfits
            exact isWrittenClean_text hfits.1.2
        | comment content =>
            rw [Node.fits, Bool.and_eq_true, decide_eq_true_eq] at hfits
            exact isWrittenClean_comment hfits.1
        | doctype =>
            rw [Node.fits] at hfits
            cases hfits
        | contents =>
            rw [Node.fits] at hfits
            cases hfits
  exact hall.1 h

theorem isWrittenClean_of_nodesFit {nodes : List Node} (h : nodesFit p nodes = true) :
    ∀ node ∈ nodes, IsWrittenClean node :=
  fun node hnode => isWrittenClean_of_fits (fits_of_nodesFit h node hnode)

end MarkupModule.Markup.Construction
