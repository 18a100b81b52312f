import MarkupModule.Proofs.Rereading.Regions

/-! The outermost element of a document. Comments may stand in it before the head, white space and comments
behind the head and behind a frameset, and comments behind the body, which then is still open. -/

namespace MarkupModule.Markup

open MarkupModule.Text
open Lexer (EndsText)

/-- Whether a node is white space or a comment that is read as it is written. -/
def Node.isLoose : Node → Bool
  | .text content => decide (content ≠ "" ∧ IsClean content) && content.toList.all isSpace
  | .comment content => decide (IsClean content) && Lexer.isCommentText content.toList
  | _ => false

/-- Whether nodes are white space and comments, with no two texts next to each other. -/
def areLoose : List Node → Bool
  | [] => true
  | node :: rest => node.isLoose && !(startsWithText [node] && startsWithText rest) && areLoose rest

def areComments (nodes : List Node) : Bool :=
  nodes.all fun node => node.isLoose && !startsWithText [node]

theorem areLoose_of_areComments {nodes : List Node} (h : areComments nodes = true) : areLoose nodes = true := by
  induction nodes with
  | nil => rfl
  | cons node rest ih =>
      rw [areComments, List.all_cons, Bool.and_eq_true, Bool.and_eq_true, Bool.not_eq_true'] at h
      rw [areLoose, h.1.1, h.1.2, ih h.2]
      rfl

theorem endsText_of_isLoose {node : Node} (h : node.isLoose = true) (htext : startsWithText [node] = false)
    (rest : List Char) : EndsText (node.markup ++ rest) := by
  cases node with
  | comment content =>
      rw [Node.markup, List.append_assoc, List.append_assoc]
      exact Or.inr ⟨_, rfl, rfl⟩
  | text => cases htext
  | element | doctype | contents => cases h

theorem endsText_markupOf {nodes : List Node} (h : areLoose nodes = true) (htext : startsWithText nodes = false)
    {rest : List Char} (hrest : EndsText rest) : EndsText (markupOf nodes ++ rest) := by
  cases nodes with
  | nil => exact hrest
  | cons node others =>
      rw [areLoose, Bool.and_eq_true, Bool.and_eq_true] at h
      rw [startsWithText_cons] at htext
      rw [markupOf, List.append_assoc]
      exact endsText_of_isLoose h.1.1 htext _

namespace Construction.Builder

variable {mode : Mode} {r : Frame} {children : List Branch} {b : Builder} {node : Node} {nodes : List Node}

/-! ### White space and comments -/

/-- The modes between the regions. -/
def looseModes : List Mode :=
  [.beforeHead, .afterHead, .afterFrameset]

/-- A comment, or white space where it is not dropped, is read back between the regions. -/
theorem Bare.exists_loose (h : Bare mode [r] children b) (hr : r.name = ⟨.html, "html"⟩)
    (hmode : mode ∈ looseModes) (hloose : node.isLoose = true)
    (htext : startsWithText [node] = true → mode ≠ .beforeHead ∧ Branch.endsInText children = false) :
    ∃ branch b', Bare mode [r] (children ++ [branch]) b' ∧ branch.toNode = node ∧
      branch.isText = startsWithText [node] ∧
      ∀ rest, (startsWithText [node] = true → EndsText rest) → b.read (node.markup ++ rest) = b'.read rest := by
  have hspace : r.name.space = .html := by rw [hr]
  simp only [looseModes, List.mem_cons, List.not_mem_nil, or_false] at hmode
  cases node with
  | text content =>
      obtain ⟨hnotBefore, hends⟩ := htext rfl
      rw [Node.isLoose, Bool.and_eq_true, decide_eq_true_eq] at hloose
      obtain ⟨⟨hne, hclean⟩, hblank⟩ := hloose
      have hchars : content.toList ≠ [] := fun hnil => hne (String.toList_eq_nil_iff.mp hnil)
      have hrule : b.byMode (.blank content) = .done (b.addText content) := by
        rw [byMode, h.mode]
        rcases hmode with rfl | rfl | rfl
        · exact absurd rfl hnotBefore
        · rfl
        · rfl
      refine ⟨.text content, _, h.insert (fun n => Branch.below_text n content) (Or.inr hends), rfl, rfl,
        fun rest hrest => ?_⟩
      obtain ⟨c, cs, hcons⟩ := List.exists_cons_of_ne_nil (escapeText_ne_nil hchars)
      obtain ⟨d, ds, hcontent⟩ := List.exists_cons_of_ne_nil hchars
      have hfirst := Lexer.first_escapeText hclean.2 hcons (hrest rfl) b.allowsSections
      have hfold : (runs content.toList).foldl handle b = b.addText content := by
        have hruns : runs content.toList = [.blank content] := by
          rw [hcontent] at hblank ⊢
          rw [runs_of_all_isSpace hblank, ← hcontent, String.ofList_toList]
        rw [hruns, List.foldl_cons, List.foldl_nil, handle_of_settlesIn (h.settlesIn hspace hrule) (by decide)]
      have hfeed : b.skipLineFeed = true → content.toList.head? ≠ some '\n' :=
        fun hskip => absurd hskip (ne_true_of_eq_false h.skipLineFeed)
      rw [← h.content] at hfirst
      rw [Node.markup, hcons, List.cons_append, read_cons hfirst, List.foldl_cons, List.foldl_nil,
        receive_text hfeed, calm_eq h.skipLineFeed, hfold]
      rfl
  | comment content =>
      rw [Node.isLoose, Bool.and_eq_true, decide_eq_true_eq] at hloose
      have hrule : b.byMode (.comment content) = .done (b.addComment content) := by
        rw [byMode, h.mode]
        rcases hmode with rfl | rfl | rfl <;> rfl
      refine ⟨.comment content, _, h.insert (fun n => Branch.below_comment n content) (Or.inl rfl), rfl, rfl,
        fun rest _ => ?_⟩
      rw [read_commentText h.content hloose.1 hloose.2, calm_eq h.skipLineFeed,
        handle_of_settlesIn (h.settlesIn hspace hrule) (by decide)]
      rfl
  | element | doctype | contents => cases hloose

theorem Bare.exists_looseNodes (h : Bare mode [r] children b) (hr : r.name = ⟨.html, "html"⟩)
    (hmode : mode ∈ looseModes) (hloose : areLoose nodes = true)
    (htexts : mode = .beforeHead → areComments nodes = true)
    (hends : startsWithText nodes = true → Branch.endsInText children = false) :
    ∃ branches b', Bare mode [r] (children ++ branches) b' ∧ Branch.toNodes branches = nodes ∧
      ∀ rest, EndsText rest → b.read (markupOf nodes ++ rest) = b'.read rest := by
  induction nodes generalizing children b with
  | nil => exact ⟨[], b, by rwa [List.append_nil], rfl, fun _ _ => rfl⟩
  | cons node others ih =>
      rw [areLoose, Bool.and_eq_true, Bool.and_eq_true, Bool.not_eq_true', Bool.and_eq_false_iff] at hloose
      obtain ⟨⟨hnode, hapart⟩, hothers⟩ := hloose
      rw [startsWithText_cons] at hends
      have hcomments : mode = .beforeHead → startsWithText [node] = false ∧ areComments others = true := by
        intro hbefore
        have hall := htexts hbefore
        rw [areComments, List.all_cons, Bool.and_eq_true, Bool.and_eq_true, Bool.not_eq_true'] at hall
        exact ⟨hall.1.2, hall.2⟩
      obtain ⟨branch, b', hbare, htoNode, htext, hread⟩ := h.exists_loose hr hmode hnode fun hnodeText =>
        ⟨fun hbefore => ne_true_of_eq_false (hcomments hbefore).1 hnodeText, hends hnodeText⟩
      have hendsBranch : startsWithText others = true → Branch.endsInText (children ++ [branch]) = false := by
        intro hothersText
        rw [Branch.endsInText_append, htext]
        exact hapart.resolve_right fun hnone => ne_true_of_eq_false hnone hothersText
      obtain ⟨branches, b'', hbare', htoNodes, hread'⟩ :=
        ih hbare hothers (fun hbefore => (hcomments hbefore).2) hendsBranch
      rw [List.append_assoc] at hbare'
      refine ⟨branch :: branches, b'', hbare', by rw [Branch.toNodes, htoNode, htoNodes], fun rest hrest => ?_⟩
      have hrestEnds : startsWithText [node] = true → EndsText (markupOf others ++ rest) := fun hnodeText =>
        endsText_markupOf hothers (hapart.resolve_left fun hnone => ne_true_of_eq_false hnone hnodeText) hrest
      rw [markupOf, List.append_assoc, hread _ hrestEnds, hread' rest hrest]

/-! ### Behind the body -/

/-- A state behind the end tag of the body. -/
structure Trails (r : Frame) (children : List Branch) (b : Builder) : Prop where
  mode : b.mode = .afterBody
  content : b.content = .markup
  skipLineFeed : b.skipLineFeed = false
  branches : b.branches = nest [r] children
  outermost : b.openElements.getLast? = some r.opened
  readsForeign : ∀ event, b.readsForeign event = false
  below : Branch.Below r.serial r.before

theorem Bare.trails {f : Frame} (h : Bare .afterBody [f, r] children b) (hspace : f.name.space = .html) :
    Trails r (f.filled children) b where
  mode := h.mode
  content := h.content
  skipLineFeed := h.skipLineFeed
  branches := h.tree.branches
  outermost := by rw [h.tree.opened]; rfl
  readsForeign := h.readsForeign hspace
  below := by
    cases h.tree.growing with
    | cons _ _ haround =>
        cases haround with
        | cons _ hbelow _ => exact hbelow

theorem Trails.addRootComment (h : Trails r children b) (hr : r.name = ⟨.html, "html"⟩) (content : String) :
    Trails r (children ++ [.comment content]) (b.addRootComment content) := by
  have hgrowing : Growing (r.serial + 1) [r] := .cons (Nat.lt_succ_self _) h.below .nil
  have hname : isHtml "template" r.name = false := by rw [hr]; rfl
  have hadd : b.addRootComment content = { b with branches := nest [r] (children ++ [.comment content]) } := by
    rw [Builder.addRootComment, h.outermost]
    dsimp only
    rw [insertAt, h.branches]
    change { b with branches := Branch.adjustAll r.serial _ _ } = _
    rw [adjustAll_nest_cons hgrowing, held_of_ne hname, Branch.append_eq (Or.inl rfl), nest, nest, nest,
      Frame.filled, held_of_ne hname]
  rw [hadd]
  exact
    { mode := h.mode
      content := h.content
      skipLineFeed := h.skipLineFeed
      branches := rfl
      outermost := h.outermost
      readsForeign := h.readsForeign
      below := h.below }

theorem Trails.exists_comments (h : Trails r children b) (hr : r.name = ⟨.html, "html"⟩)
    (hcomments : areComments nodes = true) :
    ∃ branches b', Trails r (children ++ branches) b' ∧ Branch.toNodes branches = nodes ∧
      ∀ rest, b.read (markupOf nodes ++ rest) = b'.read rest := by
  induction nodes generalizing children b with
  | nil => exact ⟨[], b, by rwa [List.append_nil], rfl, fun _ => rfl⟩
  | cons node others ih =>
      rw [areComments, List.all_cons, Bool.and_eq_true, Bool.and_eq_true, Bool.not_eq_true'] at hcomments
      obtain ⟨⟨hnode, hnoText⟩, hothers⟩ := hcomments
      cases node with
      | comment content =>
          rw [Node.isLoose, Bool.and_eq_true, decide_eq_true_eq] at hnode
          have hrule : b.byMode (.comment content) = .done (b.addRootComment content) := by
            rw [byMode, h.mode]
            rfl
          have hsettles := settlesIn_of_done (h.readsForeign _) hrule
          obtain ⟨branches, b', htrails, htoNodes, hread⟩ := ih (h.addRootComment hr content) hothers
          rw [List.append_assoc] at htrails
          refine ⟨.comment content :: branches, b', htrails, by rw [Branch.toNodes, htoNodes]; rfl, fun rest => ?_⟩
          rw [markupOf, List.append_assoc, read_commentText h.content hnode.1 hnode.2, calm_eq h.skipLineFeed,
            handle_of_settlesIn hsettles (by decide), hread]
      | text => cases hnoText
      | element | doctype | contents => cases hnode

/-! ### The end of the document -/

/-- Behind the end tag of the outermost element the input ends. -/
theorem branches_read_rootEnd {b' : Builder} (hcontent : b.content = .markup) (hline : b.skipLineFeed = false)
    (hsettles : SettlesIn 1 b (.endTag "html") b') (hend : SettlesIn 1 b' .endOfInput b') :
    (b.read (endTagText "html")).branches = b'.branches := by
  have hread := read_endTagText hcontent (by decide : isTagName (lower "html".toList) = true) []
  rw [List.append_nil] at hread
  rw [hread, calm_eq hline, show lowerName "html" = "html" by decide, handle_of_settlesIn hsettles (by decide),
    read, handle_of_settlesIn hend (by decide)]

theorem Trails.branches_read (h : Trails r children b) :
    (b.read (endTagText "html")).branches = nest [r] children := by
  have hrule : b.byMode (.endTag "html") = .done (b.enter .afterAfterBody) := by
    rw [byMode, h.mode]
    rfl
  rw [branches_read_rootEnd h.content h.skipLineFeed (settlesIn_of_done (h.readsForeign _) hrule)
    (settlesIn_of_done (h.readsForeign .endOfInput) rfl)]
  exact h.branches

theorem Bare.branches_read (h : Bare .afterFrameset [r] children b) (hr : r.name = ⟨.html, "html"⟩) :
    (b.read (endTagText "html")).branches = nest [r] children := by
  have hspace : r.name.space = .html := by rw [hr]
  have hrule : b.byMode (.endTag "html") = .done (b.enter .afterAfterFrameset) := by
    rw [byMode, h.mode]
    rfl
  have hbehind := h.enter .afterAfterFrameset
  rw [branches_read_rootEnd h.content h.skipLineFeed (h.settlesIn hspace hrule)
    (hbehind.settlesIn hspace (by rw [byMode, hbehind.mode]; rfl))]
  exact h.tree.branches

end Construction.Builder

/-! ### The nodes of the outermost element -/

open Construction

/-- Whether nodes are read again behind a head. -/
def behindHeadFits (nodes : List Node) : Bool :=
  areLoose (nodes.takeWhile Node.isLoose) &&
    match nodes.dropWhile Node.isLoose with
    | .element name attributes inside :: behind =>
      if name = Region.body.element then Region.body.fits attributes inside && areComments behind
      else decide (name = Region.frameset.element) && Region.frameset.fits attributes inside && areLoose behind
    | _ => false

/-- Whether nodes are read again in the outermost element. -/
def documentFits (nodes : List Node) : Bool :=
  areComments (nodes.takeWhile Node.isLoose) &&
    match nodes.dropWhile Node.isLoose with
    | .element name attributes inside :: behind =>
      decide (name = Region.head.element) && Region.head.fits attributes inside && behindHeadFits behind
    | _ => false

theorem exists_of_behindHeadFits {nodes : List Node} (h : behindHeadFits nodes = true) :
    ∃ (loose : List Node) (region : Region) (attributes : List Attribute) (inside behind : List Node),
      nodes = loose ++ .element region.element attributes inside :: behind ∧ areLoose loose = true ∧
      region.fits attributes inside = true ∧
      (region = .body ∧ areComments behind = true ∨ region = .frameset ∧ areLoose behind = true) := by
  rw [behindHeadFits, Bool.and_eq_true] at h
  obtain ⟨hloose, h⟩ := h
  have hsplit := List.takeWhile_append_dropWhile (p := Node.isLoose) (l := nodes)
  generalize nodes.takeWhile Node.isLoose = loose at hloose hsplit
  generalize nodes.dropWhile Node.isLoose = rest at h hsplit
  subst hsplit
  match rest, h with
  | .element name attributes inside :: behind, h =>
      dsimp only at h
      split at h
      · rename_i hname
        rw [Bool.and_eq_true] at h
        exact ⟨loose, .body, attributes, inside, behind, by rw [hname], hloose, h.1, Or.inl ⟨rfl, h.2⟩⟩
      · rw [Bool.and_eq_true, Bool.and_eq_true, decide_eq_true_eq] at h
        exact ⟨loose, .frameset, attributes, inside, behind, by rw [h.1.1], hloose, h.1.2, Or.inr ⟨rfl, h.2⟩⟩

theorem exists_of_documentFits {nodes : List Node} (h : documentFits nodes = true) :
    ∃ comments attributes inside behind,
      nodes = comments ++ .element Region.head.element attributes inside :: behind ∧
      areComments comments = true ∧ Region.head.fits attributes inside = true ∧ behindHeadFits behind = true := by
  rw [documentFits, Bool.and_eq_true] at h
  obtain ⟨hcomments, h⟩ := h
  have hsplit := List.takeWhile_append_dropWhile (p := Node.isLoose) (l := nodes)
  generalize nodes.takeWhile Node.isLoose = comments at hcomments hsplit
  generalize nodes.dropWhile Node.isLoose = rest at h hsplit
  subst hsplit
  match rest, h with
  | .element name attributes inside :: behind, h =>
      dsimp only at h
      rw [Bool.and_eq_true, Bool.and_eq_true, decide_eq_true_eq] at h
      exact ⟨comments, attributes, inside, behind, by rw [h.1.1], hcomments, h.1.2, h.2⟩

namespace Construction.Builder

theorem markupOf_append (first second : List Node) :
    markupOf (first ++ second) = markupOf first ++ markupOf second := by
  induction first with
  | nil => rfl
  | cons node rest ih => rw [List.cons_append, markupOf, markupOf, ih, List.append_assoc]

/-- The start tag of a region ends a text. -/
theorem endsText_region {region : Region} {attributes : List Attribute} {inside : List Node}
    (rest : List Char) : EndsText ((Node.element region.element attributes inside).markup ++ rest) := by
  have hname : isTagName (lower (Tag.ofElement region.element attributes).name.toList) = true := by
    change isTagName (lower region.name.toList) = true
    cases region <;> decide
  rw [markup_region, List.cons_append, List.append_assoc]
  exact Lexer.endsText_startTag hname _

/-- Behind the head, the nodes of the outermost element are read back up to its end tag. -/
theorem Bare.exists_behindHead {f : Frame} {inside : List Branch} (h : Bare .afterHead [r] (f.filled inside) b)
    (hf : f.name = Region.head.element) (hr : r.name = ⟨.html, "html"⟩) (hfits : behindHeadFits nodes = true) :
    ∃ branches, Branch.toNodes branches = Branch.toNodes (f.filled inside) ++ nodes ∧
      (b.read (markupOf nodes ++ endTagText "html")).branches = nest [r] branches := by
  obtain ⟨loose, region, attributes, regionNodes, behind, rfl, hloose, hregion, hbehind⟩ :=
    exists_of_behindHeadFits hfits
  obtain ⟨branches, b₁, hbare, htoNodes, hread⟩ := h.exists_looseNodes hr (by decide) hloose
    (fun hmode => by cases hmode) (fun _ => endsInText_filled hf inside)
  have hmodeBefore : region.modeBefore = .afterHead := by
    rcases hbehind with ⟨rfl, -⟩ | ⟨rfl, -⟩ <;> rfl
  obtain ⟨g, regionInside, b₂, hbefore, hg, hattributes, hclosed, hregionNodes, hreadRegion⟩ :=
    exists_region (leads_self 0 _ b₁) (by decide) hbare.content hbare.skipLineFeed (hmodeBefore ▸ hbare) hr hregion
  have hreads : b.read (markupOf (loose ++ .element region.element attributes regionNodes :: behind) ++
      endTagText "html") = b₂.read (markupOf behind ++ endTagText "html") := by
    rw [markupOf_append, markupOf, List.append_assoc, List.append_assoc, hread _ (endsText_region _), hreadRegion]
  -- what follows is read behind the body, which is still open, or behind the frameset
  obtain ⟨last, hlast, hbranches⟩ : ∃ last, Branch.toNodes last = behind ∧
      (b₂.read (markupOf behind ++ endTagText "html")).branches = nest [r] (g.filled regionInside ++ last) := by
    rcases hbehind with ⟨rfl, hcomments⟩ | ⟨rfl, hbehindLoose⟩
    · have htrails : Trails r (g.filled regionInside) b₂ := Bare.trails hclosed (by rw [hg]; rfl)
      obtain ⟨last, b₃, htrails', hlast, hreadLast⟩ := htrails.exists_comments hr hcomments
      exact ⟨last, hlast, by rw [hreadLast, htrails'.branches_read]⟩
    · have hbare' : Bare .afterFrameset [r] (g.filled regionInside) b₂ := hclosed
      obtain ⟨last, b₃, hbare₃, hlast, hreadLast⟩ := hbare'.exists_looseNodes hr (by decide) hbehindLoose
        (fun hmode => by cases hmode) (fun _ => endsInText_filled hg regionInside)
      have hendTag := Lexer.endsText_endTag (by decide : isTagName (lower "html".toList) = true) []
      rw [List.append_nil] at hendTag
      exact ⟨last, hlast, by rw [hreadLast _ hendTag, hbare₃.branches_read hr]⟩
  refine ⟨g.filled regionInside ++ last, ?_, hreads ▸ hbranches⟩
  rw [Branch.toNodes_append, toNodes_filled hg hregionNodes, hbefore, Branch.toNodes_append, htoNodes, hattributes,
    hlast, List.append_assoc, List.append_assoc, List.singleton_append]

/-- The outermost element is read back with its nodes. -/
theorem toNodes_read_outermost {attributes : List Attribute}
    (hwritable : isWritable ⟨.html, "html"⟩ attributes = true)
    (hplain : isPlainElement ⟨.html, "html"⟩ attributes = true) (hfits : documentFits nodes = true) :
    Branch.toNodes ((default : Builder).read (Node.element ⟨.html, "html"⟩ attributes nodes).markup).branches =
      [.element ⟨.html, "html"⟩ attributes nodes] := by
  obtain ⟨htagname, hattributes⟩ := of_isPlainElement hplain
  obtain ⟨comments, headAttributes, headNodes, behind, rfl, hcomments, hhead, hbehind⟩ :=
    exists_of_documentFits hfits
  obtain ⟨b, hbare, hsettles⟩ := exists_root_of_tag htagname
  rw [hattributes] at hbare
  have hstart : (default : Builder).handle (.startTag (Tag.reread ⟨.html, "html"⟩ attributes)) = b :=
    handle_of_settlesIn hsettles (by decide)
  obtain ⟨branches, b₁, hbare₁, htoNodes, hread⟩ := hbare.exists_looseNodes rfl (by decide)
    (areLoose_of_areComments hcomments) (fun _ => hcomments) (fun _ => rfl)
  rw [List.nil_append] at hbare₁
  have hbeforeHead : Bare Region.head.modeBefore [rootFrame attributes] branches b₁ := hbare₁
  obtain ⟨f, inside, b₂, hbefore, hf, hheadAttributes, hclosed, hheadNodes, hreadHead⟩ :=
    exists_region (leads_self 0 _ b₁) (by decide) hbare₁.content hbare₁.skipLineFeed hbeforeHead rfl hhead
  obtain ⟨all, hall, hbranches⟩ := Bare.exists_behindHead hclosed hf rfl hbehind
  have hmarkup : ∀ nodes, (Node.element ⟨.html, "html"⟩ attributes nodes).markup =
      '<' :: ((Tag.ofElement ⟨.html, "html"⟩ attributes).text ++ (markupOf nodes ++ endTagText "html")) := by
    intro nodes
    rw [Node.markup]
    rfl
  have hreads : (default : Builder).read (Node.element ⟨.html, "html"⟩ attributes
      (comments ++ .element Region.head.element headAttributes headNodes :: behind)).markup =
      b₂.read (markupOf behind ++ endTagText "html") := by
    rw [hmarkup, read_startTagText rfl (isReadable_reread hwritable)]
    refine (congrArg (read · _) hstart).trans ?_
    rw [markupOf_append, markupOf, List.append_assoc, List.append_assoc, hread _ (endsText_region _), hreadHead]
  rw [hreads, hbranches, toNodes_nest_rootFrame, hall, toNodes_filled hf hheadNodes, hbefore, htoNodes,
    hheadAttributes, List.append_assoc, List.singleton_append]

/-! ### The source -/

theorem isWrittenClean_of_isLoose (h : node.isLoose = true) : IsWrittenClean node := by
  cases node with
  | text content =>
      rw [Node.isLoose, Bool.and_eq_true, decide_eq_true_eq] at h
      exact isWrittenClean_text h.1.2
  | comment content =>
      rw [Node.isLoose, Bool.and_eq_true, decide_eq_true_eq] at h
      exact isWrittenClean_comment h.1
  | element | doctype | contents => cases h

theorem isWrittenClean_of_areLoose (h : areLoose nodes = true) : ∀ node ∈ nodes, IsWrittenClean node := by
  induction nodes with
  | nil => exact fun node hnode => absurd hnode List.not_mem_nil
  | cons node rest ih =>
      rw [areLoose, Bool.and_eq_true, Bool.and_eq_true] at h
      exact List.forall_mem_cons.mpr ⟨isWrittenClean_of_isLoose h.1.1, ih h.2⟩

theorem isWrittenClean_of_documentFits (h : documentFits nodes = true) : ∀ node ∈ nodes, IsWrittenClean node := by
  obtain ⟨comments, headAttributes, headNodes, behindHead, rfl, hcomments, hhead, hbehindHead⟩ :=
    exists_of_documentFits h
  obtain ⟨loose, region, attributes, inside, behind, rfl, hloose, hregion, hbehind⟩ :=
    exists_of_behindHeadFits hbehindHead
  have hbehindLoose : areLoose behind = true := by
    rcases hbehind with ⟨-, hcomments⟩ | ⟨-, hbehindLoose⟩
    · exact areLoose_of_areComments hcomments
    · exact hbehindLoose
  rw [List.forall_mem_append, List.forall_mem_cons, List.forall_mem_append, List.forall_mem_cons]
  exact ⟨isWrittenClean_of_areLoose (areLoose_of_areComments hcomments), isWrittenClean_region hhead,
    isWrittenClean_of_areLoose hloose, isWrittenClean_region hregion, isWrittenClean_of_areLoose hbehindLoose⟩

end Construction.Builder

end MarkupModule.Markup
