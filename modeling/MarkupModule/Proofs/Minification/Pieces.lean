import MarkupModule.Proofs.Minification.OnePass
import MarkupModule.Proofs.Minification.Styles
import MarkupModule.Proofs.Text.Words

/-! What is written piece by piece. Every element, text and comment that the writer comes to and does not
drop leaves a piece in document order, and nothing else is written but end tags and the text of elements
that hold no markup. The piece of a text has its solid characters, and a class has its words, but where
trimming took away more than white space of markup. -/

namespace MarkupModule.Markup

open MarkupModule.Text

namespace Located

def tag (located : Located) : String :=
  located.node.tag?.getD ""

/-- The characters of a text; other nodes have none. -/
def content (located : Located) : List Char :=
  (located.node.text?.getD "").toList

/-- Whether an element that keeps its white space stands at a root or between it and a node. -/
def keepsSpace (root located : Located) : Bool :=
  (subtree root.address root.node).any fun other =>
    decide (other.address <+: located.address) && other.node.tag?.any keepsWhitespace

end Located

/-- A piece of what is written of a tree. -/
inductive WrittenPiece where
  | start (element : Located) (written : List Attribute)
  | raw (element : Located) (body : List Char)
  | finish (element : Located)
  | comment (located : Located)
  | text (located : Located) (written : List Char)

namespace WrittenPiece

def source : WrittenPiece → List Char
  | start element written => '<' :: (Tag.ofElement ⟨.html, element.tag⟩ written).text
  | raw _ body => body
  | finish element => endTagText element.tag
  | comment located => located.node.markup
  | text _ written => escapeText written

/-- The node that a piece is the first one of. -/
def node? : WrittenPiece → Option Located
  | start element _ => some element
  | comment located => some located
  | text located _ => some located
  | raw _ _ => none
  | finish _ => none

end WrittenPiece

namespace Writer

variable (w : Writer)

/-- Whether a node leaves a piece when it is written. -/
def shows (node : Node) : Bool :=
  node.isPlain && !w.minification.dropsComment node

/-- The nodes that leave a piece when a writer begins at a root, in document order. -/
def shown (root : Located) : List Located :=
  (subtree root.address root.node).filter fun located => w.Writes root located ∧ w.shows located.node = true

/-- Whether a text is dropped although it has solid characters. -/
def losesText (preserve : Bool) (root located : Located) : Bool :=
  w.minification.collapseWhitespace && !(preserve || root.keepsSpace located) &&
    w.minification.dropsText located.node && !(solid located.content).isEmpty

/-- Whether trimming takes away solid characters of a class. -/
def losesClass (a : Attribute) : Bool :=
  w.minification.collapseWhitespace && a.name == "class" && !(margins a.value.toList).all isSpace

/-- An attribute as it is written. A class keeps its words unless it loses solid characters. -/
structure KeepsWords (a written : Attribute) : Prop where
  minified : w.minifiedAttribute a = .ok written
  words_iff : a.name = "class" →
    (words written.value.toList = words a.value.toList ↔ w.losesClass a = false)

/-- What is known of a piece that is written when a writer begins at a root. -/
def Accounts (preserve : Bool) (root : Located) : WrittenPiece → Prop
  | .start element written => List.Forall₂ w.KeepsWords element.node.attributes written
  | .raw element body => w.minifiedBody element.tag (w.sheetText element) = .ok body
  | .text located written =>
    (solid (Reference.resolve false (escapeText written)) = solid located.content ↔
      w.losesText preserve root located = false) ∧
      (w.losesText preserve root located = true → written = [])
  | .comment _ => True
  | .finish _ => True

/-- Pieces as a writer puts them when it begins at a root. -/
structure PutsPieces (preserve : Bool) (root : Located) (pieces : List WrittenPiece) : Prop where
  nodes_eq : pieces.filterMap WrittenPiece.node? = w.shown root
  accounts : ∀ piece ∈ pieces, w.Accounts preserve root piece

variable {w}

/-! ### Nodes that leave a piece -/

section Shown

variable {root child located : Located}

theorem mem_subtree_of_mem_shown (h : located ∈ w.shown root) :
    located ∈ subtree root.address root.node :=
  (List.mem_filter.mp h).1

theorem shown_of_skips (w : Writer) (root : Located) (h : w.skips root.address = true) :
    w.shown root = [] := by
  refine List.filter_eq_nil_iff.mpr fun located hlocated => ?_
  rw [decide_eq_true_iff]
  rintro ⟨hwrites, -⟩
  have hroot := hwrites root (mem_subtree_self root) (address_isPrefix_of_mem_subtree hlocated)
  rw [h] at hroot
  cases hroot.1

/-- A node comes before its children, which are written where markup may stand. -/
theorem shown_of_not_skips (w : Writer) (root : Located) (h : w.skips root.address = false) :
    w.shown root = (if w.shows root.node then [root] else []) ++
      if root.node.holdsMarkup then root.children.flatMap w.shown else [] := by
  rw [shown, subtree_eq_flatMap, List.filter_cons, List.filter_flatMap]
  have hself : (decide (w.Writes root root ∧ w.shows root.node = true)) = w.shows root.node := by
    simp [writes_self_iff.mpr h]
  have hbelow : (root.children.flatMap fun child => (subtree child.address child.node).filter fun located =>
      decide (w.Writes root located ∧ w.shows located.node = true)) =
        if root.node.holdsMarkup then root.children.flatMap w.shown else [] := by
    cases hmarkup : root.node.holdsMarkup with
    | true =>
        refine List.flatMap_congr fun child hchild => List.filter_congr fun located hlocated => ?_
        simp [writes_child_iff hchild hlocated, h, hmarkup]
    | false =>
        refine List.flatMap_eq_nil_iff.mpr fun child hchild => List.filter_eq_nil_iff.mpr ?_
        intro located hlocated
        simp [writes_child_iff hchild hlocated, hmarkup]
  rw [hself, hbelow]
  cases w.shows root.node <;> rfl

/-- What stands between a root and a node below one of its children is the root, or stands between the child
and the node. -/
theorem mem_subtree_isPrefix_iff {other : Located} (hchild : child ∈ root.children)
    (hlocated : located ∈ subtree child.address child.node) :
    (other ∈ subtree root.address root.node ∧ other.address <+: located.address) ↔
      other = root ∨ other ∈ subtree child.address child.node ∧ other.address <+: located.address := by
  have hleads := address_isPrefix_of_mem_subtree hlocated
  rw [subtree_eq_flatMap, List.mem_cons, List.mem_flatMap]
  constructor
  · rintro ⟨rfl | ⟨child', hchild', hother⟩, hprefix⟩
    · exact Or.inl rfl
    · have hleads' := (address_isPrefix_of_mem_subtree hother).trans hprefix
      obtain ⟨i, hi, hnode⟩ := mem_children.mp hchild
      obtain ⟨j, hj, hnode'⟩ := mem_children.mp hchild'
      have haddress : child'.address = child.address :=
        (List.prefix_of_prefix_length_le hleads' hleads (by simp [hi, hj])).eq_of_length (by simp [hi, hj])
      obtain rfl : j = i := by simpa [hi, hj] using haddress
      obtain rfl : child' = child := by
        cases child
        cases child'
        simp_all
      exact Or.inr ⟨hother, hprefix⟩
  · rintro (rfl | ⟨hother, hprefix⟩)
    · obtain ⟨i, hi, -⟩ := mem_children.mp hchild
      exact ⟨Or.inl rfl, List.IsPrefix.trans ⟨[i], hi.symm⟩ hleads⟩
    · exact ⟨Or.inr ⟨child, hchild, hother⟩, hprefix⟩

/-- White space is kept below a child by its parent, or from the child on. -/
theorem keepsSpace_child (hchild : child ∈ root.children)
    (hlocated : located ∈ subtree child.address child.node) :
    root.keepsSpace located = (root.node.tag?.any keepsWhitespace || child.keepsSpace located) := by
  rw [Bool.eq_iff_iff, Bool.or_eq_true]
  simp only [Located.keepsSpace, List.any_eq_true, Bool.and_eq_true, decide_eq_true_eq]
  constructor
  · rintro ⟨other, hother, hprefix, hkeeps⟩
    rcases (mem_subtree_isPrefix_iff hchild hlocated).mp ⟨hother, hprefix⟩ with rfl | ⟨hother, hprefix⟩
    · exact Or.inl hkeeps
    · exact Or.inr ⟨other, hother, hprefix, hkeeps⟩
  · rintro (hkeeps | ⟨other, hother, hprefix, hkeeps⟩)
    · obtain ⟨hroot, hprefix⟩ := (mem_subtree_isPrefix_iff hchild hlocated).mpr (Or.inl rfl)
      exact ⟨root, hroot, hprefix, hkeeps⟩
    · obtain ⟨hother, hprefix⟩ := (mem_subtree_isPrefix_iff hchild hlocated).mpr (Or.inr ⟨hother, hprefix⟩)
      exact ⟨other, hother, hprefix, hkeeps⟩

end Shown

/-! ### Attributes -/

theorem minifiedAttribute_class {a : Attribute} (h : a.name = "class") :
    w.minifiedAttribute a = .ok { a with value :=
      if w.minification.collapseWhitespace then String.ofList (collapse (trim a.value.toList))
      else a.value } := by
  have hstyle : a.name ≠ "style" := by
    rw [h]
    decide
  rw [minifiedAttribute, if_neg fun hminified => hstyle hminified.1]
  by_cases hcollapse : w.minification.collapseWhitespace = true
  · rw [if_pos ⟨h, hcollapse⟩, if_pos hcollapse]
  · rw [if_neg fun hclass => hcollapse hclass.2, if_neg hcollapse]

theorem keepsWords_of_minifiedAttribute {a written : Attribute} (h : w.minifiedAttribute a = .ok written) :
    w.KeepsWords a written := by
  refine ⟨h, fun hclass => ?_⟩
  rw [minifiedAttribute_class hclass] at h
  obtain rfl := Except.ok.inj h
  rw [losesClass, hclass]
  cases w.minification.collapseWhitespace with
  | false => simp
  | true => simpa using words_collapse_trim_iff

theorem forall₂_of_mapM_eq_ok {ε α β : Type} {f : α → Except ε β} {items : List α} {results : List β}
    (h : items.mapM f = .ok results) :
    List.Forall₂ (fun item result => f item = .ok result) items results := by
  induction items generalizing results with
  | nil =>
      obtain rfl := Except.ok.inj h
      exact List.Forall₂.nil
  | cons item rest ih =>
      rw [List.mapM_cons] at h
      obtain ⟨first, hfirst, h⟩ := bind_eq_ok_iff.mp h
      obtain ⟨others, hothers, h⟩ := bind_eq_ok_iff.mp h
      obtain rfl := Except.ok.inj h
      exact List.Forall₂.cons hfirst (ih hothers)

/-! ### Pieces -/

/-- A text puts its own piece. -/
theorem exists_of_writeText (w : Writer) (preserve : Bool) {root : Located} {content : String}
    (hroot : root.node = .text content) (out : List Char) :
    ∃ written, w.writeText preserve out content = put (escapeText written) out ∧
      w.Accounts preserve root (.text root written) := by
  have hcontent : root.content = content.toList := by rw [Located.content, hroot]; rfl
  have hspace : root.keepsSpace root = false := by simp [Located.keepsSpace, hroot, subtree, Node.tag?]
  have hloses : w.losesText preserve root root = (w.minification.collapseWhitespace && !preserve &&
      w.minification.dropsText (.text content) && !(solid content.toList).isEmpty) := by
    rw [losesText, hcontent, hspace, hroot, Bool.or_false]
  simp only [Accounts, hloses, hcontent, Reference.resolve_escapeText]
  cases hkeeps : preserve || !w.minification.collapseWhitespace with
  | true =>
      refine ⟨content.toList, writeText_of_keeps hkeeps out content, ?_⟩
      rw [Bool.or_eq_true, Bool.not_eq_true'] at hkeeps
      rcases hkeeps with rfl | hcollapse
      · simp
      · simp [hcollapse]
  | false =>
      have hwritten := writeText_of_collapses hkeeps out content
      obtain ⟨rfl, hcollapse⟩ := Bool.or_eq_false_iff.mp hkeeps
      rw [Bool.not_eq_false'] at hcollapse
      cases hdrops : w.minification.dropsText (.text content) with
      | true =>
          rw [hdrops, if_pos rfl] at hwritten
          refine ⟨[], hwritten, ?_⟩
          cases hsolid : solid content.toList <;> simp [hcollapse, solid]
      | false =>
          rw [hdrops, if_neg Bool.false_ne_true] at hwritten
          exact ⟨_, hwritten, by simp [hcollapse, solid_collapseBehind]⟩

/-- What is known of a piece from a child on is known of it from the parent on. -/
theorem Accounts.of_child {preserve : Bool} {root child : Located} {piece : WrittenPiece}
    (hchild : child ∈ root.children)
    (hpiece : ∀ located, piece.node? = some located → located ∈ subtree child.address child.node)
    (h : w.Accounts (preserve || root.node.tag?.any keepsWhitespace) child piece) :
    w.Accounts preserve root piece := by
  cases piece with
  | text located written =>
      have hspace := keepsSpace_child hchild (hpiece located rfl)
      simp only [Accounts, losesText, hspace, ← Bool.or_assoc] at h ⊢
      exact h
  | start | raw | finish | comment => exact h

theorem exists_pieces_of_nodes {nodes : List Node}
    (h : ∀ node ∈ nodes, ∀ {preserve address out out'}, w.writeNode preserve address out node = .ok out' →
      ∃ pieces : List WrittenPiece, out' = put (pieces.flatMap WrittenPiece.source) out ∧
        w.PutsPieces preserve ⟨address, node⟩ pieces)
    {preserve : Bool} {address : Address} {start : Nat} {out out' : List Char}
    (hwritten : w.writeNodes preserve address start out nodes = .ok out') :
    ∃ pieces : List WrittenPiece, out' = put (pieces.flatMap WrittenPiece.source) out ∧
      pieces.filterMap WrittenPiece.node? = (locate address start nodes).flatMap w.shown ∧
      ∀ piece ∈ pieces, ∃ child ∈ locate address start nodes, w.Accounts preserve child piece ∧
        ∀ located, piece.node? = some located → located ∈ subtree child.address child.node := by
  induction nodes generalizing start out with
  | nil =>
      obtain rfl := Except.ok.inj hwritten
      exact ⟨[], rfl, rfl, List.forall_mem_nil _⟩
  | cons node rest ih =>
      rw [List.forall_mem_cons] at h
      rw [writeNodes_cons] at hwritten
      obtain ⟨between, hnode, hrest⟩ := bind_eq_ok_iff.mp hwritten
      obtain ⟨first, rfl, hfirst⟩ := h.1 hnode
      obtain ⟨others, rfl, hnodes, hothers⟩ := ih h.2 hrest
      refine ⟨first ++ others, ?_, ?_, ?_⟩
      · rw [List.flatMap_append, put_append]
      · rw [List.filterMap_append, hfirst.nodes_eq, hnodes, locate, List.flatMap_cons]
      · intro piece hpiece
        rw [locate]
        rcases List.mem_append.mp hpiece with hpiece | hpiece
        · refine ⟨_, List.mem_cons_self, hfirst.accounts piece hpiece, fun located hlocated => ?_⟩
          apply mem_subtree_of_mem_shown (w := w)
          rw [← hfirst.nodes_eq]
          exact List.mem_filterMap.mpr ⟨piece, hpiece, hlocated⟩
        · obtain ⟨child, hchild, hknown⟩ := hothers piece hpiece
          exact ⟨child, List.mem_cons_of_mem _ hchild, hknown⟩

/-- What it means that the children of a node are written in pieces. -/
def PutsBelow (w : Writer) (root : Located) : Prop :=
  ∀ {preserve : Bool} {out out' : List Char},
    w.writeNodes (preserve || root.node.tag?.any keepsWhitespace) root.address 0 out root.node.children =
      .ok out' →
    ∃ pieces : List WrittenPiece, out' = put (pieces.flatMap WrittenPiece.source) out ∧
      pieces.filterMap WrittenPiece.node? = root.children.flatMap w.shown ∧
      ∀ piece ∈ pieces, w.Accounts preserve root piece

section Element

variable {address : Address} {name : ElementName} {attributes : List Attribute} {children : List Node}
  (hbelow : w.PutsBelow ⟨address, .element name attributes children⟩)
include hbelow

/-- What an element holds is written in pieces. -/
theorem exists_pieces_of_writeInside {preserve : Bool} {out out' : List Char}
    (h : w.writeInside preserve address name.name out children = .ok out')
    (hvoid : voidNames.contains name.name = false) :
    ∃ pieces : List WrittenPiece, out' = put (pieces.flatMap WrittenPiece.source) out ∧
      pieces.filterMap WrittenPiece.node? =
        (if (Node.element name attributes children).holdsMarkup then
          (Located.mk address (.element name attributes children)).children.flatMap w.shown else []) ∧
      ∀ piece ∈ pieces, w.Accounts preserve ⟨address, .element name attributes children⟩ piece := by
  have hmarkup : (Node.element name attributes children).holdsMarkup = !rawTextNames.contains name.name := by
    rw [Node.holdsMarkup, Node.tag?, Option.any_some, hvoid, Bool.false_or]
  rw [writeInside] at h
  rw [hmarkup]
  cases hraw : rawTextNames.contains name.name with
  | true =>
      rw [hraw, if_pos rfl] at h
      obtain ⟨body, hbody, rfl⟩ := map_eq_ok_iff.mp h
      rw [rawBody_eq, rawText_eq_textOf] at hbody
      exact ⟨[.raw ⟨address, .element name attributes children⟩ body], by simp [WrittenPiece.source], rfl,
        List.forall_mem_singleton.mpr hbody⟩
  | false =>
      rw [hraw, if_neg Bool.false_ne_true] at h
      exact hbelow h

theorem exists_pieces_element {preserve : Bool} {out out' : List Char} (hskips : w.skips address = false)
    (h : w.writeNode preserve address out (.element name attributes children) = .ok out') :
    ∃ pieces : List WrittenPiece, out' = put (pieces.flatMap WrittenPiece.source) out ∧
      w.PutsPieces preserve ⟨address, .element name attributes children⟩ pieces := by
  have hshown := shown_of_not_skips w ⟨address, .element name attributes children⟩ hskips
  have hshows : w.shows (.element name attributes children) = true := rfl
  rw [hshows, if_pos rfl] at hshown
  rw [writeNode_element, hskips, if_neg Bool.false_ne_true, writeAttributes_eq] at h
  obtain ⟨opened, hopened, h⟩ := bind_eq_ok_iff.mp h
  obtain ⟨written, hwritten, rfl⟩ := map_eq_ok_iff.mp hopened
  have hstart : w.Accounts preserve ⟨address, .element name attributes children⟩
      (.start ⟨address, .element name attributes children⟩ written) :=
    (forall₂_of_mapM_eq_ok hwritten).imp fun _ _ => keepsWords_of_minifiedAttribute
  rw [put_startTag] at h
  cases hvoid : voidNames.contains name.name with
  | true =>
      rw [hvoid, if_pos rfl] at h
      obtain rfl := Except.ok.inj h
      refine ⟨[.start ⟨address, .element name attributes children⟩ written], ?_, ?_, by simpa using hstart⟩
      · simp [WrittenPiece.source, Located.tag, Node.tag?, Tag.ofElement]
      · have hmarkup : (Node.element name attributes children).holdsMarkup = false := by
          rw [Node.holdsMarkup, Node.tag?, Option.any_some, hvoid, Bool.true_or, Bool.not_true]
        rw [hshown, hmarkup]
        rfl
  | false =>
      rw [hvoid, if_neg Bool.false_ne_true] at h
      obtain ⟨inside, hinside, rfl⟩ := map_eq_ok_iff.mp h
      obtain ⟨pieces, rfl, hnodes, hpieces⟩ := exists_pieces_of_writeInside hbelow hinside hvoid
      refine ⟨.start ⟨address, .element name attributes children⟩ written :: pieces ++
        [.finish ⟨address, .element name attributes children⟩], ?_, ?_, ?_⟩
      · simp [WrittenPiece.source, Located.tag, Node.tag?, Tag.ofElement, put, endTagText]
      · rw [hshown, ← hnodes, List.cons_append, List.filterMap_cons, List.filterMap_append]
        simp [WrittenPiece.node?]
      · simp only [List.cons_append, List.forall_mem_cons, List.forall_mem_append]
        exact ⟨hstart, hpieces, trivial, List.forall_mem_nil _⟩

end Element

/-- A node is written in pieces, one for each node at or below it that leaves one. -/
theorem exists_pieces {preserve : Bool} {address : Address} {node : Node} {out out' : List Char}
    (hwritten : w.writeNode preserve address out node = .ok out') :
    ∃ pieces : List WrittenPiece, out' = put (pieces.flatMap WrittenPiece.source) out ∧
      w.PutsPieces preserve ⟨address, node⟩ pieces := by
  induction node using Node.childInduction generalizing preserve address out out' with
  | step node ih =>
      have hbelow : w.PutsBelow ⟨address, node⟩ := by
        intro preserve out out' h
        obtain ⟨pieces, hout, hnodes, hpieces⟩ :=
          exists_pieces_of_nodes (fun child hchild => ih child hchild) h
        refine ⟨pieces, hout, hnodes, fun piece hpiece => ?_⟩
        obtain ⟨child, hchild, haccounts, hbelow⟩ := hpieces piece hpiece
        exact haccounts.of_child hchild hbelow
      cases hskips : w.skips address with
      | true =>
          rw [writeNode_of_skips hskips] at hwritten
          obtain rfl := Except.ok.inj hwritten
          exact ⟨[], rfl, (shown_of_skips w ⟨address, node⟩ hskips).symm, List.forall_mem_nil _⟩
      | false =>
          have hshown := shown_of_not_skips w ⟨address, node⟩ hskips
          cases node with
          | element name attributes children => exact exists_pieces_element hbelow hskips hwritten
          | text content =>
              rw [writeNode, hskips, if_neg Bool.false_ne_true] at hwritten
              obtain rfl := Except.ok.inj hwritten
              have hroot : (Located.mk address (.text content)).node = .text content := rfl
              obtain ⟨written, hput, haccounts⟩ := exists_of_writeText w preserve hroot out
              refine ⟨[.text ⟨address, .text content⟩ written], by simpa [WrittenPiece.source] using hput, ?_,
                by simpa using haccounts⟩
              rw [hshown]
              rfl
          | comment content =>
              rw [writeNode, hskips, if_neg Bool.false_ne_true, writeComment_eq] at hwritten
              obtain rfl := Except.ok.inj hwritten
              have hshows : w.shows (.comment content) =
                  !w.minification.dropsComment (.comment content) := rfl
              rw [hshows] at hshown
              cases hdrops : w.minification.dropsComment (.comment content) with
              | true =>
                  rw [hdrops] at hshown
                  exact ⟨[], rfl, hshown.symm, List.forall_mem_nil _⟩
              | false =>
                  rw [hdrops] at hshown
                  refine ⟨[.comment ⟨address, .comment content⟩], ?_, hshown.symm, ?_⟩
                  · simp [WrittenPiece.source]
                  · simp [Accounts]
          | doctype name publicId systemId =>
              obtain rfl := Except.ok.inj hwritten
              exact ⟨[], rfl, hshown.symm, List.forall_mem_nil _⟩
          | contents children =>
              rw [writeNode, hskips, if_neg Bool.false_ne_true] at hwritten
              rw [← Bool.or_false preserve] at hwritten
              obtain ⟨pieces, hout, hnodes, hpieces⟩ := hbelow hwritten
              exact ⟨pieces, hout, hnodes.trans hshown.symm, hpieces⟩

/-- The markup of a node consists of pieces, one for each node that is written, in document order. A text
has all of its solid characters in its piece once references are resolved, unless it is dropped as blank
while it has some; a class has its words, unless trimming takes away solid characters. -/
theorem write_inPieces {root : Located} {markup : String} (h : w.write root = .ok markup) :
    ∃ pieces : List WrittenPiece, markup.toList = pieces.flatMap WrittenPiece.source ∧
      w.PutsPieces false root pieces := by
  obtain ⟨out, hout, rfl⟩ := map_eq_ok_iff.mp h
  obtain ⟨pieces, rfl, hpieces⟩ := exists_pieces hout
  exact ⟨pieces, by simp [put], hpieces⟩

theorem write_inPieces_divisionWithTemplate :
    withoutScript.write ⟨[0], divisionWithTemplate⟩ = .ok divisionMarkup ∧
    ∃ pieces : List WrittenPiece, divisionMarkup.toList = pieces.flatMap WrittenPiece.source ∧
      withoutScript.PutsPieces false ⟨[0], divisionWithTemplate⟩ pieces :=
  have h : withoutScript.write ⟨[0], divisionWithTemplate⟩ = .ok divisionMarkup := by
    decide +kernel
  ⟨h, write_inPieces h⟩

/-- A no-break space is part of a word and is trimmed off a class. It is solid, and a text of it alone is
dropped where blank texts are. -/
theorem not_write_keepsSolid :
    (Writer.mk {} ⟨.ok, .ok⟩ fun _ => false).write
        ⟨[0], .element ⟨.html, "p"⟩ [⟨.plain, "class", "\u00a0a"⟩] []⟩ = .ok "<p class=\"a\"></p>" ∧
    words "a".toList ≠ words "\u00a0a".toList ∧
    (Writer.mk { conservativeCollapse := false } ⟨.ok, .ok⟩ fun _ => false).write
        ⟨[0], .element ⟨.html, "p"⟩ [] [.text "\u00a0"]⟩ = .ok "<p></p>" ∧
    solid "\u00a0".toList ≠ [] := by
  decide +kernel

end Writer

end MarkupModule.Markup
