import MarkupModule.Proofs.Minification.Collapse
import MarkupModule.Proofs.ModuleText.Statements

/-! One pass does what the stages do. The writer leaves nodes out, drops comments, minifies styles and
collapses white space all at once; what it writes is what the stages leave of the node, and it fails where
they do. The stage that leaves nodes out is taken off first, because it splices the contents of templates
into the list of siblings that they stand in. What is left then holds elements, texts and comments only,
and what is written behind the siblings before them depends on those by one bit, whether a space was
written last. -/

namespace MarkupModule.Markup

open MarkupModule.Text

/-! ### What remains -/

def Node.isContents : Node → Bool
  | .contents _ => true
  | _ => false

/-- Whether a node is a template if the contents of a template stand in it. -/
def Node.keepsContents : Node → Bool
  | .element name _ children => name.name == "template" || !children.any isContents
  | _ => true

/-- Elements, texts and comments. -/
def Node.isPlain : Node → Bool
  | .element _ _ _ => true
  | .text _ => true
  | .comment _ => true
  | .doctype _ _ _ => false
  | .contents _ => false

/-- An element that holds no markup holds no contents of a template either. -/
theorem any_isContents_of_rawText {name : ElementName} {attributes : List Attribute} {children : List Node}
    (h : (Node.element name attributes children).keepsContents = true)
    (hraw : rawTextNames.contains name.name = true) : children.any Node.isContents = false := by
  have hne : name.name ≠ "template" := by
    intro htemplate
    rw [htemplate] at hraw
    exact absurd hraw (by decide)
  rwa [Node.keepsContents, beq_eq_false_iff_ne.mpr hne, Bool.false_or, Bool.not_eq_true'] at h

theorem isPlain_keptOf_of_kept {skips : Address → Bool} {nodes : List Node}
    (h : ∀ node ∈ nodes, ∀ address, ∀ left ∈ kept skips address node,
      left.Everywhere fun node => node.isPlain = true)
    (address : Address) (start : Nat) :
    ∀ left ∈ keptOf skips address start nodes, left.Everywhere fun node => node.isPlain = true := by
  induction nodes generalizing start with
  | nil => simp [keptOf]
  | cons node rest ih =>
      rw [List.forall_mem_cons] at h
      intro left hleft
      rw [keptOf, List.mem_append] at hleft
      rcases hleft with hleft | hleft
      · exact h.1 _ left hleft
      · exact ih h.2 (start + 1) left hleft

/-- Only elements, texts and comments remain. -/
theorem isPlain_kept (skips : Address → Bool) (address : Address) (node : Node) :
    ∀ left ∈ kept skips address node, left.Everywhere fun node => node.isPlain = true := by
  induction node using Node.childInduction generalizing address with
  | step node ih =>
      have hchildren := isPlain_keptOf_of_kept ih address 0
      intro left hleft
      cases node with
      | element name attributes children =>
          rw [kept] at hleft
          split at hleft
          · cases hleft
          · obtain rfl := List.mem_singleton.mp hleft
            exact Node.everywhere_iff.mpr ⟨rfl, hchildren⟩
      | text | comment =>
          rw [kept] at hleft
          split at hleft
          · cases hleft
          · obtain rfl := List.mem_singleton.mp hleft
            exact Node.everywhere_iff.mpr ⟨rfl, by simp [Node.children]⟩
      | doctype => cases hleft
      | contents children =>
          rw [kept] at hleft
          split at hleft
          · cases hleft
          · exact hchildren left hleft

namespace Writer

variable {w : Writer}

theorem writeNodes_append (preserve : Bool) (address : Address) (start : Nat) (out : List Char)
    (first second : List Node) :
    w.writeNodes preserve address start out (first ++ second) =
      (w.writeNodes preserve address start out first).bind fun out' =>
        w.writeNodes preserve address (start + first.length) out' second := by
  induction first generalizing start out with
  | nil => rfl
  | cons node rest ih =>
      rw [List.cons_append, writeNodes_cons, writeNodes_cons]
      cases w.writeNode preserve (address ++ [start]) out node with
      | error e => rfl
      | ok out' =>
          rw [List.length_cons, Nat.add_comm rest.length, ← Nat.add_assoc]
          exact ih (start + 1) out'

theorem writeNodes_singleton (preserve : Bool) (address : Address) (start : Nat) (out : List Char)
    (node : Node) :
    w.writeNodes preserve address start out [node] = w.writeNode preserve (address ++ [start]) out node := by
  rw [writeNodes_cons]
  cases w.writeNode preserve (address ++ [start]) out node <;> rfl

theorem rawText_eq {nodes : List Node} (h : nodes.any Node.isContents = false) (address : Address)
    (start : Nat) : w.rawText address start nodes = textOf (keptOf w.skips address start nodes) := by
  induction nodes generalizing start with
  | nil => rfl
  | cons node rest ih =>
      rw [List.any_cons, Bool.or_eq_false_iff] at h
      have hrest := ih h.2 (start + 1)
      cases node with
      | text content =>
          rw [rawText, keptOf, kept, hrest, textOf_append]
          split <;> simp [textOf, Node.text?]
      | element | comment =>
          rw [rawText, keptOf, kept, hrest, textOf_append]
          · split <;> simp [textOf, Node.text?]
          · simp
      | doctype => rw [rawText, keptOf, kept, hrest] <;> simp
      | contents => cases h.1

/-- What is written of siblings is what is written of those that remain, when that is so for each of them. -/
theorem writeNodes_keptOf_of_kept {nodes : List Node}
    (h : ∀ node ∈ nodes, ∀ preserve address address' start' out,
      w.writeNode preserve address out node =
        (w.leavingOut fun _ => false).writeNodes preserve address' start' out (kept w.skips address node))
    (preserve : Bool) (address address' : Address) (start start' : Nat) (out : List Char) :
    w.writeNodes preserve address start out nodes =
      (w.leavingOut fun _ => false).writeNodes preserve address' start' out
        (keptOf w.skips address start nodes) := by
  induction nodes generalizing start start' out with
  | nil => rfl
  | cons node rest ih =>
      rw [List.forall_mem_cons] at h
      rw [writeNodes_cons, keptOf, writeNodes_append, h.1 preserve _ address' start']
      congr 1
      funext out'
      exact ih h.2 (start + 1) _ out'

/-- A node is written as what remains of it is written. -/
theorem writeNode_kept {node : Node} (h : node.Everywhere fun node => node.keepsContents = true)
    (preserve : Bool) (address address' : Address) (start' : Nat) (out : List Char) :
    w.writeNode preserve address out node =
      (w.leavingOut fun _ => false).writeNodes preserve address' start' out (kept w.skips address node) := by
  induction node using Node.childInduction generalizing preserve address address' start' out with
  | step node ih =>
      obtain ⟨hkeeps, hbelow⟩ := Node.everywhere_iff.mp h
      have hchildren := writeNodes_keptOf_of_kept fun child hchild => ih child hchild (hbelow child hchild)
      cases hskips : w.skips address with
      | true =>
          rw [writeNode_of_skips hskips]
          cases node <;> simp [kept, hskips, writeNodes]
      | false =>
          cases node with
          | element name attributes children =>
              have hinside : ∀ out, w.writeInside preserve address name.name out children =
                  (w.leavingOut fun _ => false).writeInside preserve (address' ++ [start']) name.name out
                    (keptOf w.skips address 0 children) := by
                intro out
                rw [writeInside, writeInside]
                split
                · rename_i hraw
                  rw [rawText_eq (any_isContents_of_rawText hkeeps hraw), rawText_none, rawBody_leavingOut]
                · exact hchildren _ address _ 0 0 out
              rw [kept, hskips, if_neg Bool.false_ne_true, writeNodes_singleton, writeNode_element,
                writeNode_element, hskips, skips_leavingOut]
              simp only [writeAttributes_leavingOut, hinside]
          | text | comment =>
              rw [kept, hskips, if_neg Bool.false_ne_true, writeNodes_singleton, writeNode, writeNode, hskips]
              rfl
          | doctype => rfl
          | contents children =>
              rw [kept, hskips, if_neg Bool.false_ne_true, writeNode, hskips, if_neg Bool.false_ne_true]
              exact hchildren preserve address address' 0 start' out

end Writer

/-! ### The other stages -/

theorem textOf_uncommentedOf (m : Minification) (nodes : List Node) :
    textOf (uncommentedOf m nodes) = textOf nodes := by
  induction nodes with
  | nil => rfl
  | cons node rest ih =>
      rw [uncommentedOf]
      cases node with
      | comment content => split <;> simp [textOf_cons, Node.uncommented, Node.text?, ih]
      | element | text | doctype | contents =>
          rw [Minification.dropsComment, if_neg Bool.false_ne_true, textOf_cons, textOf_cons, ih]
          · simp [Node.uncommented, Node.text?]
          · simp

/-- The markup of siblings behind other markup, which may end in a space. -/
def markupAfter (m : Minification) (preserve b : Bool) (nodes : List Node) : List Char :=
  if preserve || !m.collapseWhitespace then markupOf nodes else markupBehind m b nodes

theorem markupAfter_false (m : Minification) (nodes : List Node) :
    markupAfter m false false nodes = markupOf (collapsedOf m nodes) := by
  rw [markupAfter, collapsedOf, markupBehind_false, Bool.false_or]
  cases m.collapseWhitespace <;> rfl

theorem markupAfter_singleton_element (m : Minification) (preserve b : Bool) (name : ElementName)
    (attributes : List Attribute) (children : List Node) :
    markupAfter m preserve b [.element name attributes children] =
      '<' :: ((Tag.ofElement name attributes).text ++
        if voidNames.contains name.name then []
        else (if rawTextNames.contains name.name then textOf children
          else markupAfter m (preserve || keepsWhitespace name.name) false children) ++
            endTagText name.name) := by
  rw [markupAfter]
  cases hkeeps : preserve || !m.collapseWhitespace with
  | true =>
      have hbelow : (preserve || keepsWhitespace name.name || !m.collapseWhitespace) = true := by
        rw [Bool.or_right_comm, hkeeps, Bool.true_or]
      rw [if_pos rfl, markupOf, markupOf, List.append_nil, Node.markup, markupAfter, hbelow, if_pos rfl]
  | false =>
      obtain ⟨rfl, hcollapse⟩ := Bool.or_eq_false_iff.mp hkeeps
      rw [if_neg Bool.false_ne_true, markupBehind, markupBehind, List.append_nil, Node.collapsed,
        markupAfter, hcollapse, Bool.or_false, Bool.false_or, markupBehind_false]
      · cases hraw : rawTextNames.contains name.name with
        | true => rw [Bool.or_true, if_pos rfl, if_pos rfl, Node.markup, hraw, if_pos rfl]
        | false =>
            rw [Bool.or_false, if_neg Bool.false_ne_true]
            split
            · rw [Node.markup, hraw, if_neg Bool.false_ne_true]
            · rw [Node.markup, hraw, if_neg Bool.false_ne_true]
      · simp

/-- Only the markup of a text can end in a space. -/
theorem getLast?_markup {node : Node} (h : node.isPlain = true) (htext : node.text? = none) :
    node.markup.getLast? = some '>' := by
  cases node with
  | element name attributes children =>
      rw [Node.markup]
      split <;> simp [Tag.text, endTagText, List.getLast?_cons]
  | text content => cases htext
  | comment content => simp [Node.markup, List.getLast?_cons]
  | doctype => cases h
  | contents => cases h

theorem isPlain_collapsed {m : Minification} {node : Node} (h : node.isPlain = true) :
    (node.collapsed m).isPlain = true := by
  cases node with
  | element name attributes children =>
      rw [Node.collapsed]
      split <;> rfl
  | text | comment => exact h
  | doctype => cases h
  | contents => cases h

namespace Writer

theorem afterSpace_put_of_getLast? {s : List Char} (h : s.getLast? = some '>') (out : List Char) :
    afterSpace (put s out) = false := by
  rw [afterSpace, put, List.head?_append, List.head?_reverse, h]
  rfl

/-- Siblings are written one behind the other. -/
theorem put_markupAfter_cons {m : Minification} {node : Node} (h : node.isPlain = true) (preserve : Bool)
    (out : List Char) (rest : List Node) :
    put (markupAfter m preserve (afterSpace out) (node :: rest)) out =
      let first := put (markupAfter m preserve (afterSpace out) [node]) out
      put (markupAfter m preserve (afterSpace first) rest) first := by
  cases hkeeps : preserve || !m.collapseWhitespace with
  | true => simp only [markupAfter, hkeeps, if_true, markupOf, List.append_nil, put_append]
  | false =>
      simp only [markupAfter, hkeeps, if_neg Bool.false_ne_true]
      cases htext : node.text? with
      | none =>
          have hlast := getLast?_markup (isPlain_collapsed (m := m) h) (text?_collapsed htext)
          rw [markupBehind_cons htext, markupBehind_cons htext, markupBehind, List.append_nil, put_append,
            afterSpace_put_of_getLast? hlast]
      | some content =>
          obtain rfl : node = .text content := by
            cases node <;> cases htext
            rfl
          rw [markupBehind, markupBehind, markupBehind, markupBehind]
          split
          · rfl
          · rw [List.append_nil, put_append, afterSpace_put]

variable {w : Writer}

/-- What an element holds, minified. -/
def minifiedInside (w : Writer) (tag : String) (children : List Node) : Except Failure (List Node) :=
  if rawTextNames.contains tag then
    (w.minifiedBody tag (textOf children)).map fun body => [.text (String.ofList body)]
  else w.minifiedOf children

theorem minified_element (name : ElementName) (attributes : List Attribute) (children : List Node) :
    w.minified (.element name attributes children) =
      (attributes.mapM w.minifiedAttribute).bind fun written =>
        if voidNames.contains name.name then .ok (.element name written [])
        else (w.minifiedInside name.name children).map (Node.element name written) := by
  rw [minified]
  simp only [Bind.bind]
  congr 1
  funext written
  split
  · rfl
  · rw [minifiedInside]
    split
    · cases w.minifiedBody name.name (textOf children) <;> rfl
    · cases w.minifiedOf children <;> rfl

theorem minifiedOf_cons (node : Node) (rest : List Node) :
    w.minifiedOf (node :: rest) =
      (w.minified node).bind fun first => (w.minifiedOf rest).map (first :: ·) := by
  rw [minifiedOf]
  simp only [Bind.bind]
  cases w.minified node with
  | error e => rfl
  | ok first => cases w.minifiedOf rest <;> rfl

theorem isPlain_of_minified {node written : Node} (h : node.isPlain = true)
    (hwritten : w.minified node = .ok written) : written.isPlain = true := by
  cases node with
  | element name attributes children =>
      rw [minified_element] at hwritten
      obtain ⟨values, _, hwritten⟩ := bind_eq_ok_iff.mp hwritten
      split at hwritten
      · cases hwritten
        rfl
      · obtain ⟨inside, _, rfl⟩ := map_eq_ok_iff.mp hwritten
        rfl
  | text | comment =>
      cases hwritten
      rfl
  | doctype => cases h
  | contents => cases h

/-- A comment is written unless it is dropped. -/
theorem writeComment_eq (out : List Char) (content : String) :
    w.writeComment out content =
      if w.minification.dropsComment (.comment content) then out
      else put (Node.comment content).markup out := by
  rw [writeComment, Minification.dropsComment, Node.markup]
  cases w.minification.removeComments <;> cases isKeptComment content <;> rfl

theorem writeNode_of_dropsComment {node : Node} (h : w.minification.dropsComment node = true)
    (preserve : Bool) (address : Address) (out : List Char) :
    w.writeNode preserve address out node = .ok out := by
  cases node with
  | comment content => rw [writeNode, writeComment_eq, if_pos h, ite_self]
  | element | text | doctype | contents => cases h

theorem put_markupAfter_nil (m : Minification) (preserve b : Bool) (out : List Char) :
    put (markupAfter m preserve b []) out = out := by
  rw [markupAfter, markupOf, markupBehind, ite_self]
  rfl

theorem isPlain_uncommented {m : Minification} {node : Node} (h : node.isPlain = true) :
    (node.uncommented m).isPlain = true := by
  cases node with
  | element name attributes children => rfl
  | text | comment => exact h
  | doctype => cases h
  | contents => cases h

/-- A node is written in stages, behind whatever is written before it. -/
def StagesNode (w : Writer) (node : Node) : Prop :=
  ∀ preserve address out,
    (w.leavingOut fun _ => false).writeNode preserve address out node =
      (w.minified (node.uncommented w.minification)).map fun written =>
        put (markupAfter w.minification preserve (afterSpace out) [written]) out

/-- Siblings are written in stages, behind whatever is written before them. -/
def StagesNodes (w : Writer) (nodes : List Node) : Prop :=
  ∀ preserve address start out,
    (w.leavingOut fun _ => false).writeNodes preserve address start out nodes =
      (w.minifiedOf (uncommentedOf w.minification nodes)).map fun written =>
        put (markupAfter w.minification preserve (afterSpace out) written) out

/-- Siblings are written in stages when each of them is. A comment that is dropped need not be, because it
is not among those that are minified. -/
theorem stagesNodes_of_stagesNode {nodes : List Node} (hplain : ∀ node ∈ nodes, node.isPlain = true)
    (h : ∀ node ∈ nodes, w.minification.dropsComment node = false → w.StagesNode node) :
    w.StagesNodes nodes := by
  intro preserve address start out
  induction nodes generalizing start out with
  | nil =>
      rw [uncommentedOf, minifiedOf, Except.map, put_markupAfter_nil]
      rfl
  | cons node rest ih =>
      rw [List.forall_mem_cons] at hplain h
      have hrest := ih hplain.2 h.2 (start + 1)
      rw [writeNodes_cons, uncommentedOf]
      cases hdrops : w.minification.dropsComment node with
      | true =>
          rw [writeNode_of_dropsComment (w := w.leavingOut fun _ => false) hdrops, if_pos rfl]
          exact hrest out
      | false =>
          rw [h.1 hdrops, if_neg Bool.false_ne_true, minifiedOf_cons]
          cases hnode : w.minified (node.uncommented w.minification) with
          | error e => rfl
          | ok written =>
              have hwritten := isPlain_of_minified (isPlain_uncommented hplain.1) hnode
              rw [Except.map, Except.bind, Except.bind, hrest]
              cases w.minifiedOf (uncommentedOf w.minification rest) with
              | error e => rfl
              | ok others => exact congrArg Except.ok (put_markupAfter_cons hwritten preserve out others).symm

/-- What an element holds is written in stages when its children are. -/
theorem writeInside_of_stagesNodes {children : List Node} (h : w.StagesNodes children)
    (preserve : Bool) (address : Address) (tag : String) (out : List Char) (hout : afterSpace out = false) :
    (w.leavingOut fun _ => false).writeInside preserve address tag out children =
      (w.minifiedInside tag (uncommentedOf w.minification children)).map fun written =>
        put (if rawTextNames.contains tag then textOf written
          else markupAfter w.minification (preserve || keepsWhitespace tag) false written) out := by
  rw [writeInside, minifiedInside, rawText_none, rawBody_leavingOut, rawBody_eq, textOf_uncommentedOf, h, hout]
  split
  · cases w.minifiedBody tag (textOf children) with
    | error e => rfl
    | ok body => simp [Except.map, Node.text?, textOf]
  · rfl

/-- An element is written in stages when its children are: no space is last behind its start tag. -/
theorem stagesNode_element {children : List Node} (h : w.StagesNodes children) (name : ElementName)
    (attributes : List Attribute) : w.StagesNode (.element name attributes children) := by
  intro preserve address out
  rw [Node.uncommented, minified_element, writeNode_element, skips_leavingOut,
    if_neg Bool.false_ne_true, writeAttributes_leavingOut, writeAttributes_eq]
  cases attributes.mapM w.minifiedAttribute with
  | error e => rfl
  | ok values =>
      have hstart : afterSpace (put ('<' :: (Tag.ofElement name values).text) out) = false := by
        apply afterSpace_put_of_getLast?
        simp [Tag.text, List.getLast?_cons]
      simp only [Except.map, Except.bind, put_startTag]
      split
      · rename_i hvoid
        simp only [markupAfter_singleton_element, if_pos hvoid, List.append_nil]
      · rename_i hvoid
        rw [writeInside_of_stagesNodes h preserve address name.name _ hstart]
        cases w.minifiedInside name.name (uncommentedOf w.minification children) with
        | error e => rfl
        | ok inside =>
            simp only [Except.map, markupAfter_singleton_element, if_neg hvoid]
            rw [← put_append, ← put_append, endTagText]
            simp only [List.cons_append, List.append_assoc]

theorem writeText_eq (preserve : Bool) (out : List Char) (content : String) :
    w.writeText preserve out content =
      put (markupAfter w.minification preserve (afterSpace out) [.text content]) out := by
  rw [markupAfter.eq_def]
  cases hkeeps : preserve || !w.minification.collapseWhitespace with
  | true =>
      rw [writeText_of_keeps hkeeps, if_pos rfl, markupOf, markupOf, List.append_nil, Node.markup]
  | false =>
      rw [writeText_of_collapses hkeeps, if_neg Bool.false_ne_true, markupBehind, markupBehind, markupBehind]
      split
      · rfl
      · rw [List.append_nil]

theorem markupAfter_singleton_comment (m : Minification) (preserve b : Bool) (content : String) :
    markupAfter m preserve b [.comment content] = (Node.comment content).markup := by
  rw [markupAfter, markupBehind_cons rfl, markupBehind, markupOf, markupOf, Node.collapsed]
  · rw [List.append_nil, ite_self]
  · simp

/-- An element, a text or a comment is written in stages. -/
theorem stagesNode_of_isPlain {node : Node} (hplain : node.Everywhere fun node => node.isPlain = true)
    (hdrops : w.minification.dropsComment node = false) : w.StagesNode node := by
  induction node using Node.childInduction with
  | step node ih =>
      obtain ⟨hself, hbelow⟩ := Node.everywhere_iff.mp hplain
      have hchildren : w.StagesNodes node.children :=
        stagesNodes_of_stagesNode (fun child hchild => (Node.everywhere_iff.mp (hbelow child hchild)).1)
          fun child hchild => ih child hchild (hbelow child hchild)
      cases node with
      | element name attributes children => exact stagesNode_element hchildren name attributes
      | text content =>
          intro preserve address out
          rw [writeNode, skips_leavingOut, if_neg Bool.false_ne_true, writeText_leavingOut, writeText_eq]
          rfl
      | comment content =>
          intro preserve address out
          have hmarkup := markupAfter_singleton_comment w.minification preserve (afterSpace out) content
          rw [writeNode, skips_leavingOut, if_neg Bool.false_ne_true, writeComment_leavingOut,
            writeComment_eq, hdrops, if_neg Bool.false_ne_true, ← hmarkup]
          rfl
      | doctype => cases hself
      | contents => cases hself

theorem stagesNodes_of_isPlain {nodes : List Node}
    (h : ∀ node ∈ nodes, node.Everywhere fun node => node.isPlain = true) : w.StagesNodes nodes :=
  stagesNodes_of_stagesNode (fun node hnode => (Node.everywhere_iff.mp (h node hnode)).1)
    fun node hnode hdrops => stagesNode_of_isPlain (h node hnode) hdrops

variable (w : Writer)

theorem writeInStages_eq {located : Located}
    (h : located.node.Everywhere fun node => node.keepsContents = true) :
    w.write located = w.writeInStages located := by
  have hplain := isPlain_kept w.skips located.address located.node
  have hpass : w.writeNode false located.address [] located.node =
      (w.minifiedOf (uncommentedOf w.minification (kept w.skips located.address located.node))).map
        fun written => put (markupOf (collapsedOf w.minification written)) [] := by
    calc w.writeNode false located.address [] located.node
        = (w.leavingOut fun _ => false).writeNodes false [] 0 []
            (kept w.skips located.address located.node) := writeNode_kept h false located.address [] 0 []
      _ = (w.minifiedOf (uncommentedOf w.minification (kept w.skips located.address located.node))).map
            fun written => put (markupAfter w.minification false false written) [] :=
          stagesNodes_of_isPlain hplain false [] 0 []
      _ = _ := by simp only [markupAfter_false]
  rw [write, writeInStages, hpass]
  cases w.minifiedOf (uncommentedOf w.minification (kept w.skips located.address located.node)) with
  | error e => rfl
  | ok written => simp [Except.map, Bind.bind, Except.bind, put]

/-- A node of a document is written in one pass as it is written in stages. -/
theorem write_eq_writeInStages {document : Document}
    (h : ∀ located ∈ document.inOrder, located.node.keepsContents = true) {located : Located}
    (hlocated : located ∈ document.inOrder) : w.write located = w.writeInStages located := by
  apply writeInStages_eq
  rw [Node.everywhere_iff_at?]
  intro below found hfound
  apply h ⟨located.address ++ below, found⟩
  rw [Document.mem_inOrder] at hlocated ⊢
  rw [Document.node?_append hlocated, hfound]

/-- A division with a class, a style and a style that is bound, a script between two texts, a style sheet, and
a template with a comment and a text that keeps its white space. -/
def divisionWithTemplate : Node :=
  .element ⟨.html, "div"⟩ [⟨.plain, "class", " a  b"⟩, ⟨.plain, "style", "top : 0"⟩] [
    .text "one ",
    .element ⟨.html, "script"⟩ [] [.text "run()"],
    .text "  two\n",
    .element ⟨.html, "style"⟩ [] [.text "@import 'a' ;"],
    .element ⟨.html, "template"⟩ [] [.contents [
      .comment "note", .text " ", .element ⟨.html, "pre"⟩ [⟨.plain, "style", "top : [[y]]"⟩] [.text "a  b"]]]]

def documentOfDivision : Document :=
  { nodes := [divisionWithTemplate], roots := {} }

/-- The text without its spaces. -/
def packed (css : String) : String :=
  String.ofList (css.toList.filter (· != ' '))

/-- The writer that minifies all, styles by dropping their spaces, and leaves out the script. -/
def withoutScript : Writer :=
  ⟨{ conservativeCollapse := false }, ⟨fun css => .ok (packed css), fun css => .ok (packed css)⟩,
    fun address => address == [0, 1]⟩

/-- The same writer with an engine that refuses all styles. -/
def refusingStyles : Writer :=
  { withoutScript with engine := ⟨fun css => .error (.minify, css), fun css => .error (.print, css)⟩ }

/-- What is left of the division. -/
def divisionMarkup : String :=
  "<div class=\"a b\" style=\"top:0\">one two <style>@import'a';</style>" ++
    "<template><pre style=\"top : [[y]]\">a  b</pre></template></div>"

/-- The declarations of the division are refused before its style sheet is looked at. -/
theorem write_eq_writeInStages_divisionWithTemplate :
    (∀ located ∈ documentOfDivision.inOrder, located.node.keepsContents = true) ∧
    ⟨[0], divisionWithTemplate⟩ ∈ documentOfDivision.inOrder ∧
    withoutScript.write ⟨[0], divisionWithTemplate⟩ = .ok divisionMarkup ∧
    withoutScript.write ⟨[0], divisionWithTemplate⟩ =
      withoutScript.writeInStages ⟨[0], divisionWithTemplate⟩ ∧
    refusingStyles.write ⟨[0], divisionWithTemplate⟩ =
      .error ⟨.minify, "", "print style attribute", some "top : 0"⟩ ∧
    refusingStyles.write ⟨[0], divisionWithTemplate⟩ =
      refusingStyles.writeInStages ⟨[0], divisionWithTemplate⟩ :=
  have hkeeps : ∀ located ∈ documentOfDivision.inOrder, located.node.keepsContents = true := by
    decide +kernel
  have hlocated : ⟨[0], divisionWithTemplate⟩ ∈ documentOfDivision.inOrder :=
    Document.mem_inOrder.mpr rfl
  ⟨hkeeps, hlocated, by decide +kernel, write_eq_writeInStages withoutScript hkeeps hlocated,
    by decide +kernel, write_eq_writeInStages refusingStyles hkeeps hlocated⟩

end Writer

end MarkupModule.Markup
