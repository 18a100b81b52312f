import MarkupModule.Proofs.Minification.Stages

/-! White space across nodes. The writer leaves out a space behind a space that it has written, and looks
for that at the last character only. That character is a space only behind a text among the same siblings,
because everything else that is written ends in `>`, so what is written of a list of siblings is what is
written once texts that stand next to each other are joined. -/

namespace MarkupModule.Markup

open MarkupModule.Text

/-! ### A text behind other text -/

/-- Whether what is written ends in white space behind a text, given whether it did before the text. -/
def behind : Bool → List Char → Bool
  | b, [] => b
  | _, c :: cs => behind (isSpace c) cs

theorem collapseBehind_cons (b : Bool) (c : Char) (cs : List Char) :
    collapseBehind b (c :: cs) = collapseBehind b [c] ++ collapseBehind (isSpace c) cs := by
  rw [collapseBehind, collapseBehind]
  cases isSpace c <;> cases b <;> rfl

theorem collapseBehind_append (b : Bool) (s t : List Char) :
    collapseBehind b (s ++ t) = collapseBehind b s ++ collapseBehind (behind b s) t := by
  induction s generalizing b with
  | nil => rfl
  | cons c cs ih =>
      rw [List.cons_append, collapseBehind_cons, ih, collapseBehind_cons b c cs, List.append_assoc]
      rfl

theorem escapeText_append (s t : List Char) : escapeText (s ++ t) = escapeText s ++ escapeText t :=
  List.flatMap_append

namespace Writer

/-- Whether the last character written is a space. -/
def afterSpace (out : List Char) : Bool :=
  out.head? == some ' '

theorem afterSpace_put_escapeTextChar (c : Char) (out : List Char) :
    afterSpace (put (escapeTextChar c) out) = (c == ' ') := by
  rw [escapeTextChar]
  split_ifs with hand hspace hless hgreater
  · subst hand
    rfl
  · subst hspace
    rfl
  · subst hless
    rfl
  · subst hgreater
    rfl
  · rfl

/-- The last character written behind a text is a space when the text ends in white space. -/
theorem afterSpace_put (s : List Char) (out : List Char) :
    afterSpace (put (escapeText (collapseBehind (afterSpace out) s)) out) = behind (afterSpace out) s := by
  induction s generalizing out with
  | nil => rfl
  | cons c cs ih =>
      have hfirst : afterSpace (put (escapeText (collapseBehind (afterSpace out) [c])) out) = isSpace c := by
        cases hc : isSpace c with
        | false =>
            have hne : (c == ' ') = false := by
              rw [beq_eq_false_iff_ne]
              rintro rfl
              cases hc
            rw [collapseBehind, hc, if_neg Bool.false_ne_true]
            change afterSpace (put (escapeTextChar c ++ []) out) = false
            rw [List.append_nil, afterSpace_put_escapeTextChar, hne]
        | true =>
            rw [collapseBehind, hc, if_pos rfl]
            cases hout : afterSpace out with
            | true => exact hout
            | false => rfl
      rw [collapseBehind_cons, escapeText_append, put_append, behind]
      have := ih (put (escapeText (collapseBehind (afterSpace out) [c])) out)
      rwa [hfirst] at this

/-- A text is written as it reads behind what is written already. -/
theorem joined_eq (out s : List Char) :
    (if out.head? == some ' ' && (collapse s).head? == some ' ' then (collapse s).drop 1 else collapse s) =
      collapseBehind (afterSpace out) s := by
  change (if afterSpace out && _ then _ else _) = _
  cases s with
  | nil => cases afterSpace out <;> rfl
  | cons c cs =>
      rw [collapse, collapseBehind, collapseBehind]
      cases hc : isSpace c with
      | true => cases afterSpace out <;> rfl
      | false =>
          have hne : c ≠ ' ' := by
            rintro rfl
            cases hc
          simp [hne]

variable {w : Writer}

theorem writeText_of_keeps {preserve : Bool} (h : (preserve || !w.minification.collapseWhitespace) = true)
    (out : List Char) (content : String) :
    w.writeText preserve out content = put (escapeText content.toList) out := by
  rw [writeText]
  exact if_pos h

theorem writeText_of_collapses {preserve : Bool}
    (h : (preserve || !w.minification.collapseWhitespace) = false) (out : List Char) (content : String) :
    w.writeText preserve out content =
      if w.minification.dropsText (.text content) then out
      else put (escapeText (collapseBehind (afterSpace out) content.toList)) out := by
  rw [writeText]
  simp only [h, joined_eq]
  rfl

end Writer

/-! ### Siblings -/

/-- The markup of siblings with white space collapsed, text after text, given whether a space is written
before them. -/
def markupBehind (m : Minification) : Bool → List Node → List Char
  | _, [] => []
  | b, .text content :: rest =>
    if m.dropsText (.text content) then markupBehind m b rest
    else escapeText (collapseBehind b content.toList) ++ markupBehind m (behind b content.toList) rest
  | _, node :: rest => (node.collapsed m).markup ++ markupBehind m false rest

/-- The markup of joined siblings, of which the first one may be a text behind a space. -/
def joinedMarkup (b : Bool) : List Node → List Char
  | .text content :: rest =>
    escapeText (collapseBehind b content.toList) ++ markupOf (rest.map Node.collapseText)
  | nodes => markupOf (nodes.map Node.collapseText)

theorem joinedMarkup_false (nodes : List Node) :
    joinedMarkup false nodes = markupOf (nodes.map Node.collapseText) := by
  cases nodes with
  | nil => rfl
  | cons node rest =>
      cases node with
      | text content =>
          rw [joinedMarkup, List.map_cons, Node.collapseText, markupOf, Node.markup, String.toList_ofList]
          rfl
      | element | comment | doctype | contents => rfl

/-! Nodes other than texts stand between texts. -/

variable {m : Minification} {node : Node}

theorem text?_collapsed (h : node.text? = none) : (node.collapsed m).text? = none := by
  cases node with
  | text content => cases h
  | element name attributes children =>
      rw [Node.collapsed]
      split <;> rfl
  | comment | doctype | contents => rfl

theorem joinTexts_cons (h : node.text? = none) (rest : List Node) :
    joinTexts (node :: rest) = node :: joinTexts rest := by
  cases node with
  | text content => cases h
  | element | comment | doctype | contents => rfl

theorem joinedMarkup_cons (h : node.text? = none) (b : Bool) (rest : List Node) :
    joinedMarkup b (node :: rest) = node.markup ++ joinedMarkup false rest := by
  rw [joinedMarkup_false]
  cases node with
  | text content => cases h
  | element | comment | doctype | contents => rfl

theorem markupBehind_cons (h : node.text? = none) (b : Bool) (rest : List Node) :
    markupBehind m b (node :: rest) = (node.collapsed m).markup ++ markupBehind m false rest := by
  cases node with
  | text content => cases h
  | element | comment | doctype | contents => rfl

theorem dropsText_of_text?_eq_none (h : node.text? = none) : m.dropsText node = false := by
  rw [Minification.dropsText, h]
  exact Bool.and_false _

theorem joinedMarkup_joinTexts_text (b : Bool) (content : String) (nodes : List Node) :
    joinedMarkup b (joinTexts (.text content :: nodes)) =
      escapeText (collapseBehind b content.toList) ++
        joinedMarkup (behind b content.toList) (joinTexts nodes) := by
  rw [joinTexts]
  split
  · rename_i more others heq
    rw [heq, joinedMarkup, joinedMarkup, String.toList_append, collapseBehind_append, escapeText_append,
      List.append_assoc]
  · rename_i hnot
    rw [joinedMarkup]
    congr 1
    cases hjoined : joinTexts nodes with
    | nil => rfl
    | cons node rest =>
        cases node with
        | text more => exact absurd hjoined (hnot more rest)
        | element | comment | doctype | contents => rfl

/-- Text after text is written what is written of the joined texts. -/
theorem markupBehind_eq (m : Minification) (b : Bool) (nodes : List Node) :
    markupBehind m b nodes =
      joinedMarkup b (joinTexts ((collapsedEach m nodes).filter fun node => !m.dropsText node)) := by
  induction nodes generalizing b with
  | nil => rfl
  | cons node rest ih =>
      rw [collapsedEach, List.filter_cons]
      cases htext : node.text? with
      | none =>
          have hcollapsed := text?_collapsed (m := m) htext
          rw [markupBehind_cons htext, dropsText_of_text?_eq_none hcollapsed, Bool.not_false, if_pos rfl,
            joinTexts_cons hcollapsed, joinedMarkup_cons hcollapsed, ih false]
      | some content =>
          have hnode : node = .text content := by
            cases node <;> cases htext
            rfl
          subst hnode
          rw [markupBehind, Node.collapsed]
          · cases hdrops : m.dropsText (.text content) with
            | true => exact ih b
            | false =>
                rw [if_neg Bool.false_ne_true, ih, Bool.not_false, if_pos rfl, joinedMarkup_joinTexts_text]
          · simp

theorem markupBehind_false (m : Minification) (nodes : List Node) :
    markupBehind m false nodes = markupOf (collapseTexts m (collapsedEach m nodes)) := by
  rw [markupBehind_eq, joinedMarkup_false]
  rfl

end MarkupModule.Markup
