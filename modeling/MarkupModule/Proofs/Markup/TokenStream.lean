import MarkupModule.Markup.Construction
import MarkupModule.Proofs.Minification.Markup
import MarkupModule.Proofs.Text.Search

/-! Markup that is written without being minified is cut into the tokens that its tree stands for. Every
part of the markup is read back whole: tags and comments whatever follows them, and a text when nothing
follows it or other markup does, which is so among siblings of which no two texts are next to each other. -/

namespace MarkupModule.Markup

open MarkupModule.Text

namespace Lexer

theorem tokens_cons {c : Char} {cs rest : List Char} {first : List Token}
    (h : Lexer.first .markup false c cs = ⟨first, rest⟩) : tokens (c :: cs) = first ++ tokens rest := by
  rw [tokens, h]

/-! ### Text -/

/-- Whether a text that stands before this one ends here: nothing follows it, or markup does. -/
def EndsText (rest : List Char) : Prop :=
  rest = [] ∨ ∃ cs, rest = '<' :: cs ∧ opensMarkup cs = true

theorem cutText_of_endsText {rest : List Char} (h : EndsText rest) : cutText rest = ([], rest) := by
  rcases h with rfl | ⟨cs, rfl, hopens⟩
  · rfl
  · rw [cutText, hopens]
    rfl

theorem cutText_append_of_endsText {s rest : List Char} (hs : ∀ c ∈ s, c ≠ '<' ∧ c ≠ '\x00')
    (hrest : EndsText rest) : cutText (s ++ rest) = (s, rest) := by
  induction s with
  | nil => exact cutText_of_endsText hrest
  | cons c cs ih =>
      rw [List.forall_mem_cons] at hs
      rw [List.cons_append, cutText, ih hs.2, if_neg]
      simp [hs.1.1, hs.1.2]

/-- A text without markup is the first token of what is written of it. -/
theorem first_text {content rest : List Char} {c : Char} {cs : List Char}
    (hchars : ∀ d ∈ c :: cs, d ≠ '<' ∧ d ≠ '\x00') (hresolve : Reference.resolve false (c :: cs) = content)
    (hrest : EndsText rest) (sections : Bool) :
    first .markup sections c (cs ++ rest) = ⟨[.text (String.ofList content)], rest⟩ := by
  rw [List.forall_mem_cons] at hchars
  rw [first, if_neg hchars.1.2, cutText_append_of_endsText hchars.2 hrest]
  dsimp only
  rw [hresolve]
  simp [hchars.1.1, textToken]

theorem of_mem_escapeText {content : List Char} (hnul : '\x00' ∉ content) {d : Char}
    (h : d ∈ escapeText content) : d ≠ '<' ∧ d ≠ '\x00' := by
  refine ⟨(mem_escapeText h).1, ?_⟩
  rintro rfl
  rcases (mem_escapeText h).2 with hmem | hmem
  · exact hnul hmem
  · revert hmem
    decide

theorem first_escapeText {content rest : List Char} (hnul : '\x00' ∉ content) {c : Char} {cs : List Char}
    (hcons : escapeText content = c :: cs) (hrest : EndsText rest) (sections : Bool) :
    first .markup sections c (cs ++ rest) = ⟨[.text (String.ofList content)], rest⟩ := by
  exact first_text (fun d hd => of_mem_escapeText hnul (hcons ▸ hd))
    (by rw [← hcons, Reference.resolve_escapeText]) hrest sections

/-- A text is read back whole. -/
theorem tokens_escapeText {content rest : List Char} (hne : content ≠ []) (hnul : '\x00' ∉ content)
    (hrest : EndsText rest) :
    tokens (escapeText content ++ rest) = .text (String.ofList content) :: tokens rest := by
  obtain ⟨c, cs, hcons⟩ := List.exists_cons_of_ne_nil (escapeText_ne_nil hne)
  rw [hcons, List.cons_append]
  exact tokens_cons (first_escapeText hnul hcons hrest false)

/-! ### Comments -/

/-- Whether a comment with this text ends behind the text only. -/
def isCommentText (content : List Char) : Bool :=
  !startsWith ">".toList content && !startsWith "->".toList content &&
    !contains "-->".toList content && !contains "--!>".toList content

/-- A text that is longer than the end of a comment ends a comment by beginning with an end. -/
theorem commentEnd?_eq_none {s : List Char} (h : startsWith "-->".toList s = false)
    (hbang : startsWith "--!>".toList s = false) (hlong : 3 < s.length) : commentEnd? s = none := by
  unfold commentEnd?
  split
  · cases h
  · cases hbang
  · simp at hlong
  · simp at hlong
  · simp at hlong
  · rfl

/-- An end of a comment does not begin in the text before `-->` unless it stands there. -/
theorem startsWith_append_end {pattern s : List Char} (hpattern : pattern ∈ ["-->".toList, "--!>".toList])
    (hne : s ≠ []) (h : startsWith pattern s = false) (rest : List Char) :
    startsWith pattern (s ++ '-' :: '-' :: '>' :: rest) = false := by
  simp only [List.mem_cons, List.not_mem_nil, or_false] at hpattern
  rcases s with _ | ⟨c, _ | ⟨d, _ | ⟨e, _ | ⟨f, more⟩⟩⟩⟩
  · exact absurd rfl hne
  · rcases hpattern with rfl | rfl <;> simp [startsWith, dropPrefix?]
  · rcases hpattern with rfl | rfl <;> simp [startsWith, dropPrefix?]
  · rcases hpattern with rfl | rfl
    · simpa [startsWith, dropPrefix?] using h
    · simp [startsWith, dropPrefix?]
  · rcases hpattern with rfl | rfl <;> simpa [startsWith, dropPrefix?] using h

theorem commentEnd?_append {s : List Char} (hne : s ≠ []) (h : startsWith "-->".toList s = false)
    (hbang : startsWith "--!>".toList s = false) (rest : List Char) :
    commentEnd? (s ++ '-' :: '-' :: '>' :: rest) = none := by
  apply commentEnd?_eq_none
  · exact startsWith_append_end (by simp) hne h rest
  · exact startsWith_append_end (by simp) hne hbang rest
  · have := List.length_pos_iff.mpr hne
    simp only [List.length_append, List.length_cons]
    omega

theorem cutComment_append {s : List Char} (h : contains "-->".toList s = false)
    (hbang : contains "--!>".toList s = false) (rest : List Char) :
    cutComment (s ++ '-' :: '-' :: '>' :: rest) = (s, rest) := by
  induction s with
  | nil => rfl
  | cons c cs ih =>
      rw [contains, Bool.or_eq_false_iff] at h hbang
      have hend := commentEnd?_append (List.cons_ne_nil c cs) h.1 hbang.1 rest
      rw [List.cons_append] at hend ⊢
      rw [cutComment, hend, ih h.2 hbang.2]

theorem comment_append {content : List Char} (h : isCommentText content = true) (rest : List Char) :
    comment (content ++ '-' :: '-' :: '>' :: rest) = (content, rest) := by
  simp only [isCommentText, Bool.and_eq_true, Bool.not_eq_true'] at h
  obtain ⟨⟨⟨hclose, hdash⟩, hend⟩, hbang⟩ := h
  have hcut := cutComment_append hend hbang rest
  unfold comment
  split
  · rename_i heq
    rcases content with _ | ⟨c, cs⟩
    · cases heq
    · cases heq
      cases hclose
  · rename_i heq
    rcases content with _ | ⟨c, _ | ⟨d, cs⟩⟩
    · cases heq
    · cases heq
    · cases heq
      cases hdash
  · exact hcut

theorem first_comment {content : List Char} (h : isCommentText content = true) (hnul : '\x00' ∉ content)
    (sections : Bool) (rest : List Char) :
    first .markup sections '<' ('!' :: '-' :: '-' :: (content ++ '-' :: '-' :: '>' :: rest)) =
      ⟨[.comment (String.ofList content)], rest⟩ := by
  have hdropped : dropPrefix? "--".toList ('-' :: '-' :: (content ++ '-' :: '-' :: '>' :: rest)) =
      some (content ++ '-' :: '-' :: '>' :: rest) := rfl
  have hdeclared : declared sections ('-' :: '-' :: (content ++ '-' :: '-' :: '>' :: rest)) =
      ⟨[.comment (String.ofList content)], rest⟩ := by
    rw [declared, hdropped]
    dsimp only
    rw [comment_append h, replaceNul_of_not_mem hnul]
  exact hdeclared

/-- A comment is read back whole. -/
theorem tokens_comment {content : List Char} (h : isCommentText content = true) (hnul : '\x00' ∉ content)
    (rest : List Char) :
    tokens ('<' :: '!' :: '-' :: '-' :: (content ++ '-' :: '-' :: '>' :: rest)) =
      .comment (String.ofList content) :: tokens rest :=
  tokens_cons (first_comment h hnul false rest)

/-! ### Tags -/

theorem tokens_startTag {tag : Tag} (h : tag.IsReadable) (rest : List Char) :
    tokens ('<' :: (tag.text ++ rest)) = .startTag tag :: tokens rest :=
  tokens_cons (first_startTag h false rest)

theorem tokens_endTag {name : String} (h : isTagName name.toList = true) (rest : List Char) :
    tokens (endTagText name ++ rest) = .endTag name :: tokens rest := by
  have htext : endTagText name ++ rest = '<' :: '/' :: (name.toList ++ '>' :: rest) := by
    simp [endTagText]
  rw [htext]
  exact tokens_cons (first_endTag h false rest)

theorem endsText_startTag {tag : Tag} (h : isTagName (lower tag.name.toList) = true) (rest : List Char) :
    EndsText ('<' :: (tag.text ++ rest)) := by
  obtain ⟨c, cs, hname, hc⟩ := exists_cons_of_isTagName_lower h
  refine Or.inr ⟨_, rfl, ?_⟩
  rw [Tag.text, hname, List.cons_append, List.cons_append, opensMarkup_cons (ne_of_isAlpha hc (by decide)),
    hc]
  rfl

theorem endsText_endTag {name : String} (h : isTagName (lower name.toList) = true) (rest : List Char) :
    EndsText (endTagText name ++ rest) := by
  obtain ⟨c, cs, hname, _⟩ := exists_cons_of_isTagName_lower h
  refine Or.inr ⟨'/' :: (name.toList ++ '>' :: rest), by simp [endTagText], ?_⟩
  rw [hname]
  rfl

end Lexer

/-! ### Trees -/

mutual

/-- The tokens that a node stands for. -/
def Node.tokens : Node → List Token
  | .element name attributes children =>
    .startTag (Tag.ofElement name attributes) ::
      (tokensOf children ++ if voidNames.contains name.name then [] else [.endTag name.name])
  | .text content => [.text content]
  | .comment content => [.comment content]
  | .doctype _ _ _ => []
  | .contents children => tokensOf children

def tokensOf : List Node → List Token
  | [] => []
  | node :: rest => node.tokens ++ tokensOf rest

end

/-- An element that reads back as it was written. -/
structure ElementIsReadable (name : ElementName) (attributes : List Attribute) (children : List Node) :
    Prop where
  tagName : isTagName name.name.toList = true
  holdsMarkup : rawTextNames.contains name.name = false
  attributeNames : ∀ a ∈ attributes, isAttributeName a.name.toList = true
  values : ∀ a ∈ attributes, IsClean a.value
  distinct : (attributes.map Attribute.name).Nodup
  void : voidNames.contains name.name = true → children.isEmpty = true
  /-- No text stands next to another one. -/
  apart : children.IsChain fun first second => first.text? = none ∨ second.text? = none

instance (name : ElementName) (attributes : List Attribute) (children : List Node) :
    Decidable (ElementIsReadable name attributes children) :=
  decidable_of_iff
    (isTagName name.name.toList = true ∧ rawTextNames.contains name.name = false ∧
      (∀ a ∈ attributes, isAttributeName a.name.toList = true) ∧ (∀ a ∈ attributes, IsClean a.value) ∧
      (attributes.map Attribute.name).Nodup ∧
      (voidNames.contains name.name = true → children.isEmpty = true) ∧
      children.IsChain fun first second => first.text? = none ∨ second.text? = none)
    ⟨fun ⟨tagName, holdsMarkup, attributeNames, values, distinct, void, apart⟩ =>
      ⟨tagName, holdsMarkup, attributeNames, values, distinct, void, apart⟩,
    fun h => ⟨h.tagName, h.holdsMarkup, h.attributeNames, h.values, h.distinct, h.void, h.apart⟩⟩

/-- A node that reads back as it was written, if those below it do. -/
def Node.IsReadable : Node → Prop
  | .element name attributes children => ElementIsReadable name attributes children
  | .text content => content ≠ "" ∧ IsClean content
  | .comment content => IsClean content ∧ Lexer.isCommentText content.toList = true
  | .doctype _ _ _ => False
  | .contents _ => False

instance : DecidablePred Node.IsReadable
  | .element name attributes children => inferInstanceAs (Decidable (ElementIsReadable name attributes children))
  | .text content => inferInstanceAs (Decidable (content ≠ "" ∧ IsClean content))
  | .comment content =>
    inferInstanceAs (Decidable (IsClean content ∧ Lexer.isCommentText content.toList = true))
  | .doctype _ _ _ => inferInstanceAs (Decidable False)
  | .contents _ => inferInstanceAs (Decidable False)

namespace ElementIsReadable

variable {name : ElementName} {attributes : List Attribute} {children : List Node}

theorem isReadable (h : ElementIsReadable name attributes children) :
    (Tag.ofElement name attributes).IsReadable where
  name := h.tagName
  attributeNames := List.forall_mem_map.mpr h.attributeNames
  values := List.forall_mem_map.mpr fun a ha => (h.values a ha).2
  distinct := by
    rw [Tag.ofElement, List.map_map]
    exact h.distinct
  notSelfClosing := rfl

end ElementIsReadable

open Lexer (EndsText)

/-- A text ends before any other node. -/
theorem Node.endsText_markup {node : Node} (h : node.IsReadable) (htext : node.text? = none)
    (rest : List Char) : EndsText (node.markup ++ rest) := by
  cases node with
  | element name attributes children =>
      rw [markup, List.cons_append, List.append_assoc]
      have hname : isTagName (lower (Tag.ofElement name attributes).name.toList) = true :=
        isTagName_lower h.tagName
      exact Lexer.endsText_startTag hname _
  | text content => cases htext
  | comment content => exact Or.inr ⟨_, rfl, rfl⟩
  | doctype => exact h.elim
  | contents => exact h.elim

/-- Siblings are read back one after the other when each of them is. -/
theorem tokens_markupOf_of_markup {nodes : List Node} (hreadable : ∀ node ∈ nodes, node.IsReadable)
    (h : ∀ node ∈ nodes, ∀ rest, node.text? = none ∨ EndsText rest →
      Lexer.tokens (node.markup ++ rest) = node.tokens ++ Lexer.tokens rest)
    (hapart : nodes.IsChain fun first second => first.text? = none ∨ second.text? = none)
    {rest : List Char} (hrest : EndsText rest) :
    Lexer.tokens (markupOf nodes ++ rest) = tokensOf nodes ++ Lexer.tokens rest := by
  induction nodes with
  | nil => rfl
  | cons node others ih =>
      rw [List.forall_mem_cons] at hreadable h
      have hends : node.text? = none ∨ EndsText (markupOf others ++ rest) := by
        cases others with
        | nil => exact Or.inr hrest
        | cons next more =>
            rcases (List.isChain_cons_cons.mp hapart).1 with hnode | hnext
            · exact Or.inl hnode
            · right
              rw [markupOf, List.append_assoc]
              exact Node.endsText_markup (hreadable.2 next List.mem_cons_self) hnext _
      rw [markupOf, tokensOf, List.append_assoc, h.1 _ hends, ih hreadable.2 h.2 hapart.tail,
        List.append_assoc]

/-- A node is read back as the tokens that it stands for. A text is so when it ends where it ended. -/
theorem tokens_markup {node : Node} (h : node.Everywhere Node.IsReadable) (rest : List Char)
    (hends : node.text? = none ∨ EndsText rest) :
    Lexer.tokens (node.markup ++ rest) = node.tokens ++ Lexer.tokens rest := by
  induction node using Node.childInduction generalizing rest with
  | step node ih =>
      obtain ⟨hself, hbelow⟩ := Node.everywhere_iff.mp h
      cases node with
      | element name attributes children =>
          have hchildren : Lexer.tokens (markupOf children ++ (endTagText name.name ++ rest)) =
              tokensOf children ++ Lexer.tokens (endTagText name.name ++ rest) :=
            tokens_markupOf_of_markup (fun child hchild => (Node.everywhere_iff.mp (hbelow child hchild)).1)
              (fun child hchild => ih child hchild (hbelow child hchild)) hself.apart
              (Lexer.endsText_endTag (isTagName_lower hself.tagName) rest)
          by_cases hvoid : voidNames.contains name.name = true
          · obtain rfl : children = [] := List.isEmpty_iff.mp (hself.void hvoid)
            rw [Node.markup, Node.tokens, if_pos hvoid, if_pos hvoid, List.append_nil, List.cons_append,
              Lexer.tokens_startTag hself.isReadable]
            rfl
          · calc Lexer.tokens ((Node.element name attributes children).markup ++ rest)
                = Lexer.tokens ('<' :: ((Tag.ofElement name attributes).text ++
                    (markupOf children ++ (endTagText name.name ++ rest)))) := by
                  rw [Node.markup, if_neg hvoid, if_neg (ne_true_of_eq_false hself.holdsMarkup)]
                  simp only [List.cons_append, List.append_assoc]
              _ = .startTag (Tag.ofElement name attributes) ::
                    (tokensOf children ++ .endTag name.name :: Lexer.tokens rest) := by
                  rw [Lexer.tokens_startTag hself.isReadable, hchildren, Lexer.tokens_endTag hself.tagName]
              _ = (Node.element name attributes children).tokens ++ Lexer.tokens rest := by
                  rw [Node.tokens, if_neg hvoid]
                  simp only [List.cons_append, List.append_assoc, List.nil_append]
      | text content =>
          obtain ⟨hne, hclean⟩ := hself
          have hchars : content.toList ≠ [] := fun hnil => hne (String.toList_eq_nil_iff.mp hnil)
          rw [Node.markup, Lexer.tokens_escapeText hchars hclean.2 (hends.resolve_left (Option.some_ne_none _)),
            String.ofList_toList]
          rfl
      | comment content =>
          obtain ⟨hclean, htext⟩ := hself
          rw [Node.markup, List.append_assoc, List.append_assoc]
          have := Lexer.tokens_comment htext hclean.2 rest
          rw [String.ofList_toList] at this
          exact this
      | doctype => exact hself.elim
      | contents => exact hself.elim

/-! ### The source -/

theorem not_mem_endTagText {name : String} (h : isTagName (lower name.toList) = true) :
    '\r' ∉ endTagText name := by
  rw [endTagText, List.mem_append, List.mem_append, not_or, not_or]
  refine ⟨⟨by decide, ?_⟩, by decide⟩
  intro hmem
  have hpart := isNamePart_of_isTagName h _ (List.mem_map_of_mem hmem)
  revert hpart
  decide

theorem not_mem_markupOf_of_markup {nodes : List Node} (h : ∀ node ∈ nodes, '\r' ∉ node.markup) :
    '\r' ∉ markupOf nodes := by
  induction nodes with
  | nil => exact List.not_mem_nil
  | cons node rest ih =>
      rw [List.forall_mem_cons] at h
      rw [markupOf, List.mem_append, not_or]
      exact ⟨h.1, ih h.2⟩

/-- Reading replaces nothing in the markup of a node. -/
theorem not_mem_markup {node : Node} (h : node.Everywhere Node.IsReadable) : '\r' ∉ node.markup := by
  induction node using Node.childInduction with
  | step node ih =>
      obtain ⟨hself, hbelow⟩ := Node.everywhere_iff.mp h
      have hchildren := not_mem_markupOf_of_markup fun child hchild => ih child hchild (hbelow child hchild)
      cases node with
      | element name attributes children =>
          have htag : '\r' ∉ (Tag.ofElement name attributes).text := by
            apply Tag.not_mem_text hself.isReadable.lowered
            exact List.forall_mem_map.mpr fun a ha => (hself.values a ha).1
          rw [Node.children] at hchildren
          rw [Node.markup, List.mem_cons, List.mem_append, not_or, not_or]
          refine ⟨by decide, htag, ?_⟩
          split
          · exact List.not_mem_nil
          · rw [if_neg (ne_true_of_eq_false hself.holdsMarkup), List.mem_append, not_or]
            exact ⟨hchildren, not_mem_endTagText (isTagName_lower hself.tagName)⟩
      | text content =>
          intro hmem
          rcases (mem_escapeText hmem).2 with hmem | hmem
          · exact hself.2.1 hmem
          · revert hmem
            decide
      | comment content =>
          have := hself.1.1
          simp [Node.markup, this]
      | doctype => exact hself.elim
      | contents => exact hself.elim

theorem prepare_of_lt {cs : List Char} (h : '\r' ∉ '<' :: cs) :
    Construction.prepare (String.ofList ('<' :: cs)) = '<' :: cs := by
  rw [Construction.prepare, String.toList_ofList]
  exact normalizeLineEndings_of_not_mem h

/-- What an element is written as is cut into the tokens that its tree stands for. -/
theorem tokens_write {node : Node} (helement : node.tag?.isSome = true)
    (h : node.Everywhere Node.IsReadable) (engine : StyleEngine) (address : Address) :
    ∃ written, (Writer.verbatim engine).write ⟨address, node⟩ = .ok written ∧
      Lexer.tokens (Construction.prepare written) = node.tokens := by
  refine ⟨_, Writer.write_verbatim ⟨address, node⟩, ?_⟩
  cases node with
  | element name attributes children =>
      have hsource := not_mem_markup h
      have htokens := tokens_markup h [] (Or.inl rfl)
      rw [List.append_nil] at htokens
      rw [Node.markup] at hsource htokens ⊢
      rw [prepare_of_lt hsource, htokens, Lexer.tokens, List.append_nil]
  | text => cases helement
  | comment => cases helement
  | doctype => cases helement
  | contents => cases helement

/-- A paragraph with an attribute whose name begins with an equals sign, a text between two comments that
hold hyphens, and a line break. -/
def paragraphWithComments : Node :=
  .element ⟨.html, "p"⟩ [⟨.plain, "title", "a \"b\" &amp;"⟩, ⟨.plain, "=x", ""⟩] [
    .comment "-note--", .text "1 < 2 &lt", .comment "!--", .element ⟨.html, "br"⟩ [] [], .text "\u00a0;"]

theorem tokens_write_paragraphWithComments :
    paragraphWithComments.tag?.isSome = true ∧ paragraphWithComments.Everywhere Node.IsReadable ∧
    (Writer.verbatim ⟨.ok, .ok⟩).write ⟨[], paragraphWithComments⟩ =
      .ok ("<p title=\"a &quot;b&quot; &amp;amp;\" =x=\"\"><!---note---->1 &lt; 2 &amp;lt" ++
        "<!--!----><br>&nbsp;;</p>") ∧
    paragraphWithComments.tokens = [
      .startTag ⟨"p", [("title", "a \"b\" &amp;"), ("=x", "")], false⟩, .comment "-note--",
      .text "1 < 2 &lt", .comment "!--", .startTag ⟨"br", [], false⟩, .text "\u00a0;", .endTag "p"] ∧
    ∃ written, (Writer.verbatim ⟨.ok, .ok⟩).write ⟨[], paragraphWithComments⟩ = .ok written ∧
      Lexer.tokens (Construction.prepare written) = paragraphWithComments.tokens :=
  have hreadable : paragraphWithComments.Everywhere Node.IsReadable := by decide +kernel
  ⟨rfl, hreadable, by decide +kernel, by decide +kernel, tokens_write rfl hreadable ⟨.ok, .ok⟩ []⟩

end MarkupModule.Markup
