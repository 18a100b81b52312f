import MarkupModule.Proofs.Construction.Readings
import MarkupModule.Proofs.RootTags.StartTag

/-! One turn of the lexer next to the scan for document elements. The scan takes a shorter way through a
source than the lexer, without the tree; stated here is when the lexer goes the same way in a turn, and
that the scan then sees the document elements of the turn and goes on where the lexer does. -/

namespace MarkupModule.Markup

open MarkupModule.Text
open Lexer (TagState)

/-- The name of the element whose text is read. -/
def ContentMode.element? : ContentMode → Option String
  | .referenceText name => some name
  | .rawText name => some name
  | .scriptText => some "script"
  | _ => none

namespace RootTags

def isRootName (name : String) : Bool :=
  ["html", "head", "body"].contains name

/-- The text before and behind the end of an element, as the scan finds it. -/
def cutElement (name : String) (s : List Char) : List Char × List Char :=
  cutBefore ("</" ++ name).toList (lower s)

/-- The text that the scan looks at when the lexer is at the beginning of a text. -/
def viewOf (content : ContentMode) (s : List Char) : List Char :=
  match content.element? with
  | some name => (cutElement name s).2
  | none => lower s

/-- Whether a comment ends at the first `-->`, or another piece of markup that is no start tag at the
first `>`; the text behind its `<` and what follows it are given. -/
def endsAtMark (behind rest : List Char) : Bool :=
  match dropPrefix? "!--".toList behind with
  | some inside => rest == dropThrough "-->".toList inside
  | none => rest == dropThrough ">".toList behind

end RootTags

namespace Construction.Reading

open RootTags

/-- Whether a start tag is read as the scan expects. No equals sign stands in its name, every quote behind
an equals sign opens a value, and a document element is spelled with a whole name in a tag that is closed.
What follows is text of the element for the tree if it is for the scan, unless no `<` is in it. -/
def opensPlainly (r : Reading) : Bool :=
  let name := writtenName r.behind
  let seen := nameAt r.behind
  !name.contains '=' && TagState.between.opensValues false (behindName r.behind) &&
    (!isRootName seen || (name.all isNameChar && !r.lexed.tokens.isEmpty)) &&
    match r.after.content.element? with
    | some element => element == seen && textElements.contains seen
    | none => !textElements.contains seen || !(cutElement seen r.lexed.rest).1.contains '<'

/-- Whether the text of an element, or its end tag, is read as the scan expects: the text ends at the first
`</` with the name of the element behind it. -/
def endsPlainly (r : Reading) (element : String) : Bool :=
  if r.first = '<' && Lexer.closes element r.behind then endsAtMark r.behind r.lexed.rest
  else (cutElement element (r.first :: r.behind)).2 == lower r.lexed.rest

/-- Whether a turn of the lexer is as the scan expects. Text between tags always is; text behind
`<plaintext>` is when no `<` is in it. -/
def isPlain (r : Reading) : Bool :=
  match r.before.content.element? with
  | some element => r.endsPlainly element
  | none =>
    if r.before.content = .plainText then !(r.first :: r.behind).contains '<'
    else if r.first = '<' && Lexer.opensMarkup r.behind then
      if r.behind.head?.any Char.isAlpha then r.opensPlainly else endsAtMark r.behind r.lexed.rest
    else true

end Construction.Reading

namespace RootTags

open Construction (Reading)

/-- The document elements among the names that the scan sees. -/
def rootsIn (s : List Char) : List String :=
  (tagNames s).filter isRootName

/-- The document elements among start tags. -/
def rootsOf (tokens : List Token) : List String :=
  (tokens.filterMap Token.startName?).filter isRootName

theorem tagNames_nil : tagNames [] = [] := by
  rw [tagNames_eq]
  rfl

theorem rootsIn_nil : rootsIn [] = [] := by
  rw [rootsIn, tagNames_nil]
  rfl

theorem viewOf_nil (content : ContentMode) : viewOf content [] = [] := by
  cases content <;> rfl

theorem rootsOf_eq_nil {tokens : List Token} (h : ∀ token ∈ tokens, token.startName? = none) :
    rootsOf tokens = [] := by
  rw [rootsOf, List.filterMap_eq_nil_iff.mpr h]
  rfl

/-! ### Text between tags -/

theorem tagNames_append_of_not_mem {s : List Char} (h : '<' ∉ s) (t : List Char) :
    tagNames (s ++ t) = tagNames t := by
  induction s with
  | nil => rfl
  | cons c cs ih =>
      rw [List.mem_cons, not_or] at h
      rw [List.cons_append, tagNames_of_ne (Ne.symm h.1), ih h.2]

theorem opensMarkup_lower (s : List Char) : Lexer.opensMarkup (lower s) = Lexer.opensMarkup s := by
  cases s with
  | nil => rfl
  | cons c cs =>
      by_cases hc : c = '/'
      · subst hc
        cases cs <;> rfl
      · have hlower : c.toLower ≠ '/' := fun heq => hc ((eq_toLower_iff (by decide)).mp heq.symm).symm
        change Lexer.opensMarkup (c.toLower :: lower cs) = _
        rw [Lexer.opensMarkup_cons hlower, Lexer.opensMarkup_cons hc,
          Char.isAlpha_toLower_eq_isAlpha, beq_toLower (by decide), beq_toLower (by decide)]

/-- A `<` that begins no markup is passed over. -/
theorem tagNames_of_not_opensMarkup {s : List Char} (h : Lexer.opensMarkup s = false) :
    tagNames ('<' :: s) = tagNames s := by
  rw [tagNames_cons]
  cases s with
  | nil => rfl
  | cons c cs =>
      by_cases hc : c = '/'
      · subst hc
        cases cs with
        | nil =>
            have hstep : step ['/'] = (none, []) := rfl
            rw [hstep, tagNames_of_ne (by decide)]
            rfl
        | cons d ds => cases h
      · rw [Lexer.opensMarkup_cons hc, Bool.or_eq_false_iff, Bool.or_eq_false_iff] at h
        have hmark : isMark c = false := by
          rw [isMark, h.1.2, h.2, beq_eq_false_iff_ne.mpr hc]
          rfl
        rw [step_of_text hmark h.1.1]
        rfl

/-- A character that begins no markup is passed over. -/
theorem tagNames_lower_cons {c : Char} {cs : List Char}
    (h : (decide (c = '<') && Lexer.opensMarkup cs) = false) :
    tagNames (lower (c :: cs)) = tagNames (lower cs) := by
  change tagNames (c.toLower :: lower cs) = _
  by_cases hc : c = '<'
  · subst hc
    exact tagNames_of_not_opensMarkup ((opensMarkup_lower cs).trans h)
  · exact tagNames_of_ne (fun heq => hc ((eq_toLower_iff (by decide)).mp heq.symm).symm) _

theorem tagNames_cutText (s : List Char) :
    tagNames (lower (Lexer.cutText s).2) = tagNames (lower s) := by
  induction s with
  | nil => rfl
  | cons c cs ih =>
      rw [Lexer.cutText]
      split
      · rfl
      · rename_i htext
        rw [Bool.not_eq_true, Bool.or_eq_false_iff] at htext
        rw [tagNames_lower_cons htext.2, ← ih]

/-! ### Comments, declarations and end tags -/

theorem step_lower_of_endsAtMark {c : Char} {cs rest : List Char} (hc : isMark c = true)
    (h : endsAtMark (c :: cs) rest = true) : step (lower (c :: cs)) = (none, lower rest) := by
  have hprefix : dropPrefix? "!--".toList (lower (c :: cs)) = _ := dropPrefix?_lower rfl _
  have halpha : c.isAlpha = false := by
    rw [isMark, Bool.or_eq_true, Bool.or_eq_true, beq_iff_eq, beq_iff_eq, beq_iff_eq] at hc
    rcases hc with (rfl | rfl) | rfl <;> decide
  rw [endsAtMark] at h
  cases hcomment : dropPrefix? "!--".toList (c :: cs) with
  | some inside =>
      rw [hcomment] at h hprefix
      rw [step_of_comment hprefix, eq_of_beq h, dropThrough_lower rfl]
  | none =>
      rw [hcomment] at h hprefix
      have hlower : lower (c :: cs) = c :: lower cs := by
        change c.toLower :: lower cs = _
        rw [toLower_of_not_isAlpha halpha]
      have hthrough : dropThrough ">".toList (lower (c :: cs)) = _ := dropThrough_lower rfl _
      rw [hlower] at hprefix hthrough ⊢
      rw [step_of_isMark hc hprefix, eq_of_beq h, hthrough]

/-- A piece of markup that is no start tag is passed over. -/
theorem tagNames_of_endsAtMark {c : Char} {cs rest : List Char} (hc : isMark c = true)
    (h : endsAtMark (c :: cs) rest = true) :
    tagNames (lower ('<' :: c :: cs)) = tagNames (lower rest) := by
  change tagNames ('<' :: lower (c :: cs)) = _
  rw [tagNames_cons, step_lower_of_endsAtMark hc h]
  rfl

end RootTags

/-! ### Tokens without start tags -/

namespace Lexer

theorem startName?_of_mem_splitNul {s : List Char} : ∀ token ∈ splitNul s, token.startName? = none := by
  induction s with
  | nil => exact nofun
  | cons c cs ih =>
      rw [splitNul]
      split
      · exact List.forall_mem_cons.mpr ⟨rfl, ih⟩
      · split
        · rename_i heq
          rw [heq, List.forall_mem_cons] at ih
          exact List.forall_mem_cons.mpr ⟨rfl, ih.2⟩
        · exact List.forall_mem_cons.mpr ⟨rfl, ih⟩

theorem endTag_cases (s : List Char) :
    endTag s = ⟨[], []⟩ ∨ ∃ name rest, endTag s = ⟨[.endTag name], rest⟩ := by
  rw [endTag]
  split
  · exact Or.inr ⟨_, _, rfl⟩
  · exact Or.inl rfl

theorem startName?_of_mem_endTag {s : List Char} :
    ∀ token ∈ (endTag s).tokens, token.startName? = none := by
  rcases endTag_cases s with h | ⟨name, rest, h⟩
  · rw [h]
    exact nofun
  · rw [h]
    exact List.forall_mem_singleton.mpr rfl

theorem startName?_of_mem_declared {sections : Bool} {s : List Char} :
    ∀ token ∈ (declared sections s).tokens, token.startName? = none := by
  rw [declared]
  split
  · exact List.forall_mem_singleton.mpr rfl
  · split
    · exact List.forall_mem_singleton.mpr rfl
    · split
      · split
        · exact startName?_of_mem_splitNul
        · exact List.forall_mem_singleton.mpr rfl
      · exact List.forall_mem_singleton.mpr rfl

/-- Only markup that begins with a letter is a start tag. -/
theorem startName?_of_mem_markup {sections : Bool} {c : Char} {cs : List Char}
    (h : c.isAlpha = false) : ∀ token ∈ (markup sections (c :: cs)).tokens, token.startName? = none := by
  unfold markup
  split
  · exact nofun
  · split
    · exact nofun
    · exact nofun
    · split
      · exact startName?_of_mem_endTag
      · exact List.forall_mem_singleton.mpr rfl
  · exact startName?_of_mem_declared
  · rename_i heq
    obtain ⟨rfl, rfl⟩ := List.cons.inj heq
    rw [h]
    exact List.forall_mem_singleton.mpr rfl

theorem first_of_closes {content : ContentMode} {element : String}
    (helement : content.element? = some element) {c : Char} {cs : List Char}
    (hcloses : (decide (c = '<') && closes element cs) = true) (sections : Bool) :
    first content sections c cs = endTag (cs.drop 1) := by
  cases content <;> cases helement <;> exact if_pos hcloses

theorem first_of_not_closes {content : ContentMode} {element : String}
    (helement : content.element? = some element) {c : Char} {cs : List Char}
    (hcloses : (decide (c = '<') && closes element cs) = false) (sections : Bool) :
    ∃ run rest, first content sections c cs = ⟨[.text run], rest⟩ := by
  cases content <;> cases helement <;> rw [first, hcloses] <;> exact ⟨_, _, rfl⟩

end Lexer

namespace RootTags

open Construction (Reading)

/-- The scan sees the document elements of a turn, and goes on where the lexer does. -/
def InStep (r : Reading) : Prop :=
  rootsIn (viewOf r.before.content (r.first :: r.behind)) =
    rootsOf r.lexed.tokens ++ rootsIn (viewOf r.after.content r.lexed.rest)

variable {r : Reading}

theorem cutElement_of_closes {element : String} {s : List Char}
    (h : Lexer.closes element s = true) : (cutElement element ('<' :: s)).2 = lower ('<' :: s) := by
  have hpattern : ("</" ++ element).toList = '<' :: '/' :: element.toList := by
    rw [String.toList_append]
    rfl
  have hstarts : startsWith ('<' :: '/' :: element.toList) ('<' :: lower s) = true :=
    Lexer.startsWith_of_closes h
  rw [cutElement, hpattern]
  change (cutBefore _ ('<' :: lower s)).2 = _
  rw [cutBefore, if_pos hstarts]
  rfl

theorem exists_cons_of_closes {element : String} {s : List Char}
    (h : Lexer.closes element s = true) : ∃ t, s = '/' :: t := by
  unfold Lexer.closes at h
  split at h
  · exact ⟨_, rfl⟩
  · cases h

theorem rootsIn_viewOf_endTag {s : List Char} (h : r.lexed = Lexer.endTag s) :
    rootsIn (viewOf r.after.content r.lexed.rest) = rootsIn (lower r.lexed.rest) := by
  rcases Lexer.endTag_cases s with hend | ⟨name, rest, hend⟩
  · rw [h, hend, viewOf_nil]
    rfl
  · have hafter : r.after.content = .markup := by
      rw [Reading.after, h, hend]
      exact Construction.Builder.content_receive_endTag _ name
    rw [hafter]
    rfl

theorem inStep_of_closes {element : String} (helement : r.before.content.element? = some element)
    (hcloses : (decide (r.first = '<') && Lexer.closes element r.behind) = true)
    (h : endsAtMark r.behind r.lexed.rest = true) : InStep r := by
  have hlexed : r.lexed = Lexer.endTag (r.behind.drop 1) :=
    Lexer.first_of_closes helement hcloses r.before.allowsSections
  rw [Bool.and_eq_true, decide_eq_true_eq] at hcloses
  obtain ⟨hfirst, hcloses⟩ := hcloses
  have hview : viewOf r.before.content (r.first :: r.behind) = lower ('<' :: r.behind) := by
    rw [viewOf, helement, hfirst]
    exact cutElement_of_closes hcloses
  have htokens : rootsOf r.lexed.tokens = [] := by
    rw [hlexed]
    exact rootsOf_eq_nil Lexer.startName?_of_mem_endTag
  obtain ⟨t, hbehind⟩ := exists_cons_of_closes hcloses
  rw [InStep, hview, htokens, rootsIn_viewOf_endTag hlexed, List.nil_append, rootsIn, rootsIn]
  rw [hbehind] at h ⊢
  rw [tagNames_of_endsAtMark rfl h]

theorem inStep_of_element {element : String} (helement : r.before.content.element? = some element)
    (h : r.endsPlainly element = true) : InStep r := by
  rw [Reading.endsPlainly] at h
  cases hcloses : decide (r.first = '<') && Lexer.closes element r.behind with
  | true =>
      rw [hcloses] at h
      exact inStep_of_closes helement hcloses h
  | false =>
      rw [hcloses] at h
      have hcut : (cutElement element (r.first :: r.behind)).2 = lower r.lexed.rest := eq_of_beq h
      obtain ⟨run, rest, hfirst⟩ :=
        Lexer.first_of_not_closes helement hcloses r.before.allowsSections
      have hlexed : r.lexed = ⟨[.text run], rest⟩ := hfirst
      have hafter : r.after.content = r.before.content := by
        have htoken : (Token.text run).isTag = false := rfl
        rw [Reading.after, hlexed]
        exact Construction.Builder.content_receive _ htoken
      have hview : viewOf r.before.content r.lexed.rest = lower r.lexed.rest := by
        rw [viewOf, helement]
        dsimp only
        rw [cutElement, ← hcut]
        exact cutBefore_cutBefore _ _
      rw [InStep, hafter, hview, ← hcut, viewOf, helement, hlexed]
      rfl

theorem inStep_of_plainText (hcontent : r.before.content = .plainText)
    (h : '<' ∉ r.first :: r.behind) : InStep r := by
  have hlexed : r.lexed = ⟨Lexer.textToken (Lexer.replaceNul (r.first :: r.behind)), []⟩ := by
    rw [Reading.lexed, hcontent]
    rfl
  have hlower : '<' ∉ lower (r.first :: r.behind) := fun hmem => h (mem_of_mem_lower (by decide) hmem)
  have hnames : tagNames (lower (r.first :: r.behind)) = [] := by
    have happend := tagNames_append_of_not_mem hlower []
    rwa [List.append_nil, tagNames_nil] at happend
  rw [InStep, hlexed, viewOf_nil, rootsIn_nil, hcontent]
  change rootsIn (lower (r.first :: r.behind)) = _
  rw [rootsIn, hnames]
  rfl

/-- In markup, a turn without start tags is in step when the scan passes over it. -/
theorem inStep_of_markup (hcontent : r.before.content = .markup)
    (htokens : ∀ token ∈ r.lexed.tokens, token.startName? = none)
    (h : tagNames (lower (r.first :: r.behind)) = tagNames (lower r.lexed.rest)) : InStep r := by
  have hafter : r.after.content = .markup :=
    Construction.Builder.content_foldl_receive htokens hcontent
  rw [InStep, rootsOf_eq_nil htokens, hafter, hcontent]
  exact congrArg (List.filter isRootName) h

theorem inStep_of_text (hcontent : r.before.content = .markup)
    (h : (decide (r.first = '<') && Lexer.opensMarkup r.behind) = false) : InStep r := by
  have hlexed : r.lexed = Lexer.first .markup r.before.allowsSections r.first r.behind := by
    rw [Reading.lexed, hcontent]
  rw [Lexer.first, h, if_neg Bool.false_ne_true] at hlexed
  split at hlexed
  · apply inStep_of_markup hcontent
    · rw [hlexed]
      exact List.forall_mem_singleton.mpr rfl
    · rw [hlexed]
      exact tagNames_lower_cons h
  · apply inStep_of_markup hcontent
    · rw [hlexed]
      exact List.forall_mem_singleton.mpr rfl
    · rw [hlexed, tagNames_lower_cons h]
      exact (tagNames_cutText r.behind).symm

/-- What a turn consists of where markup begins. -/
theorem lexed_of_opensMarkup (hcontent : r.before.content = .markup) (hfirst : r.first = '<')
    (hopens : Lexer.opensMarkup r.behind = true) :
    r.lexed = Lexer.markup r.before.allowsSections r.behind := by
  rw [Reading.lexed, hcontent, hfirst, Lexer.first, hopens]
  rfl

theorem inStep_of_endsAtMark (hcontent : r.before.content = .markup) (hfirst : r.first = '<')
    (hopens : Lexer.opensMarkup r.behind = true) (halpha : r.behind.head?.any Char.isAlpha = false)
    (h : endsAtMark r.behind r.lexed.rest = true) : InStep r := by
  have hlexed := lexed_of_opensMarkup hcontent hfirst hopens
  cases hbehind : r.behind with
  | nil =>
      rw [hbehind] at hopens
      cases hopens
  | cons c cs =>
      rw [hbehind] at hopens halpha h hlexed
      have hmark : isMark c = true := by
        change c.isAlpha = false at halpha
        by_cases hc : c = '/'
        · rw [hc]
          rfl
        · rw [Lexer.opensMarkup_cons hc, halpha, Bool.false_or] at hopens
          rw [isMark, hopens]
          rfl
      apply inStep_of_markup hcontent
      · rw [hlexed]
        exact Lexer.startName?_of_mem_markup halpha
      · rw [hfirst, hbehind]
        exact tagNames_of_endsAtMark hmark h

/-! ### Start tags -/

theorem step_lower_of_isAlpha {c : Char} {cs : List Char} (hc : c.isAlpha = true)
    (hequals : '=' ∉ writtenName (c :: cs))
    (hopens : TagState.between.opensValues false (behindName (c :: cs)) = true) :
    step (lower (c :: cs)) = (some (nameAt (c :: cs)),
      afterElement (nameAt (c :: cs))
        (lower (Lexer.restOfTag .between (behindName (c :: cs))))) := by
  have hrest : afterTag .plain (lower (behindName (c :: cs))) = _ :=
    afterTag_lower fits_between hopens
  have hlower : c.toLower.isAlpha = true := by rwa [Char.isAlpha_toLower_eq_isAlpha]
  have hstep := step_cons_of_isAlpha hlower (lower cs)
  change step (lower (c :: cs)) = (some (String.ofList ((lower (c :: cs)).takeWhile isNameChar)),
    afterElement (String.ofList ((lower (c :: cs)).takeWhile isNameChar))
      (afterTag .plain ((lower (c :: cs)).dropWhile isNameChar))) at hstep
  rw [hstep, takeWhile_lower isNameChar_toLower, dropWhile_lower isNameChar_toLower,
    afterTag_dropWhile hequals, hrest]
  rfl

/-- What follows a start tag is text of the element for both or for neither, as far as it matters. -/
theorem rootsIn_afterElement {seen : String} {content : ContentMode} {s : List Char}
    (h : (match content.element? with
      | some element => element == seen && textElements.contains seen
      | none => !textElements.contains seen || !(cutElement seen s).1.contains '<') = true) :
    rootsIn (afterElement seen (lower s)) = rootsIn (viewOf content s) := by
  rw [viewOf, afterElement]
  cases helement : content.element? with
  | some element =>
      rw [helement, Bool.and_eq_true, beq_iff_eq] at h
      obtain ⟨rfl, htext⟩ := h
      rw [if_pos htext]
      rfl
  | none =>
      rw [helement] at h
      split
      · rename_i htext
        rw [htext, Bool.not_true, Bool.false_or, Bool.not_eq_true', ← Bool.not_eq_true,
          List.contains_iff_mem] at h
        have hnames := tagNames_append_of_not_mem h (cutElement seen s).2
        rw [cutElement, cutBefore_append] at hnames
        rw [rootsIn, rootsIn, hnames]
      · rfl

/-- The scan sees the name of a start tag if it is that of a document element. -/
theorem rootsOf_startTag {s : List Char}
    (h : (!isRootName (nameAt s) ||
      ((writtenName s).all isNameChar && !(Lexer.startTag s).tokens.isEmpty)) = true) :
    rootsOf (Lexer.startTag s).tokens = [nameAt s].filter isRootName := by
  rcases Lexer.startTag_cases s with ⟨hnone, _⟩ | ⟨tag, hsome, hname⟩
  · rw [hnone] at h ⊢
    rw [List.isEmpty_nil, Bool.not_true, Bool.and_false, Bool.or_false, Bool.not_eq_true'] at h
    rw [List.filter_singleton, h]
    rfl
  · rw [hsome] at h ⊢
    change [tag.name].filter isRootName = _
    cases hall : (writtenName s).all isNameChar with
    | true => rw [hname, ofList_eq_nameAt hall]
    | false =>
        rw [hall, Bool.false_and, Bool.or_false, Bool.not_eq_true'] at h
        have hroot : isRootName tag.name = false := by
          by_contra hroot
          rw [Bool.not_eq_false, isRootName, List.contains_iff_mem, hname] at hroot
          rw [all_isNameChar_of_mem (by decide) hroot] at hall
          cases hall
        rw [List.filter_singleton, List.filter_singleton, h, hroot]
        rfl

theorem inStep_of_opensPlainly (hcontent : r.before.content = .markup) (hfirst : r.first = '<')
    (hopens : Lexer.opensMarkup r.behind = true) (halpha : r.behind.head?.any Char.isAlpha = true)
    (h : r.opensPlainly = true) : InStep r := by
  have hlexed := lexed_of_opensMarkup hcontent hfirst hopens
  cases hbehind : r.behind with
  | nil =>
      rw [hbehind] at halpha
      cases halpha
  | cons c cs =>
      rw [hbehind] at halpha hlexed
      rw [Lexer.markup_cons_of_isAlpha halpha] at hlexed
      have hrest : r.lexed.rest = Lexer.restOfTag .between (behindName (c :: cs)) := by
        rcases Lexer.startTag_cases (c :: cs) with ⟨hnone, hnil⟩ | ⟨tag, hsome, _⟩
        · rw [hlexed, hnone, hnil]
        · rw [hlexed, hsome]
      simp only [Reading.opensPlainly, hbehind, Bool.and_eq_true, Bool.not_eq_true'] at h
      obtain ⟨⟨⟨hequals, hvalues⟩, hname⟩, helement⟩ := h
      rw [← Bool.not_eq_true, List.contains_iff_mem] at hequals
      have htokens : rootsOf r.lexed.tokens = [nameAt (c :: cs)].filter isRootName := by
        rw [hlexed] at hname ⊢
        exact rootsOf_startTag hname
      have hview : viewOf r.before.content (r.first :: r.behind) = '<' :: lower (c :: cs) := by
        rw [hcontent, hfirst, hbehind]
        rfl
      rw [InStep, hview, htokens, ← rootsIn_afterElement helement, rootsIn, tagNames_cons,
        step_lower_of_isAlpha halpha hequals hvalues, hrest, List.filter_append]
      rfl

/-- A turn that is as the scan expects is in step. -/
theorem inStep_of_isPlain (h : r.isPlain = true) : InStep r := by
  rw [Reading.isPlain] at h
  cases helement : r.before.content.element? with
  | some element =>
      rw [helement] at h
      exact inStep_of_element helement h
  | none =>
      rw [helement] at h
      dsimp only at h
      by_cases hplain : r.before.content = .plainText
      · rw [if_pos hplain, Bool.not_eq_true', ← Bool.not_eq_true, List.contains_iff_mem] at h
        exact inStep_of_plainText hplain h
      · have hcontent : r.before.content = .markup := by
          cases hcases : r.before.content with
          | markup => rfl
          | plainText => exact absurd hcases hplain
          | _ =>
              rw [hcases] at helement
              cases helement
        rw [if_neg hplain] at h
        cases hopens : decide (r.first = '<') && Lexer.opensMarkup r.behind with
        | false => exact inStep_of_text hcontent hopens
        | true =>
            rw [hopens, if_pos rfl] at h
            rw [Bool.and_eq_true, decide_eq_true_eq] at hopens
            cases halpha : r.behind.head?.any Char.isAlpha with
            | true =>
                rw [halpha, if_pos rfl] at h
                exact inStep_of_opensPlainly hcontent hopens.1 hopens.2 halpha h
            | false =>
                rw [halpha] at h
                exact inStep_of_endsAtMark hcontent hopens.1 hopens.2 halpha h

/-- Over a run of turns that are as the scan expects, the scan sees the document elements that the lexer
emits. -/
theorem rootsIn_viewOf {b : Construction.Builder} {s : List Char}
    (h : ∀ r ∈ Construction.readings b s, r.isPlain = true) :
    rootsIn (viewOf b.content s) =
      rootsOf ((Construction.readings b s).flatMap fun r => r.lexed.tokens) := by
  fun_induction Construction.readings b s with
  | case1 b =>
      rw [viewOf_nil, rootsIn_nil]
      rfl
  | case2 b c cs r ih =>
      rw [List.forall_mem_cons] at h
      have hstep : rootsIn (viewOf b.content (c :: cs)) = _ := inStep_of_isPlain h.1
      rw [hstep, ih h.2, List.flatMap_cons, rootsOf, rootsOf, rootsOf, List.filterMap_append,
        List.filter_append]

end RootTags

end MarkupModule.Markup
