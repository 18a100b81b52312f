import MarkupModule.Proofs.RootTags.LineEndings

/-! How the scan for document elements and the lexer read the same start tag. The scan reads less of a
name than the lexer, and opens a value at every quote with an equals sign in front of it. Where all these
quotes open values for the lexer too, both find the end of the tag at the same place. -/

namespace MarkupModule.Markup

open MarkupModule.Text

namespace Lexer

/-- Whether every quote with an equals sign before it, white space aside, opens a value; `equals` says
whether such a sign was just read. -/
def TagState.opensValues : TagState → Bool → List Char → Bool
  | _, _, [] => true
  | state, equals, c :: cs =>
    match state.step c with
    | .close _ _ => true
    | .next (TagState.quotedValue n quote v) _ => opensValues (.quotedValue n quote v) false cs
    | .next state' _ =>
      !(equals && isQuote c) && opensValues state' (c == '=' || (equals && isSpace c)) cs

def TagState.isQuoted : TagState → Bool
  | .quotedValue _ _ _ => true
  | _ => false

def TagState.expectsValue : TagState → Bool
  | .beforeValue _ => true
  | _ => false

theorem TagState.step_gt {state : TagState} (h : state.isQuoted = false) :
    ∃ selfClosing completed, state.step '>' = .close selfClosing completed := by
  cases state with
  | quotedValue n quote v => cases h
  | _ => exact ⟨_, _, rfl⟩

theorem eq_of_isQuote {c : Char} (h : isQuote c = true) : c = '"' ∨ c = '\'' := by
  rwa [isQuote, Bool.or_eq_true, beq_iff_eq, beq_iff_eq] at h

theorem TagState.step_quote {c : Char} (h : isQuote c = true) (n : List Char) :
    (TagState.beforeValue n).step c = .next (.quotedValue n c []) none := by
  rcases eq_of_isQuote h with rfl | rfl <;> rfl

/-- A step to a place outside of a quoted value, where a value is expected only under a condition. -/
def TagStep.Leads (value : Prop) : TagStep → Prop
  | .next state _ => state.isQuoted = false ∧ (state.expectsValue = true → value)
  | .close _ _ => False

/-- Outside of a quoted value, a character that neither closes the tag nor opens a value leads to a place
outside of one, and a value is expected only behind an equals sign. -/
theorem TagState.leads_step {state : TagState} (h : state.isQuoted = false) {c : Char} (hgt : c ≠ '>')
    (hquote : isQuote c = true → state.expectsValue = false) :
    (state.step c).Leads (c = '=' ∨ isSpace c = true ∧ state.expectsValue = true) := by
  cases state with
  | quotedValue n quote v => cases h
  | beforeValue n =>
      have hne : (decide (c = '"') || decide (c = '\'')) = false := by
        by_contra hopens
        rw [Bool.not_eq_false] at hopens
        cases hquote (by simpa [isQuote] using hopens)
      simp only [step]
      rw [hne, if_neg Bool.false_ne_true, if_neg hgt]
      split
      · rename_i hspace
        exact ⟨rfl, fun _ => Or.inr ⟨hspace, rfl⟩⟩
      · exact ⟨rfl, fun hexpects => (Bool.false_ne_true hexpects).elim⟩
  | _ =>
    simp only [step, stepBetween]
    split_ifs <;> simp_all [TagStep.Leads, isQuoted, expectsValue]

theorem TagState.opensValues_cons {state state' : TagState} {c : Char}
    {completed : Option (String × String)} (h : state.step c = .next state' completed)
    (hquoted : state'.isQuoted = false) (equals : Bool) (cs : List Char) :
    state.opensValues equals (c :: cs) =
      (!(equals && isQuote c) && state'.opensValues (c == '=' || (equals && isSpace c)) cs) := by
  rw [TagState.opensValues, h]
  cases state' with
  | quotedValue n quote v => cases hquoted
  | _ => rfl

/-- What follows a tag, read from a place in it; nothing when the input ends first. -/
def restOfTag (state : TagState) (s : List Char) : List Char :=
  (tagBody? state s).elim [] TagBody.rest

theorem restOfTag_cons {state state' : TagState} {c : Char} {completed : Option (String × String)}
    (h : state.step c = .next state' completed) (cs : List Char) :
    restOfTag state (c :: cs) = restOfTag state' cs := by
  rw [restOfTag, tagBody?, h]
  dsimp only
  rw [Option.elim_map]
  rfl

theorem restOfTag_cons_of_close {state : TagState} {c : Char} {selfClosing : Bool}
    {completed : Option (String × String)} (h : state.step c = .close selfClosing completed)
    (cs : List Char) : restOfTag state (c :: cs) = cs := by
  rw [restOfTag, tagBody?, h]
  rfl

end Lexer

namespace RootTags

open Lexer (TagState isQuote restOfTag)

theorem beq_toLower {x : Char} (h : x.isAlpha = false) (c : Char) : (c.toLower == x) = (c == x) := by
  rw [Bool.eq_iff_iff, beq_iff_eq, beq_iff_eq, eq_comm, eq_toLower_iff h, eq_comm]

theorem isSpace_toLower (c : Char) : isSpace c.toLower = isSpace c := by
  simp only [isSpace, beq_toLower (by decide : ' '.isAlpha = false),
    beq_toLower (by decide : '\t'.isAlpha = false), beq_toLower (by decide : '\n'.isAlpha = false),
    beq_toLower (by decide : '\x0c'.isAlpha = false), beq_toLower (by decide : '\r'.isAlpha = false)]

theorem isQuote_toLower (c : Char) : isQuote c.toLower = isQuote c := by
  rw [isQuote, isQuote, beq_toLower (by decide), beq_toLower (by decide)]

theorem isAlpha_of_isQuote {c : Char} (h : isQuote c = true) : c.isAlpha = false := by
  rcases Lexer.eq_of_isQuote h with rfl | rfl <;> decide

/-- The state of the scan outside of a value. -/
def TagScan.outside (equals : Bool) : TagScan :=
  if equals then .afterEquals else .plain

/-- The state of the scan that goes with a place in a tag. -/
def TagScan.at : TagState → Bool → TagScan
  | .quotedValue _ quote _, _ => .quoted quote
  | _, equals => .outside equals

theorem TagScan.at_eq_outside {state : TagState} (h : state.isQuoted = false) (equals : Bool) :
    TagScan.at state equals = .outside equals := by
  cases state with
  | quotedValue n quote v => cases h
  | _ => rfl

theorem TagScan.ends_outside (equals : Bool) (c : Char) :
    (TagScan.outside equals).ends c = (c == '>') := by
  cases equals <;> rfl

theorem TagScan.after_outside (equals : Bool) (c : Char) :
    (TagScan.outside equals).after c =
      if equals && isQuote c then .quoted c
      else .outside (c == '=' || (equals && isSpace c)) := by
  cases equals with
  | false =>
      simp only [TagScan.outside, TagScan.after]
      grind
  | true =>
      simp only [TagScan.outside, TagScan.after, isQuote]
      grind

/-- What holds of every place in a tag: a value is expected only behind an equals sign, and a value
that was opened was opened by a quote. -/
structure Fits (state : TagState) (equals : Bool) : Prop where
  value : state.expectsValue = true → equals = true
  quote : ∀ n q v, state = .quotedValue n q v → isQuote q = true

theorem fits_between : Fits .between false :=
  ⟨fun h => (Bool.false_ne_true h).elim, fun _ _ _ h => by cases h⟩

theorem fits_quotedValue {q : Char} (h : isQuote q = true) (n v : List Char) (equals : Bool) :
    Fits (.quotedValue n q v) equals := by
  refine ⟨fun hexpects => (Bool.false_ne_true hexpects).elim, ?_⟩
  intro n' q' v' heq
  obtain ⟨_, rfl, _⟩ := TagState.quotedValue.inj heq
  exact h

/-- A character that leads the lexer on in a tag leads the scan to the state that goes with the next
place. -/
def Follows (state : TagState) (equals : Bool) (c : Char) (cs : List Char) : Prop :=
  ∃ state' completed equals', state.step c = .next state' completed ∧
    (TagScan.at state equals).ends c.toLower = false ∧
    (TagScan.at state equals).after c.toLower = .at state' equals' ∧
    Fits state' equals' ∧ state'.opensValues equals' cs = true

section

variable {state : TagState} {equals : Bool} {c : Char} {cs : List Char}

theorem follows_quotedValue {n v : List Char} {q : Char} (hq : isQuote q = true)
    (hopens : (TagState.quotedValue n q v).opensValues equals (c :: cs) = true) :
    Follows (.quotedValue n q v) equals c cs := by
  by_cases hc : c = q
  · subst hc
    have hstep : (TagState.quotedValue n c v).step c =
        .next .between (some (Lexer.attributeOf n v)) := if_pos rfl
    have hlower : c.toLower = c := toLower_of_not_isAlpha (isAlpha_of_isQuote hq)
    rw [TagState.opensValues_cons hstep rfl, hq, Bool.and_true, Bool.and_eq_true,
      Bool.not_eq_true'] at hopens
    obtain ⟨rfl, hopens⟩ := hopens
    have hequals : (c == '=' || (false && isSpace c)) = false := by
      rcases Lexer.eq_of_isQuote hq with rfl | rfl <;> rfl
    rw [hequals] at hopens
    exact ⟨_, _, false, hstep, rfl, if_pos hlower, fits_between, hopens⟩
  · have hstep : (TagState.quotedValue n q v).step c = .next (.quotedValue n q (c :: v)) none :=
      if_neg hc
    have hlower : c.toLower ≠ q := fun heq =>
      hc ((eq_toLower_iff (isAlpha_of_isQuote hq)).mp heq.symm).symm
    rw [TagState.opensValues, hstep] at hopens
    exact ⟨_, _, false, hstep, rfl, if_neg hlower, fits_quotedValue hq n (c :: v) false, hopens⟩

theorem after_outside_toLower (equals : Bool) (c : Char) :
    (TagScan.outside equals).after c.toLower =
      if equals && isQuote c then .quoted c
      else .outside (c == '=' || (equals && isSpace c)) := by
  rw [TagScan.after_outside, isQuote_toLower, isSpace_toLower, beq_toLower (by decide)]
  split
  · rename_i hopen
    rw [Bool.and_eq_true] at hopen
    rw [toLower_of_not_isAlpha (isAlpha_of_isQuote hopen.2)]
  · rfl

theorem ends_outside_toLower (equals : Bool) (hgt : c ≠ '>') :
    (TagScan.outside equals).ends c.toLower = false := by
  rw [TagScan.ends_outside, beq_toLower (by decide), beq_eq_false_iff_ne]
  exact hgt

theorem follows_beforeValue {n : List Char} (hc : isQuote c = true)
    (hopens : (TagState.beforeValue n).opensValues true (c :: cs) = true) :
    Follows (.beforeValue n) true c cs := by
  have hstep := TagState.step_quote hc n
  have hgt : c ≠ '>' := by
    rcases Lexer.eq_of_isQuote hc with rfl | rfl <;> decide
  rw [TagState.opensValues, hstep] at hopens
  refine ⟨_, _, false, hstep, ends_outside_toLower true hgt, ?_, fits_quotedValue hc n [] false, hopens⟩
  rw [TagScan.at_eq_outside rfl, after_outside_toLower, hc]
  rfl

theorem follows_outside (hquoted : state.isQuoted = false)
    (hvalue : state.expectsValue = true → equals = true) (hgt : c ≠ '>')
    (hquote : isQuote c = true → state.expectsValue = false)
    (hopens : state.opensValues equals (c :: cs) = true) : Follows state equals c cs := by
  have hleads := TagState.leads_step hquoted hgt hquote
  cases hstep : state.step c with
  | close selfClosing completed =>
      rw [hstep] at hleads
      exact hleads.elim
  | next state' completed =>
      rw [hstep] at hleads
      obtain ⟨hquoted', hexpects'⟩ := hleads
      rw [TagState.opensValues_cons hstep hquoted', Bool.and_eq_true, Bool.not_eq_true'] at hopens
      refine ⟨_, _, _, hstep, ?_, ?_, ⟨?_, ?_⟩, hopens.2⟩
      · rw [TagScan.at_eq_outside hquoted]
        exact ends_outside_toLower equals hgt
      · rw [TagScan.at_eq_outside hquoted, TagScan.at_eq_outside hquoted', after_outside_toLower,
          hopens.1]
        rfl
      · intro hexpects
        rcases hexpects' hexpects with rfl | ⟨hspace, hexpects⟩
        · rfl
        · rw [hvalue hexpects, hspace, Bool.and_true, Bool.or_true]
      · rintro n q v rfl
        cases hquoted'

/-- A character either closes the tag for lexer and scan, or leads both on in step. -/
theorem closes_or_follows (hfits : Fits state equals)
    (hopens : state.opensValues equals (c :: cs) = true) :
    (∃ selfClosing completed, state.step c = .close selfClosing completed) ∧
      (TagScan.at state equals).ends c.toLower = true ∨ Follows state equals c cs := by
  cases hquoted : state.isQuoted with
  | true =>
      cases state with
      | quotedValue n q v => exact Or.inr (follows_quotedValue (hfits.quote n q v rfl) hopens)
      | _ => cases hquoted
  | false =>
      by_cases hgt : c = '>'
      · subst hgt
        refine Or.inl ⟨TagState.step_gt hquoted, ?_⟩
        rw [TagScan.at_eq_outside hquoted, TagScan.ends_outside]
        rfl
      · right
        by_cases hopen : isQuote c = true ∧ state.expectsValue = true
        · obtain ⟨hc, hexpects⟩ := hopen
          obtain rfl := hfits.value hexpects
          cases state with
          | beforeValue n => exact follows_beforeValue hc hopens
          | _ => cases hexpects
        · apply follows_outside hquoted hfits.value hgt _ hopens
          intro hc
          rw [← Bool.not_eq_true]
          exact fun hexpects => hopen ⟨hc, hexpects⟩

end

/-- The scan and the lexer find the end of a tag at the same place. -/
theorem afterTag_lower {state : TagState} {equals : Bool} {s : List Char} (hfits : Fits state equals)
    (hopens : state.opensValues equals s = true) :
    afterTag (.at state equals) (lower s) = lower (restOfTag state s) := by
  induction s generalizing state equals with
  | nil => rfl
  | cons c cs ih =>
      change afterTag _ (c.toLower :: lower cs) = _
      rcases closes_or_follows hfits hopens with ⟨⟨selfClosing, completed, hstep⟩, hends⟩ |
        ⟨state', completed, equals', hstep, hends, hafter, hfits', hopens'⟩
      · rw [Lexer.restOfTag_cons_of_close hstep, afterTag, if_pos hends]
      · rw [Lexer.restOfTag_cons hstep, afterTag_cons hends, hafter]
        exact ih hfits' hopens'

end RootTags

/-! ### Names -/

/-- The name of a tag as it is written, read from its first character. -/
def writtenName (s : List Char) : List Char :=
  s.takeWhile fun c => !Lexer.endsTagName c

def behindName (s : List Char) : List Char :=
  s.dropWhile fun c => !Lexer.endsTagName c

namespace Lexer

/-- A start tag is read from its name and ends where its other part ends; the input may end before. -/
theorem startTag_cases (s : List Char) :
    startTag s = ⟨[], []⟩ ∧ restOfTag .between (behindName s) = [] ∨
    ∃ tag, startTag s = ⟨[.startTag tag], restOfTag .between (behindName s)⟩ ∧
      tag.name = String.ofList (replaceNul (lower (writtenName s))) := by
  cases hbody : tagBody? .between (behindName s) with
  | none =>
      have htag : tag? s = none := by
        rw [tag?]
        exact Option.map_eq_none_iff.mpr hbody
      rw [startTag, htag, restOfTag, hbody]
      exact Or.inl ⟨rfl, rfl⟩
  | some body =>
      have htag : tag? s = some (⟨String.ofList (replaceNul (lower (writtenName s))),
          firstOfEachName body.attributes, body.selfClosing⟩, body.rest) := by
        rw [tag?]
        exact Option.map_eq_some_iff.mpr ⟨body, hbody, rfl⟩
      rw [startTag, htag, restOfTag, hbody]
      exact Or.inr ⟨_, rfl, rfl⟩

end Lexer

namespace RootTags

/-- The name that the scan sees at the start of a text. -/
def nameAt (s : List Char) : String :=
  String.ofList (lower (s.takeWhile isNameChar))

theorem isNameChar_toLower (c : Char) : isNameChar c.toLower = isNameChar c := by
  rw [isNameChar, isNameChar, beq_toLower (by decide), Char.isAlphanum, Char.isAlphanum,
    Char.isAlpha_toLower_eq_isAlpha]
  cases halpha : c.isAlpha with
  | true => rfl
  | false => rw [toLower_of_not_isAlpha halpha]

theorem afterTag_plain_cons {c : Char} (hequals : c ≠ '=') (hgt : c ≠ '>') (cs : List Char) :
    afterTag .plain (lower (c :: cs)) = afterTag .plain (lower cs) := by
  have hends : (TagScan.outside false).ends c.toLower = false := ends_outside_toLower false hgt
  have hafter : (TagScan.outside false).after c.toLower = .plain := by
    rw [after_outside_toLower, beq_eq_false_iff_ne.mpr hequals]
    rfl
  change afterTag (.outside false) (c.toLower :: lower cs) = _
  rw [afterTag_cons hends, hafter]

theorem ne_gt_of_not_endsTagName {c : Char} (h : Lexer.endsTagName c = false) : c ≠ '>' := by
  rintro rfl
  cases h

/-- A name without an equals sign is passed over as far as it is no name for the scan. -/
theorem afterTag_behindName {s : List Char} (h : '=' ∉ writtenName s) :
    afterTag .plain (lower s) = afterTag .plain (lower (behindName s)) := by
  induction s with
  | nil => rfl
  | cons c cs ih =>
      rw [writtenName, List.takeWhile_cons] at h
      rw [behindName, List.dropWhile_cons]
      cases hends : Lexer.endsTagName c with
      | true => rfl
      | false =>
          rw [hends] at h
          rw [Bool.not_false, if_pos rfl, List.mem_cons, not_or] at h
          rw [afterTag_plain_cons (Ne.symm h.1) (ne_gt_of_not_endsTagName hends)]
          exact ih h.2

theorem afterTag_dropWhile {s : List Char} (h : '=' ∉ writtenName s) :
    afterTag .plain (lower (s.dropWhile isNameChar)) = afterTag .plain (lower (behindName s)) := by
  induction s with
  | nil => rfl
  | cons c cs ih =>
      rw [List.dropWhile_cons]
      cases hname : isNameChar c with
      | true =>
          have hends := endsTagName_of_isNameChar hname
          rw [writtenName, List.takeWhile_cons, hends, Bool.not_false, if_pos rfl, List.mem_cons,
            not_or] at h
          rw [behindName, List.dropWhile_cons, hends]
          exact ih h.2
      | false => exact afterTag_behindName h

theorem takeWhile_eq_writtenName {s : List Char} (h : (writtenName s).all isNameChar = true) :
    s.takeWhile isNameChar = writtenName s := by
  induction s with
  | nil => rfl
  | cons c cs ih =>
      rw [writtenName, List.takeWhile_cons] at h ⊢
      rw [List.takeWhile_cons]
      cases hends : Lexer.endsTagName c with
      | true =>
          have hname : isNameChar c = false := by
            by_contra hname
            rw [Bool.not_eq_false] at hname
            rw [endsTagName_of_isNameChar hname] at hends
            cases hends
          rw [hname]
          rfl
      | false =>
          rw [hends, Bool.not_false, if_pos rfl, List.all_cons, Bool.and_eq_true] at h
          rw [h.1, Bool.not_false, if_pos rfl, if_pos rfl]
          exact congrArg _ (ih h.2)

/-- A name of name characters is the name that the scan sees. -/
theorem ofList_eq_nameAt {s : List Char} (h : (writtenName s).all isNameChar = true) :
    String.ofList (Lexer.replaceNul (lower (writtenName s))) = nameAt s := by
  have hnul : '\x00' ∉ lower (writtenName s) := by
    intro hmem
    have hname := List.all_eq_true.mp h _ (mem_of_mem_lower (by decide) hmem)
    exact absurd hname (by decide)
  rw [Lexer.replaceNul_of_not_mem hnul, nameAt, takeWhile_eq_writtenName h]

/-- Only a name of name characters is that of a document element. -/
theorem all_isNameChar_of_mem {s : List Char} {roots : List String}
    (hroots : ∀ root ∈ roots, root.toList.all isNameChar = true)
    (h : String.ofList (Lexer.replaceNul (lower (writtenName s))) ∈ roots) :
    (writtenName s).all isNameChar = true := by
  have hall := hroots _ h
  rw [String.toList_ofList, List.all_eq_true] at hall
  rw [List.all_eq_true]
  intro c hc
  have hmem := hall _ (List.mem_map_of_mem (List.mem_map_of_mem hc))
  split at hmem
  · exact absurd hmem (by decide)
  · rwa [isNameChar_toLower] at hmem

end RootTags

end MarkupModule.Markup
