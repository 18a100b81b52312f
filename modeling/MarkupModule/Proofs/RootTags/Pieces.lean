import MarkupModule.Proofs.RootTags.Agreement

/-! The scan for document elements on a text that is put together from pieces: text, comments, declarations,
instructions, end tags, start tags with attributes, and whole elements whose text is no markup. The scan
takes one piece after the other and sees the start tags among them, whatever stands in comments, in
attribute values and in the text of elements. -/

namespace MarkupModule.Text

/-! ### Patterns whose last character stands at their end only -/

/-- Such a pattern does not begin in a text and end behind it, when the pattern itself is what follows. -/
theorem startsWith_append_pattern_eq_false {q s : List Char} {x : Char} (hx : x ∉ q) (hs : s ≠ [])
    (h : startsWith (q ++ [x]) s = false) (t : List Char) :
    startsWith (q ++ [x]) (s ++ (q ++ [x] ++ t)) = false := by
  rw [← Bool.not_eq_true, startsWith_iff_isPrefix] at h ⊢
  intro hprefix
  rcases List.prefix_or_prefix_of_prefix hprefix (List.prefix_append s _) with hwithin | hbeyond
  · exact h hwithin
  · rcases List.prefix_concat_iff.mp hbeyond with rfl | ⟨c, rfl⟩
    · exact h List.prefix_rfl
    · rw [List.append_assoc, List.prefix_append_right_inj, List.append_assoc] at hprefix
      have hlength : 0 < s.length := List.length_pos_of_ne_nil hs
      have hfits : c ++ [x] <+: s ++ c :=
        List.prefix_of_prefix_length_le hprefix ⟨[x] ++ t, by simp only [List.append_assoc]⟩
          (by simp only [List.length_append, List.length_singleton]; omega)
      exact hx (hfits.subset (List.mem_append_right c (List.mem_singleton_self x)))

/-- A text is left behind the first occurrence of such a pattern. -/
theorem dropThrough_append_pattern {q s : List Char} {x : Char} (hx : x ∉ q)
    (h : contains (q ++ [x]) s = false) (t : List Char) :
    dropThrough (q ++ [x]) (s ++ (q ++ [x] ++ t)) = t := by
  have hcut : (cutBefore (q ++ [x]) (s ++ (q ++ [x] ++ t))).2 = q ++ [x] ++ t := by
    induction s with
    | nil =>
        have hstarts : startsWith (q ++ [x]) (q ++ [x] ++ t) = true :=
          startsWith_iff_isPrefix.mpr (List.prefix_append _ _)
        cases hcons : q ++ [x] ++ t with
        | nil => simp at hcons
        | cons c cs => rw [List.nil_append, cutBefore, if_pos (hcons ▸ hstarts)]
    | cons c cs ih =>
        obtain ⟨hstarts, hcontains⟩ := contains_cons_eq_false.mp h
        have hbeyond := startsWith_append_pattern_eq_false hx (List.cons_ne_nil c cs) hstarts t
        rw [List.cons_append] at hbeyond
        rw [List.cons_append, cutBefore, hbeyond, if_neg Bool.false_ne_true]
        exact ih hcontains
  rw [dropThrough, hcut, Markup.dropPrefix?_append]

theorem contains_singleton_eq_false {x : Char} {s : List Char} (h : x ∉ s) : contains [x] s = false := by
  induction s with
  | nil => rfl
  | cons c cs ih =>
      rw [List.mem_cons, not_or] at h
      rw [contains_cons_eq_false, startsWith, dropPrefix?, if_neg h.1]
      exact ⟨rfl, ih h.2⟩

end MarkupModule.Text

namespace MarkupModule.Markup

open MarkupModule.Text
open Lexer (isQuote)

/-! ### Pieces -/

/-- An attribute as it is written in a tag: without a value, with a value as it is, or with a value between
quotes. -/
inductive WrittenAttribute where
  | bare (key : String)
  | unquoted (key value : String)
  | quoted (key : String) (quote : Char) (value : String)
  deriving DecidableEq, Repr

namespace WrittenAttribute

/-- A character of a key, or of a value without quotes. -/
def isBareChar (c : Char) : Bool :=
  !isSpace c && !isQuote c && c != '=' && c != '>'

def isKey (key : String) : Bool :=
  !key.isEmpty && key.toList.all isBareChar

def isValid : WrittenAttribute → Bool
  | bare key => isKey key
  | unquoted key value => isKey key && value.toList.all isBareChar
  | quoted key quote value => isKey key && isQuote quote && !value.toList.contains quote

def source : WrittenAttribute → String
  | bare key => " " ++ key
  | unquoted key value => " " ++ key ++ "=" ++ value
  | quoted key quote value => " " ++ key ++ "=" ++ quote.toString ++ value ++ quote.toString

end WrittenAttribute

/-- A piece of markup or of text. A declaration, an instruction or an end tag begins with a mark; the text of
a text element is not scanned for tags. -/
inductive Piece where
  | text (content : String)
  | comment (content : String)
  | marked (mark : Char) (content : String)
  | startTag (name : String) (attributes : List WrittenAttribute)
  | textElement (name : String) (attributes : List WrittenAttribute) (body : String)
  deriving DecidableEq, Repr

namespace Piece

open RootTags (isNameChar isMark textElements)

def tagSource (name : String) (attributes : List WrittenAttribute) : String :=
  "<" ++ name ++ String.join (attributes.map WrittenAttribute.source) ++ ">"

def source : Piece → String
  | text content => content
  | comment content => "<!--" ++ content ++ "-->"
  | marked mark content => "<" ++ mark.toString ++ content ++ ">"
  | startTag name attributes => tagSource name attributes
  | textElement name attributes body => tagSource name attributes ++ body ++ "</" ++ name ++ ">"

/-- A letter followed by letters, digits and hyphens. -/
def isName (name : String) : Bool :=
  name.toList.head?.any Char.isAlpha && name.toList.all isNameChar

/-- Whether the text of an element of this name is not scanned for tags. -/
def namesText (name : String) : Bool :=
  textElements.contains (lowerName name)

def isValid : Piece → Bool
  | text content => !content.toList.contains '<'
  | comment content => !contains "-->".toList content.toList
  | marked mark content =>
    isMark mark && !content.toList.contains '>' &&
      !(mark == '!' && startsWith "--".toList content.toList)
  | startTag name attributes =>
    isName name && !namesText name && attributes.all WrittenAttribute.isValid
  | textElement name attributes body =>
    isName name && namesText name && attributes.all WrittenAttribute.isValid &&
      !contains ("</" ++ lowerName name).toList (lower body.toList)

/-- Whether a piece is a start tag of this name, in any case. -/
def isStartTag (name : String) : Piece → Bool
  | startTag written _ => lowerName written == name
  | textElement _ _ _ => false
  | text _ => false
  | comment _ => false
  | marked _ _ => false

end Piece

namespace RootTags

open WrittenAttribute (isBareChar isKey)

/-! ### Attributes -/

theorem isBareChar_iff {c : Char} :
    isBareChar c = true ↔ isSpace c = false ∧ isQuote c = false ∧ c ≠ '=' ∧ c ≠ '>' := by
  rw [isBareChar, Bool.and_eq_true, Bool.and_eq_true, Bool.and_eq_true, Bool.not_eq_true',
    Bool.not_eq_true', bne_iff_ne, bne_iff_ne, and_assoc, and_assoc]

theorem afterTag_outside_cons {c : Char} (hgt : c ≠ '>') (equals : Bool) (s : List Char) :
    afterTag (.outside equals) (c.toLower :: s) =
      afterTag (if equals && isQuote c then .quoted c else .outside (c == '=' || (equals && isSpace c))) s := by
  rw [afterTag_cons (ends_outside_toLower equals hgt), after_outside_toLower]

theorem afterTag_bareChar {c : Char} (h : isBareChar c = true) (equals : Bool) (s : List Char) :
    afterTag (.outside equals) (c.toLower :: s) = afterTag (.outside false) s := by
  obtain ⟨hspace, hquote, hequals, hgt⟩ := isBareChar_iff.mp h
  rw [afterTag_outside_cons hgt, hquote, hspace, Bool.and_false, if_neg Bool.false_ne_true, Bool.or_false,
    beq_eq_false_iff_ne.mpr hequals]

/-- Behind characters that mean nothing to the scan, it is between attributes, and where it was if there
are none. -/
theorem afterTag_bareChars {s : List Char} (h : s.all isBareChar = true) (equals : Bool) (rest : List Char) :
    afterTag (.outside equals) (lower s ++ rest) = afterTag (.outside (s.isEmpty && equals)) rest := by
  induction s generalizing equals with
  | nil => rfl
  | cons c cs ih =>
      rw [List.all_cons, Bool.and_eq_true] at h
      change afterTag _ (c.toLower :: (lower cs ++ rest)) = _
      rw [afterTag_bareChar h.1, ih h.2, Bool.and_false]
      rfl

theorem afterTag_key {key : String} (h : isKey key = true) (equals : Bool) (rest : List Char) :
    afterTag (.outside equals) (' ' :: (lower key.toList ++ rest)) = afterTag (.outside false) rest := by
  rw [isKey, Bool.and_eq_true, Bool.not_eq_true'] at h
  have hnonempty : key.toList.isEmpty = false := by
    rw [List.isEmpty_eq_false_iff]
    intro hnil
    rw [String.toList_eq_nil_iff.mp hnil] at h
    exact absurd h.1 (by decide)
  have hspace := afterTag_outside_cons (c := ' ') (by decide) equals (lower key.toList ++ rest)
  have hlower : Char.toLower ' ' = ' ' := by decide
  have hquote : isQuote ' ' = false := by decide
  rw [hlower, hquote, Bool.and_false, if_neg Bool.false_ne_true] at hspace
  rw [hspace, afterTag_bareChars h.2, hnonempty, Bool.false_and]

theorem afterTag_equals (rest : List Char) :
    afterTag (.outside false) ('=' :: rest) = afterTag (.outside true) rest :=
  afterTag_outside_cons (c := '=') (by decide) false rest

/-- Behind an attribute the scan is outside of values. -/
theorem exists_afterTag_attribute {a : WrittenAttribute} (h : a.isValid = true) (equals : Bool)
    (rest : List Char) :
    ∃ equals', afterTag (.outside equals) (lower a.source.toList ++ rest) = afterTag (.outside equals') rest := by
  cases a with
  | bare key =>
      refine ⟨false, ?_⟩
      rw [WrittenAttribute.source, String.toList_append]
      change afterTag _ (' ' :: (lower key.toList ++ rest)) = _
      exact afterTag_key h equals rest
  | unquoted key value =>
      rw [WrittenAttribute.isValid, Bool.and_eq_true] at h
      have htext : lower (WrittenAttribute.unquoted key value).source.toList ++ rest =
          ' ' :: (lower key.toList ++ '=' :: (lower value.toList ++ rest)) := by
        simp only [WrittenAttribute.source, String.toList_append, lower_append, List.append_assoc]
        rfl
      rw [htext, afterTag_key h.1, afterTag_equals, afterTag_bareChars h.2]
      exact ⟨_, rfl⟩
  | quoted key quote value =>
      rw [WrittenAttribute.isValid, Bool.and_eq_true, Bool.and_eq_true, Bool.not_eq_true'] at h
      obtain ⟨⟨hkey, hquote⟩, hvalue⟩ := h
      have htext : lower (WrittenAttribute.quoted key quote value).source.toList ++ rest =
          ' ' :: (lower key.toList ++ '=' :: quote.toLower ::
            (lower value.toList ++ quote.toLower :: rest)) := by
        simp only [WrittenAttribute.source, String.toList_append, lower_append, List.append_assoc,
          Char.toString_eq_singleton, String.toList_singleton]
        rfl
      have hgt : quote ≠ '>' := by
        rintro rfl
        cases hquote
      have hmem : quote ∉ lower value.toList := fun hmem =>
        absurd (List.contains_iff_mem.mpr (mem_of_mem_lower (isAlpha_of_isQuote hquote) hmem))
          (by rw [hvalue]; exact Bool.false_ne_true)
      have hlower : quote.toLower = quote := toLower_of_not_isAlpha (isAlpha_of_isQuote hquote)
      rw [htext, afterTag_key hkey, afterTag_equals, afterTag_outside_cons hgt, hquote, Bool.and_self,
        if_pos rfl, hlower, afterTag_quoted hmem]
      exact ⟨false, rfl⟩

theorem afterTag_attributes {attributes : List WrittenAttribute}
    (h : attributes.all WrittenAttribute.isValid = true) (equals : Bool) (rest : List Char) :
    afterTag (.outside equals)
      (lower (attributes.flatMap fun a => a.source.toList) ++ '>' :: rest) = rest := by
  induction attributes generalizing equals with
  | nil =>
      change afterTag _ ('>' :: rest) = rest
      rw [afterTag, TagScan.ends_outside]
      rfl
  | cons a others ih =>
      rw [List.all_cons, Bool.and_eq_true] at h
      obtain ⟨equals', hafter⟩ := exists_afterTag_attribute h.1 equals
        (lower (others.flatMap fun a => a.source.toList) ++ '>' :: rest)
      rw [List.flatMap_cons, lower_append, List.append_assoc, hafter, ih h.2]

/-! ### Tags -/

/-- A name of a tag that the scan takes whole, even where it stops looking for the name before. -/
def isBareName (name : String) : Bool :=
  name.toList.head?.any Char.isAlpha && name.toList.all isBareChar

theorem isBareChar_of_isNameChar {c : Char} (h : isNameChar c = true) : isBareChar c = true := by
  have hquote : isQuote c = false := by
    rw [isQuote, beq_eq_false_iff_ne.mpr (ne_of_isNameChar h (by decide)),
      beq_eq_false_iff_ne.mpr (ne_of_isNameChar h (by decide))]
    rfl
  exact isBareChar_iff.mpr ⟨isSpace_of_isNameChar h, hquote, ne_of_isNameChar h (by decide),
    ne_of_isNameChar h (by decide)⟩

theorem isBareName_of_isName {name : String} (h : Piece.isName name = true) : isBareName name = true := by
  rw [Piece.isName, Bool.and_eq_true, List.all_eq_true] at h
  rw [isBareName, Bool.and_eq_true, List.all_eq_true]
  exact ⟨h.1, fun c hc => isBareChar_of_isNameChar (h.2 c hc)⟩

theorem nameAt_of_isName {name : String} (h : Piece.isName name = true) :
    nameAt name.toList = lowerName name := by
  rw [Piece.isName, Bool.and_eq_true, List.all_eq_true] at h
  rw [nameAt, List.takeWhile_eq_self_iff.mpr h.2, lowerName]

theorem not_mem_of_isBareName {name : String} (h : isBareName name = true) : '>' ∉ name.toList := by
  rw [isBareName, Bool.and_eq_true, List.all_eq_true] at h
  exact fun hmem => (isBareChar_iff.mp (h.2 _ hmem)).2.2.2 rfl

theorem takeWhile_append_cons {p : Char → Bool} {d : Char} (hd : p d = false) (s t : List Char) :
    (s ++ d :: t).takeWhile p = s.takeWhile p := by
  induction s with
  | nil => exact List.takeWhile_cons_of_neg (ne_true_of_eq_false hd)
  | cons c cs ih => rw [List.cons_append, List.takeWhile_cons, List.takeWhile_cons, ih]

theorem dropWhile_append_cons {p : Char → Bool} {d : Char} (hd : p d = false) (s t : List Char) :
    (s ++ d :: t).dropWhile p = s.dropWhile p ++ d :: t := by
  induction s with
  | nil => exact List.dropWhile_cons_of_neg (ne_true_of_eq_false hd)
  | cons c cs ih =>
      rw [List.cons_append, List.dropWhile_cons, List.dropWhile_cons, ih]
      split <;> rfl

theorem exists_cons_attributes (attributes : List WrittenAttribute) (rest : List Char) :
    ∃ c cs, lower (attributes.flatMap fun a => a.source.toList) ++ '>' :: rest = c :: cs ∧
      isNameChar c = false := by
  cases attributes with
  | nil => exact ⟨'>', rest, rfl, rfl⟩
  | cons a others =>
      have hspace : ∃ cs, a.source.toList = ' ' :: cs := by
        cases a <;> simp [WrittenAttribute.source, String.toList_append]
      obtain ⟨cs, hcs⟩ := hspace
      rw [List.flatMap_cons, hcs]
      exact ⟨' ', _, rfl, rfl⟩

theorem toList_tagSource (name : String) (attributes : List WrittenAttribute) :
    (Piece.tagSource name attributes).toList =
      '<' :: (name.toList ++ ((attributes.flatMap fun a => a.source.toList) ++ ['>'])) := by
  simp only [Piece.tagSource, String.toList_append, Item.toList_join, List.flatMap_map, List.append_assoc]
  rfl

/-- The scan sees a start tag by its name, as far as this is one for the scan, and takes it whole. -/
theorem tagNames_tagSource {name : String} {attributes : List WrittenAttribute}
    (hname : isBareName name = true) (h : attributes.all WrittenAttribute.isValid = true)
    (rest : List Char) :
    tagNames (lower ((Piece.tagSource name attributes).toList ++ rest)) =
      nameAt name.toList :: tagNames (afterElement (nameAt name.toList) (lower rest)) := by
  rw [isBareName, Bool.and_eq_true] at hname
  obtain ⟨halpha, hall⟩ := hname
  obtain ⟨c, cs, hcons⟩ : ∃ c cs, name.toList = c :: cs := by
    cases hcons : name.toList with
    | nil => simp [hcons] at halpha
    | cons c cs => exact ⟨c, cs, rfl⟩
  have hc : c.toLower.isAlpha = true := by
    rw [Char.isAlpha_toLower_eq_isAlpha]
    simpa [hcons] using halpha
  have htext : lower ((Piece.tagSource name attributes).toList ++ rest) =
      '<' :: (lower name.toList ++
        (lower (attributes.flatMap fun a => a.source.toList) ++ '>' :: lower rest)) := by
    rw [toList_tagSource, List.cons_append, List.append_assoc, List.append_assoc]
    change '<' :: lower _ = _
    rw [lower_append, lower_append]
    rfl
  obtain ⟨d, ds, hbehind, hd⟩ := exists_cons_attributes attributes (lower rest)
  -- the rest of the name that is none for the scan means nothing to it
  have hunseen : (name.toList.dropWhile isNameChar).all isBareChar = true :=
    List.all_eq_true.mpr fun e he => List.all_eq_true.mp hall e ((List.dropWhile_suffix _).subset he)
  have hafter : afterTag .plain (lower (name.toList.dropWhile isNameChar) ++ d :: ds) = lower rest := by
    have hbare := afterTag_bareChars hunseen false (d :: ds)
    rw [Bool.and_false, ← hbehind, afterTag_attributes h] at hbare
    rwa [← hbehind]
  have htake : (lower name.toList ++ d :: ds).takeWhile isNameChar =
      lower (name.toList.takeWhile isNameChar) := by
    rw [takeWhile_append_cons hd, takeWhile_lower isNameChar_toLower]
  have hdrop : (lower name.toList ++ d :: ds).dropWhile isNameChar =
      lower (name.toList.dropWhile isNameChar) ++ d :: ds := by
    rw [dropWhile_append_cons hd, dropWhile_lower isNameChar_toLower]
  have hfirst : lower name.toList ++ d :: ds = c.toLower :: (lower cs ++ d :: ds) := by
    rw [hcons]
    rfl
  rw [hfirst] at htake hdrop
  rw [htext, tagNames_cons, hbehind, hfirst, step_cons_of_isAlpha hc, htake, hdrop, hafter]
  rfl

/-! ### One piece after the other -/

theorem tagNames_comment {content : String} (h : contains "-->".toList content.toList = false)
    (rest : List Char) :
    tagNames (lower ((Piece.comment content).source.toList ++ rest)) = tagNames (lower rest) := by
  have htext : (Piece.comment content).source.toList ++ rest =
      '<' :: '!' :: ("--".toList ++ (content.toList ++ ("-->".toList ++ rest))) := by
    rw [Piece.source, String.toList_append, String.toList_append, List.append_assoc, List.append_assoc]
    rfl
  have hbehind : dropThrough "-->".toList (content.toList ++ ("-->".toList ++ rest)) = rest :=
    dropThrough_append_pattern (q := ['-', '-']) (x := '>') (by decide) h rest
  have hopens : dropPrefix? "!--".toList
      ('!' :: ("--".toList ++ (content.toList ++ ("-->".toList ++ rest)))) =
      some (content.toList ++ ("-->".toList ++ rest)) :=
    dropPrefix?_append "!--".toList _
  rw [htext]
  apply tagNames_of_endsAtMark rfl
  rw [endsAtMark, hopens]
  exact beq_iff_eq.mpr hbehind.symm

theorem not_startsWith_comment {mark : Char} {content rest : List Char}
    (h : (mark == '!' && startsWith "--".toList content) = false) :
    dropPrefix? "!--".toList (mark :: (content ++ '>' :: rest)) = none := by
  change (if '!' = mark then dropPrefix? "--".toList (content ++ '>' :: rest) else none) = none
  split
  · rename_i hmark
    rw [← hmark, beq_self_eq_true, Bool.true_and] at h
    rw [← Option.not_isSome_iff_eq_none, isSome_dropPrefix?_append (by decide)]
    exact Bool.not_eq_true _ ▸ h
  · rfl

/-- A declaration, an instruction or an end tag is passed over. -/
theorem tagNames_marked {mark : Char} {content : String} (hmark : isMark mark = true)
    (hgt : '>' ∉ content.toList) (h : (mark == '!' && startsWith "--".toList content.toList) = false)
    (rest : List Char) :
    tagNames (lower ((Piece.marked mark content).source.toList ++ rest)) = tagNames (lower rest) := by
  have htext : (Piece.marked mark content).source.toList ++ rest =
      '<' :: mark :: (content.toList ++ '>' :: rest) := by
    simp only [Piece.source, String.toList_append, List.append_assoc, Char.toString_eq_singleton,
      String.toList_singleton]
    rfl
  have hne : mark ≠ '>' := by
    rintro rfl
    cases hmark
  have hcontains : contains (['>']) (mark :: content.toList) = false :=
    contains_singleton_eq_false fun hmem => (List.mem_cons.mp hmem).elim (fun heq => hne heq.symm) hgt
  have hbehind : dropThrough ">".toList (mark :: (content.toList ++ '>' :: rest)) = rest :=
    dropThrough_append_pattern (q := []) (x := '>') List.not_mem_nil hcontains rest
  rw [htext]
  apply tagNames_of_endsAtMark hmark
  rw [endsAtMark, not_startsWith_comment h]
  exact beq_iff_eq.mpr hbehind.symm

/-- The text of an element is passed over, up to the end tag behind it. -/
theorem tagNames_body {name body : String} (hname : Piece.namesText name = true)
    (h : contains ("</" ++ lowerName name).toList (lower body.toList) = false) (rest : List Char) :
    tagNames (afterElement (lowerName name)
      (lower (body.toList ++ ((Piece.marked '/' name).source.toList ++ rest)))) = tagNames (lower rest) := by
  have hplain : ∀ n ∈ textElements, '<' ∉ '/' :: n.toList ∧ '>' ∉ n.toList := by decide
  obtain ⟨hopens, hgt⟩ := hplain _ (List.contains_iff_mem.mp hname)
  have hpattern : ("</" ++ lowerName name).toList = '<' :: '/' :: (lowerName name).toList := by
    rw [String.toList_append]
    rfl
  have hmark : lower ((Piece.marked '/' name).source.toList ++ rest) =
      '<' :: '/' :: ((lowerName name).toList ++ '>' :: lower rest) := by
    simp only [Piece.source, String.toList_append, lower_append, List.append_assoc, lowerName,
      String.toList_ofList]
    rfl
  have hgt' : '>' ∉ name.toList := by
    intro hmem
    rw [lowerName, String.toList_ofList] at hgt
    exact hgt (List.mem_map_of_mem hmem)
  have hstarts : startsWith ('<' :: '/' :: (lowerName name).toList)
      ('<' :: '/' :: ((lowerName name).toList ++ '>' :: lower rest)) = true :=
    startsWith_iff_isPrefix.mpr ⟨'>' :: lower rest, rfl⟩
  have htext : textElements.contains (lowerName name) = true := hname
  have hcut := cutBefore_append_eq hopens (hpattern ▸ h) hstarts
  rw [afterElement, if_pos htext, hpattern, lower_append, hmark, hcut, ← hmark]
  exact tagNames_marked rfl hgt' rfl rest

end RootTags

/-- The names of the start tags in a piece, in lower case. -/
def Piece.names : Piece → List String
  | startTag name _ => [lowerName name]
  | textElement name _ _ => [lowerName name]
  | text _ => []
  | comment _ => []
  | marked _ _ => []

namespace RootTags

theorem tagNames_piece {piece : Piece} (h : piece.isValid = true) (rest : List Char) :
    tagNames (lower (piece.source.toList ++ rest)) = piece.names ++ tagNames (lower rest) := by
  cases piece with
  | text content =>
      rw [Piece.isValid, Bool.not_eq_true'] at h
      rw [Piece.source, lower_append]
      apply tagNames_append_of_not_mem
      intro hmem
      rw [List.contains_iff_mem.mpr (mem_of_mem_lower (by decide) hmem)] at h
      cases h
  | comment content =>
      rw [Piece.isValid, Bool.not_eq_true'] at h
      exact tagNames_comment h rest
  | marked mark content =>
      rw [Piece.isValid, Bool.and_eq_true, Bool.and_eq_true, Bool.not_eq_true', Bool.not_eq_true'] at h
      obtain ⟨⟨hmark, hgt⟩, hcomment⟩ := h
      refine tagNames_marked hmark (fun hmem => ?_) hcomment rest
      rw [List.contains_iff_mem.mpr hmem] at hgt
      cases hgt
  | startTag name attributes =>
      rw [Piece.isValid, Bool.and_eq_true, Bool.and_eq_true, Bool.not_eq_true'] at h
      obtain ⟨⟨hname, htext⟩, hattributes⟩ := h
      have hrest : afterElement (lowerName name) (lower rest) = lower rest := by
        rw [afterElement]
        exact if_neg (Bool.not_eq_true _ ▸ htext)
      rw [Piece.source, tagNames_tagSource (isBareName_of_isName hname) hattributes, nameAt_of_isName hname,
        hrest]
      rfl
  | textElement name attributes body =>
      rw [Piece.isValid, Bool.and_eq_true, Bool.and_eq_true, Bool.and_eq_true, Bool.not_eq_true'] at h
      obtain ⟨⟨⟨hname, htext⟩, hattributes⟩, hbody⟩ := h
      have hsource : (Piece.textElement name attributes body).source.toList ++ rest =
          (Piece.tagSource name attributes).toList ++
            (body.toList ++ ((Piece.marked '/' name).source.toList ++ rest)) := by
        simp only [Piece.source, String.toList_append, List.append_assoc]
        rfl
      rw [hsource, tagNames_tagSource (isBareName_of_isName hname) hattributes, nameAt_of_isName hname,
        tagNames_body htext hbody]
      rfl

theorem tagNames_pieces {pieces : List Piece} (h : ∀ piece ∈ pieces, piece.isValid = true) :
    tagNames (lower (String.join (pieces.map Piece.source)).toList) = pieces.flatMap Piece.names := by
  induction pieces with
  | nil => exact tagNames_nil
  | cons piece rest ih =>
      rw [List.forall_mem_cons] at h
      rw [List.map_cons, String.join_cons, String.toList_append, tagNames_piece h.1, ih h.2,
        List.flatMap_cons]

/-- The document elements are no text elements, so a piece has the name of one only if it is its start tag. -/
theorem contains_names {piece : Piece} (h : piece.isValid = true) {name : String}
    (hname : isRootName name = true) : piece.names.contains name = piece.isStartTag name := by
  cases piece with
  | startTag written attributes =>
      rw [Piece.names, List.contains_cons, List.contains_nil, Bool.or_false, Bool.beq_comm]
      rfl
  | textElement written attributes body =>
      have hroots : ∀ n ∈ textElements, isRootName n = false := by decide
      rw [Piece.isValid, Bool.and_eq_true, Bool.and_eq_true, Bool.and_eq_true] at h
      have htext := hroots _ (List.contains_iff_mem.mp h.1.1.2)
      rw [Piece.names, List.contains_cons, List.contains_nil, Bool.or_false, Piece.isStartTag,
        beq_eq_false_iff_ne]
      rintro rfl
      rw [hname] at htext
      cases htext
  | text => rfl
  | comment => rfl
  | marked => rfl

theorem contains_flatMap_names {pieces : List Piece} (h : ∀ piece ∈ pieces, piece.isValid = true)
    {name : String} (hname : isRootName name = true) :
    (pieces.flatMap Piece.names).contains name = pieces.any (Piece.isStartTag name) := by
  induction pieces with
  | nil => rfl
  | cons piece rest ih =>
      rw [List.forall_mem_cons] at h
      rw [List.flatMap_cons, List.contains_append, contains_names h.1 hname, ih h.2, List.any_cons]

/-- In a text of pieces, the scan sees exactly the document elements that have a start tag among the pieces,
in any case. -/
theorem scan_pieces {pieces : List Piece} (h : ∀ piece ∈ pieces, piece.isValid = true) :
    scan (String.join (pieces.map Piece.source)) =
      { html := pieces.any (Piece.isStartTag "html")
        head := pieces.any (Piece.isStartTag "head")
        body := pieces.any (Piece.isStartTag "body") } := by
  rw [scan, tagNames_pieces h, foldl_note, contains_flatMap_names h rfl, contains_flatMap_names h rfl,
    contains_flatMap_names h rfl]
  rfl

/-- Pieces of each kind in which document elements seem to begin, with a single start tag of one. -/
def trickyPieces : List Piece := [
  .marked '!' "DOCTYPE html", .text "
> é", .comment "<html>--", .marked '/' "head",
  .startTag "A-1" [.unquoted "k" "", .quoted "title" '"' "<head> '>'", .quoted "x" '\'' "<html>\""],
  .textElement "Script" [.bare "async"] "'</scr' + '<head>'",
  .startTag "BODY" [.unquoted "class" "<html"], .textElement "TITLE" [] "</body><html>"]

theorem scan_pieces_trickyPieces :
    (∀ piece ∈ trickyPieces, piece.isValid = true) ∧
    scan (String.join (trickyPieces.map Piece.source)) = ⟨false, false, true⟩ := by
  have hvalid : ∀ piece ∈ trickyPieces, piece.isValid = true := by decide +kernel
  exact ⟨hvalid, (scan_pieces hvalid).trans (by decide +kernel)⟩

end RootTags

end MarkupModule.Markup
