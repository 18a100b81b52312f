import MarkupModule.Markup.Lexer
import MarkupModule.Markup.RootTags
import MarkupModule.Proofs.Markup.Escape
import Mathlib

/-! Tags as they are written: a name, then attributes with their names and escaped values between double
quotes. A tag with names that the lexer can make is read as the tag it was written from, whatever follows
it, and the scan for document elements steps over a tag with plain names to the same place. -/

namespace MarkupModule.Markup

open MarkupModule.Text
open RootTags (isNameChar)

/-- A name in lower case, of a letter and then letters, digits and hyphens. -/
def isPlainName (name : List Char) : Bool :=
  name.head?.any Char.isAlpha && name.all fun c => isNameChar c && c.toLower == c

def attributesText (attributes : List (List Char × List Char)) : List Char :=
  attributes.flatMap fun a => ' ' :: (a.1 ++ '=' :: '"' :: (a.2 ++ ['"']))

/-- The text of a start tag behind its opening `<`. -/
def Tag.text (tag : Tag) : List Char :=
  tag.name.toList ++
    (attributesText (tag.attributes.map fun a => (a.1.toList, escapeAttribute a.2.toList)) ++ ['>'])

/-- Whether a character can stand in the name of a tag or an attribute that was read. -/
def isNamePart (c : Char) : Bool :=
  !Lexer.endsTagName c && c.toLower == c && c != '\x00'

def isTagName (name : List Char) : Bool :=
  name.head?.any Char.isAlpha && name.all isNamePart

/-- Whether a name can be that of an attribute. An equals sign belongs to a name only as its first
character. -/
def isAttributeName : List Char → Bool
  | [] => false
  | c :: cs => isNamePart c && cs.all fun d => isNamePart d && d != '='

/-- A tag that reads back as it was written. -/
structure Tag.IsReadable (tag : Tag) : Prop where
  name : isTagName tag.name.toList = true
  attributeNames : ∀ a ∈ tag.attributes, isAttributeName a.1.toList = true
  values : ∀ a ∈ tag.attributes, '\x00' ∉ a.2.toList
  distinct : (tag.attributes.map Prod.fst).Nodup
  notSelfClosing : tag.selfClosing = false

/-- A tag with its names in lower case. -/
def Tag.lowered (tag : Tag) : Tag :=
  ⟨lowerName tag.name, tag.attributes.map fun a => (lowerName a.1, a.2), tag.selfClosing⟩

/-- A tag that can be written: its names are plain and its attributes have different names. -/
structure Tag.IsPlain (tag : Tag) : Prop where
  name : isPlainName tag.name.toList = true
  attributeNames : ∀ a ∈ tag.attributes, isPlainName a.1.toList = true
  values : ∀ a ∈ tag.attributes, '\x00' ∉ a.2.toList
  distinct : (tag.attributes.map Prod.fst).Nodup
  notSelfClosing : tag.selfClosing = false

theorem toLower_of_not_isAlpha {c : Char} (h : c.isAlpha = false) : c.toLower = c := by
  apply Char.toLower_eq_of_not_isUpper
  intro hupper
  rw [Char.isAlpha, hupper] at h
  cases h

/-- Lower case adds no character but letters. -/
theorem mem_of_mem_lower {d : Char} {s : List Char} (hd : d.isAlpha = false) (h : d ∈ lower s) :
    d ∈ s := by
  obtain ⟨c, hc, rfl⟩ := List.mem_map.mp h
  rw [Char.isAlpha_toLower_eq_isAlpha] at hd
  rwa [toLower_of_not_isAlpha hd]

theorem map_eq_self {α : Type} {f : α → α} {l : List α} (h : ∀ a ∈ l, f a = a) : l.map f = l := by
  rw [List.map_congr_left h, List.map_id']

/-! ### Plain names -/

theorem ne_of_isNameChar {c d : Char} (h : isNameChar c = true) (hd : isNameChar d = false) :
    c ≠ d := by
  rintro rfl
  rw [h] at hd
  cases hd

theorem isSpace_of_isNameChar {c : Char} (h : isNameChar c = true) : isSpace c = false := by
  simp [isSpace, ne_of_isNameChar h (by decide : isNameChar ' ' = false),
    ne_of_isNameChar h (by decide : isNameChar '\t' = false),
    ne_of_isNameChar h (by decide : isNameChar '\n' = false),
    ne_of_isNameChar h (by decide : isNameChar '\x0c' = false),
    ne_of_isNameChar h (by decide : isNameChar '\r' = false)]

theorem endsTagName_of_isNameChar {c : Char} (h : isNameChar c = true) :
    Lexer.endsTagName c = false := by
  rw [Lexer.endsTagName, isSpace_of_isNameChar h]
  simp [ne_of_isNameChar h (by decide : isNameChar '/' = false),
    ne_of_isNameChar h (by decide : isNameChar '>' = false)]

theorem isPlainName_cons {c : Char} {cs : List Char} :
    isPlainName (c :: cs) = true ↔ c.isAlpha = true ∧
      ∀ d ∈ c :: cs, isNameChar d = true ∧ d.toLower = d := by
  simp [isPlainName]

theorem exists_cons_of_isPlainName {name : List Char} (h : isPlainName name = true) :
    ∃ c cs, name = c :: cs ∧ c.isAlpha = true ∧ ∀ d ∈ c :: cs, isNameChar d = true ∧ d.toLower = d := by
  cases name with
  | nil => cases h
  | cons c cs => exact ⟨c, cs, rfl, isPlainName_cons.mp h⟩

theorem isNameChar_of_mem {name : List Char} (h : isPlainName name = true) {d : Char} (hd : d ∈ name) :
    isNameChar d = true := by
  obtain ⟨c, cs, rfl, _, hall⟩ := exists_cons_of_isPlainName h
  exact (hall d hd).1

theorem lower_of_isPlainName {name : List Char} (h : isPlainName name = true) : lower name = name := by
  obtain ⟨c, cs, rfl, _, hall⟩ := exists_cons_of_isPlainName h
  exact map_eq_self fun d hd => (hall d hd).2

/-! ### Names that are read -/

theorem isNamePart_iff {c : Char} :
    isNamePart c = true ↔ Lexer.endsTagName c = false ∧ c.toLower = c ∧ c ≠ '\x00' := by
  rw [isNamePart, Bool.and_eq_true, Bool.and_eq_true, Bool.not_eq_true', beq_iff_eq, bne_iff_ne, and_assoc]

theorem of_endsTagName_eq_false {c : Char} (h : Lexer.endsTagName c = false) :
    isSpace c = false ∧ c ≠ '/' ∧ c ≠ '>' := by
  rwa [Lexer.endsTagName, Bool.or_eq_false_iff, Bool.or_eq_false_iff, beq_eq_false_iff_ne,
    beq_eq_false_iff_ne, and_assoc] at h

theorem ne_of_isNamePart {c d : Char} (h : isNamePart c = true) (hd : isNamePart d = false) : c ≠ d := by
  rintro rfl
  rw [h] at hd
  cases hd

theorem lower_of_isNamePart {name : List Char} (h : ∀ c ∈ name, isNamePart c = true) : lower name = name :=
  map_eq_self fun c hc => (isNamePart_iff.mp (h c hc)).2.1

theorem exists_cons_of_isTagName {name : List Char} (h : isTagName name = true) :
    ∃ c cs, name = c :: cs ∧ c.isAlpha = true ∧ ∀ d ∈ name, isNamePart d = true := by
  rw [isTagName, Bool.and_eq_true, List.all_eq_true] at h
  cases name with
  | nil => cases h.1
  | cons c cs => exact ⟨c, cs, rfl, h.1, h.2⟩

theorem isNamePart_of_isTagName {name : List Char} (h : isTagName name = true) :
    ∀ c ∈ name, isNamePart c = true := by
  obtain ⟨_, _, _, _, hall⟩ := exists_cons_of_isTagName h
  exact hall

theorem exists_cons_of_isAttributeName {name : List Char} (h : isAttributeName name = true) :
    ∃ c cs, name = c :: cs ∧ isNamePart c = true ∧ ∀ d ∈ cs, isNamePart d = true ∧ d ≠ '=' := by
  cases name with
  | nil => cases h
  | cons c cs =>
      rw [isAttributeName, Bool.and_eq_true, List.all_eq_true] at h
      refine ⟨c, cs, rfl, h.1, ?_⟩
      intro d hd
      rw [← bne_iff_ne, ← Bool.and_eq_true]
      exact h.2 d hd

theorem isNamePart_of_isAttributeName {name : List Char} (h : isAttributeName name = true) :
    ∀ c ∈ name, isNamePart c = true := by
  obtain ⟨c, cs, rfl, hc, hall⟩ := exists_cons_of_isAttributeName h
  exact List.forall_mem_cons.mpr ⟨hc, fun d hd => (hall d hd).1⟩

/-! ### Names in any case -/

theorem endsTagName_of_isAlpha {c : Char} (h : c.isAlpha = true) : Lexer.endsTagName c = false := by
  have hne : ∀ {d : Char}, d.isAlpha = false → c ≠ d := by
    rintro d hd rfl
    rw [h] at hd
    cases hd
  simp [Lexer.endsTagName, isSpace, hne (by decide : ' '.isAlpha = false), hne (by decide : '\t'.isAlpha = false),
    hne (by decide : '\n'.isAlpha = false), hne (by decide : '\x0c'.isAlpha = false),
    hne (by decide : '\r'.isAlpha = false), hne (by decide : '/'.isAlpha = false),
    hne (by decide : '>'.isAlpha = false)]

theorem endsTagName_toLower (c : Char) : Lexer.endsTagName c.toLower = Lexer.endsTagName c := by
  cases h : c.isAlpha with
  | true => rw [endsTagName_of_isAlpha h, endsTagName_of_isAlpha (by rwa [Char.isAlpha_toLower_eq_isAlpha])]
  | false => rw [toLower_of_not_isAlpha h]

/-- A name that a name in lower case is made from ends where that one does. -/
theorem endsTagName_of_lower {name : List Char} (h : ∀ c ∈ lower name, isNamePart c = true) :
    ∀ c ∈ name, Lexer.endsTagName c = false := by
  intro c hc
  rw [← endsTagName_toLower]
  exact (isNamePart_iff.mp (h _ (List.mem_map_of_mem hc))).1

theorem exists_cons_of_isTagName_lower {name : List Char} (h : isTagName (lower name) = true) :
    ∃ c cs, name = c :: cs ∧ c.isAlpha = true := by
  obtain ⟨c, cs, hcons, hc, _⟩ := exists_cons_of_isTagName h
  obtain ⟨d, ds, rfl, rfl, _⟩ := List.map_eq_cons_iff.mp hcons
  exact ⟨d, ds, rfl, by rwa [Char.isAlpha_toLower_eq_isAlpha] at hc⟩

theorem isTagName_lower {name : List Char} (h : isTagName name = true) : isTagName (lower name) = true := by
  rwa [lower_of_isNamePart (isNamePart_of_isTagName h)]

theorem exists_cons_of_isAttributeName_lower {name : List Char} (h : isAttributeName (lower name) = true) :
    ∃ c cs, name = c :: cs ∧ Lexer.endsTagName c = false ∧
      ∀ d ∈ cs, Lexer.endsTagName d = false ∧ d ≠ '=' := by
  obtain ⟨c, cs, hcons, hc, hall⟩ := exists_cons_of_isAttributeName h
  obtain ⟨d, ds, rfl, rfl, rfl⟩ := List.map_eq_cons_iff.mp hcons
  refine ⟨d, ds, rfl, (endsTagName_toLower d) ▸ (isNamePart_iff.mp hc).1, fun e he => ?_⟩
  obtain ⟨hpart, hequals⟩ := hall _ (List.mem_map_of_mem he)
  refine ⟨(endsTagName_toLower e) ▸ (isNamePart_iff.mp hpart).1, ?_⟩
  rintro rfl
  exact hequals rfl

theorem isNamePart_of_isPlainName {name : List Char} (h : isPlainName name = true) :
    ∀ c ∈ name, isNamePart c = true := by
  obtain ⟨_, _, rfl, _, hall⟩ := exists_cons_of_isPlainName h
  intro c hc
  obtain ⟨hname, hlower⟩ := hall c hc
  exact isNamePart_iff.mpr ⟨endsTagName_of_isNameChar hname, hlower, ne_of_isNameChar hname (by decide)⟩

theorem isTagName_of_isPlainName {name : List Char} (h : isPlainName name = true) :
    isTagName name = true := by
  have hall := isNamePart_of_isPlainName h
  obtain ⟨c, cs, rfl, hc, _⟩ := exists_cons_of_isPlainName h
  rw [isTagName, Bool.and_eq_true, List.all_eq_true]
  exact ⟨hc, hall⟩

theorem isAttributeName_of_isPlainName {name : List Char} (h : isPlainName name = true) :
    isAttributeName name = true := by
  have hall := isNamePart_of_isPlainName h
  obtain ⟨c, cs, rfl, _, hname⟩ := exists_cons_of_isPlainName h
  rw [List.forall_mem_cons] at hall hname
  rw [isAttributeName, Bool.and_eq_true, List.all_eq_true]
  refine ⟨hall.1, ?_⟩
  intro d hd
  rw [Bool.and_eq_true, bne_iff_ne]
  exact ⟨hall.2 d hd, ne_of_isNameChar (hname.2 d hd).1 (by decide)⟩

theorem Tag.IsPlain.isReadable {tag : Tag} (h : tag.IsPlain) : tag.IsReadable :=
  ⟨isTagName_of_isPlainName h.name, fun a ha => isAttributeName_of_isPlainName (h.attributeNames a ha),
    h.values, h.distinct, h.notSelfClosing⟩

theorem Tag.IsReadable.lowered_eq {tag : Tag} (h : tag.IsReadable) : tag.lowered = tag := by
  have hname : lowerName tag.name = tag.name := by
    rw [lowerName, lower_of_isNamePart (isNamePart_of_isTagName h.name), String.ofList_toList]
  have hattributes : tag.attributes.map (fun a => (lowerName a.1, a.2)) = tag.attributes := by
    apply map_eq_self
    intro a ha
    rw [lowerName, lower_of_isNamePart (isNamePart_of_isAttributeName (h.attributeNames a ha)),
      String.ofList_toList]
  rw [Tag.lowered, hname, hattributes]

theorem Tag.IsReadable.lowered {tag : Tag} (h : tag.IsReadable) : tag.lowered.IsReadable := by
  rwa [h.lowered_eq]

/-- The text of a tag holds no carriage return but from its values. -/
theorem Tag.not_mem_text {tag : Tag} (h : tag.lowered.IsReadable)
    (hvalues : ∀ a ∈ tag.attributes, '\r' ∉ a.2.toList) : '\r' ∉ tag.text := by
  have hname : ∀ name : String, (∀ c ∈ (lowerName name).toList, isNamePart c = true) → '\r' ∉ name.toList := by
    intro name hall hmem
    rw [lowerName, String.toList_ofList] at hall
    have hpart := hall _ (List.mem_map_of_mem hmem)
    revert hpart
    decide
  have hattributes : ∀ a ∈ tag.attributes, isAttributeName (lowerName a.1).toList = true :=
    List.forall_mem_map.mp h.attributeNames
  have hvalue : ∀ a ∈ tag.attributes, '\r' ∉ escapeAttribute a.2.toList := by
    intro a ha hmem
    rcases (mem_escapeAttribute hmem).2 with hmem | hmem
    · exact hvalues a ha hmem
    · revert hmem
      decide
  rw [Tag.text, List.mem_append, List.mem_append, not_or, not_or]
  refine ⟨hname _ (isNamePart_of_isTagName h.name), ?_, by decide⟩
  rw [attributesText, List.flatMap_map, List.mem_flatMap]
  rintro ⟨a, ha, hmem⟩
  simp only [List.mem_cons, List.mem_append, List.not_mem_nil, or_false] at hmem
  rcases hmem with hmem | hmem | hmem | hmem | hmem | hmem
  · revert hmem
    decide
  · exact hname _ (isNamePart_of_isAttributeName (hattributes a ha)) hmem
  · revert hmem
    decide
  · revert hmem
    decide
  · exact hvalue a ha hmem
  · revert hmem
    decide

/-! ### Reading a written tag -/

namespace Lexer

theorem tagBody?_cons_next {state state' : TagState} {c : Char} (h : state.step c = .next state' none)
    (cs : List Char) : tagBody? state (c :: cs) = tagBody? state' cs := by
  rw [tagBody?, h]
  dsimp only
  cases tagBody? state' cs <;> rfl

theorem tagBody?_cons_completed {state state' : TagState} {c : Char} {a : String × String}
    (h : state.step c = .next state' (some a)) (cs : List Char) :
    tagBody? state (c :: cs) = (tagBody? state' cs).map fun body =>
      { body with attributes := a :: body.attributes } := by
  rw [tagBody?, h]
  rfl

theorem step_name {c : Char} (h : endsTagName c = false) (hequals : c ≠ '=') (n : List Char) :
    TagState.step (.name n) c = .next (.name (c :: n)) none := by
  obtain ⟨hspace, hslash, hclose⟩ := of_endsTagName_eq_false h
  rw [TagState.step, hspace]
  simp [hslash, hclose, hequals]

theorem step_between {c : Char} (h : endsTagName c = false) :
    TagState.step .between c = .next (.name [c]) none := by
  obtain ⟨hspace, hslash, hclose⟩ := of_endsTagName_eq_false h
  rw [TagState.step, TagState.stepBetween, hspace]
  simp [hslash, hclose]

theorem tagBody?_name {cs : List Char} (h : ∀ c ∈ cs, endsTagName c = false ∧ c ≠ '=') (n rest : List Char) :
    tagBody? (.name n) (cs ++ rest) = tagBody? (.name (cs.reverse ++ n)) rest := by
  induction cs generalizing n with
  | nil => rfl
  | cons c cs ih =>
      rw [List.forall_mem_cons] at h
      rw [List.cons_append, tagBody?_cons_next (step_name h.1.1 h.1.2 n), ih h.2]
      simp

theorem tagBody?_quotedValue {v : List Char} (h : '"' ∉ v) (n w rest : List Char) :
    tagBody? (.quotedValue n '"' w) (v ++ '"' :: rest) =
      (tagBody? .between rest).map fun body =>
        { body with attributes := attributeOf n (v.reverse ++ w) :: body.attributes } := by
  induction v generalizing w with
  | nil =>
      apply tagBody?_cons_completed
      rw [TagState.step, if_pos rfl]
      rfl
  | cons c cs ih =>
      rw [List.mem_cons, not_or] at h
      have hstep : TagState.step (.quotedValue n '"' w) c = .next (.quotedValue n '"' (c :: w)) none := by
        rw [TagState.step, if_neg (Ne.symm h.1)]
      rw [List.cons_append, tagBody?_cons_next hstep, ih h.2]
      simp

theorem tagBody?_attribute {name v : List Char} (hname : isAttributeName (lower name) = true) (hv : '"' ∉ v)
    (rest : List Char) :
    tagBody? .between (' ' :: (name ++ '=' :: '"' :: (v ++ '"' :: rest))) =
      (tagBody? .between rest).map fun body =>
        { body with attributes := attributeOf name.reverse v.reverse :: body.attributes } := by
  obtain ⟨c, cs, rfl, hc, hall⟩ := exists_cons_of_isAttributeName_lower hname
  have hspace : TagState.step .between ' ' = .next .between none := rfl
  have hequals : ∀ n, TagState.step (.name n) '=' = .next (.beforeValue n) none := fun _ => rfl
  have hquote : ∀ n, TagState.step (.beforeValue n) '"' = .next (.quotedValue n '"' []) none :=
    fun _ => rfl
  rw [tagBody?_cons_next hspace, List.cons_append, tagBody?_cons_next (step_between hc),
    tagBody?_name hall, tagBody?_cons_next (hequals _), tagBody?_cons_next (hquote _),
    tagBody?_quotedValue hv]
  simp

theorem tagBody?_attributesText {attributes : List (List Char × List Char)}
    (hnames : ∀ a ∈ attributes, isAttributeName (lower a.1) = true) (hvalues : ∀ a ∈ attributes, '"' ∉ a.2)
    (rest : List Char) :
    tagBody? .between (attributesText attributes ++ '>' :: rest) =
      some ⟨attributes.map fun a => attributeOf a.1.reverse a.2.reverse, false, rest⟩ := by
  induction attributes with
  | nil => rfl
  | cons a others ih =>
      rw [List.forall_mem_cons] at hnames hvalues
      have htext : attributesText (a :: others) ++ '>' :: rest =
          ' ' :: (a.1 ++ '=' :: '"' :: (a.2 ++ '"' :: (attributesText others ++ '>' :: rest))) := by
        simp [attributesText]
      rw [htext, tagBody?_attribute hnames.1 hvalues.1, ih hnames.2 hvalues.2]
      rfl

theorem replaceNul_of_not_mem {s : List Char} (h : '\x00' ∉ s) : replaceNul s = s := by
  apply map_eq_self
  intro c hc
  rw [if_neg]
  rintro rfl
  exact h hc

theorem replaceNul_of_isNamePart {name : List Char} (h : ∀ c ∈ name, isNamePart c = true) :
    replaceNul name = name :=
  replaceNul_of_not_mem fun hmem => ne_of_isNamePart (h _ hmem) (by decide : isNamePart '\x00' = false) rfl

theorem attributeOf_reverse {name v : List Char} (hname : isAttributeName (lower name) = true)
    (hv : '\x00' ∉ v) :
    attributeOf name.reverse (escapeAttribute v).reverse = (String.ofList (lower name), String.ofList v) := by
  have hvalue : '\x00' ∉ escapeAttribute v := by
    intro h
    rcases (mem_escapeAttribute h).2 with h | h
    · exact hv h
    · revert h
      decide
  rw [attributeOf, List.reverse_reverse, List.reverse_reverse,
    replaceNul_of_isNamePart (isNamePart_of_isAttributeName hname), replaceNul_of_not_mem hvalue,
    Reference.resolve_escapeAttribute]

/-- What stands behind the name of a tag ends the name. -/
theorem exists_cons_attributesText (attributes : List (List Char × List Char)) (rest : List Char) :
    ∃ d ds, attributesText attributes ++ '>' :: rest = d :: ds ∧ endsTagName d = true ∧
      isNameChar d = false := by
  cases attributes with
  | nil => exact ⟨'>', rest, rfl, rfl, by decide⟩
  | cons a others => exact ⟨' ', _, rfl, rfl, by decide⟩

theorem firstOfEachName_of_nodup {attributes : List (String × String)}
    (h : (attributes.map Prod.fst).Nodup) : firstOfEachName attributes = attributes := by
  induction attributes with
  | nil => rfl
  | cons a rest ih =>
      rw [List.map_cons, List.nodup_cons] at h
      rw [firstOfEachName, ih h.2, List.filter_eq_self.mpr]
      intro b hb
      rw [bne_iff_ne]
      intro heq
      exact h.1 (heq ▸ List.mem_map_of_mem hb)

/-- A written tag is read as the tag it was written from, with its names in lower case. -/
theorem tag?_text_lowered {tag : Tag} (h : tag.lowered.IsReadable) (rest : List Char) :
    tag? (tag.text ++ rest) = some (tag.lowered, rest) := by
  obtain ⟨name, attributes, selfClosing⟩ := tag
  obtain ⟨hname, hnames, hvalues, hdistinct, hclosing⟩ := h
  obtain rfl : selfClosing = false := hclosing
  have hfirst : firstOfEachName (attributes.map fun a => (lowerName a.1, a.2)) =
      attributes.map fun a => (lowerName a.1, a.2) :=
    firstOfEachName_of_nodup hdistinct
  dsimp only [Tag.lowered, lowerName] at hname hnames hvalues
  rw [String.toList_ofList] at hname
  rw [List.forall_mem_map] at hnames hvalues
  have hlowered : ∀ a ∈ attributes, isAttributeName (lower a.1.toList) = true := by
    intro a ha
    have := hnames a ha
    rwa [String.toList_ofList] at this
  have hin : ∀ c ∈ name.toList, (!endsTagName c) = true := by
    intro c hc
    rw [endsTagName_of_lower (isNamePart_of_isTagName hname) c hc]
    rfl
  have hbody : tagBody? .between (attributesText (attributes.map fun a =>
      (a.1.toList, escapeAttribute a.2.toList)) ++ '>' :: rest) = _ :=
    tagBody?_attributesText (List.forall_mem_map.mpr hlowered)
      (List.forall_mem_map.mpr fun a _ hquote => (mem_escapeAttribute hquote).1 rfl) rest
  have hread : attributes.map (fun a =>
      attributeOf a.1.toList.reverse (escapeAttribute a.2.toList).reverse) =
        attributes.map fun a => (lowerName a.1, a.2) := by
    apply List.map_congr_left
    intro a ha
    rw [attributeOf_reverse (hlowered a ha) (hvalues a ha), String.ofList_toList]
    rfl
  rw [tag?, Tag.text]
  simp only [List.append_assoc, List.cons_append, List.nil_append]
  obtain ⟨d, ds, hcons, hd, _⟩ := exists_cons_attributesText
    (attributes.map fun a => (a.1.toList, escapeAttribute a.2.toList)) rest
  rw [List.takeWhile_append_of_pos hin, List.dropWhile_append_of_pos hin, hcons,
    List.takeWhile_cons_of_neg (by simp [hd]), List.dropWhile_cons_of_neg (by simp [hd]), ← hcons,
    hbody, Option.map_some, List.map_map]
  simp only [Function.comp_def, hread, hfirst, List.append_nil,
    replaceNul_of_isNamePart (isNamePart_of_isTagName hname)]
  rfl

theorem text_bare (name : String) (rest : List Char) :
    Tag.text ⟨name, [], false⟩ ++ rest = name.toList ++ '>' :: rest := by
  simp [Tag.text, attributesText]

theorem isPlain_bare {name : String} (h : isPlainName name.toList = true) :
    Tag.IsPlain ⟨name, [], false⟩ :=
  ⟨h, by simp, by simp, List.nodup_nil, rfl⟩

theorem isPlain_single {name key value : String} (hname : isPlainName name.toList = true)
    (hkey : isPlainName key.toList = true) (hvalue : '\x00' ∉ value.toList) :
    Tag.IsPlain ⟨name, [(key, value)], false⟩ :=
  ⟨hname, List.forall_mem_singleton.mpr hkey, List.forall_mem_singleton.mpr hvalue,
    List.nodup_cons.mpr ⟨List.not_mem_nil, List.nodup_nil⟩, rfl⟩

theorem endTag_text_lower {name : String} (h : isTagName (lower name.toList) = true) (rest : List Char) :
    endTag (name.toList ++ '>' :: rest) = ⟨[.endTag (lowerName name)], rest⟩ := by
  have hbare : (Tag.lowered ⟨name, [], false⟩).IsReadable :=
    ⟨by rwa [Tag.lowered, lowerName, String.toList_ofList], by simp [Tag.lowered], by simp [Tag.lowered],
      List.nodup_nil, rfl⟩
  rw [← text_bare, endTag, tag?_text_lowered hbare]
  rfl

theorem lowerName_of_isTagName {name : String} (h : isTagName name.toList = true) : lowerName name = name := by
  rw [lowerName, lower_of_isNamePart (isNamePart_of_isTagName h), String.ofList_toList]

theorem endTag_text {name : String} (h : isTagName name.toList = true) (rest : List Char) :
    endTag (name.toList ++ '>' :: rest) = ⟨[.endTag name], rest⟩ := by
  rw [endTag_text_lower (isTagName_lower h), lowerName_of_isTagName h]

theorem ne_of_isAlpha {c d : Char} (h : c.isAlpha = true) (hd : d.isAlpha = false) : c ≠ d := by
  rintro rfl
  rw [h] at hd
  cases hd

theorem opensMarkup_cons {c : Char} (h : c ≠ '/') (cs : List Char) :
    opensMarkup (c :: cs) = (c.isAlpha || c == '!' || c == '?') := by
  have hslash : (c == '/') = false := beq_eq_false_iff_ne.mpr h
  cases cs with
  | nil =>
      rw [opensMarkup, hslash, Bool.or_false]
      exact fun heq _ => h heq
  | cons d ds =>
      rw [opensMarkup, hslash, Bool.or_false]
      intro _ hnil
      cases hnil

theorem markup_cons_of_isAlpha {c : Char} (h : c.isAlpha = true) (sections : Bool) (cs : List Char) :
    markup sections (c :: cs) = startTag (c :: cs) := by
  unfold markup
  split
  · rename_i heq
    cases heq
  · rename_i heq
    exact absurd (List.cons.inj heq).1 (ne_of_isAlpha h (by decide))
  · rename_i heq
    exact absurd (List.cons.inj heq).1 (ne_of_isAlpha h (by decide))
  · rename_i heq
    obtain ⟨rfl, rfl⟩ := List.cons.inj heq
    rw [if_pos h]

/-- The first token of a text that begins with a written start tag, whose names may have capitals. -/
theorem first_startTag_lowered {tag : Tag} (h : tag.lowered.IsReadable) (sections : Bool) (rest : List Char) :
    first .markup sections '<' (tag.text ++ rest) = ⟨[.startTag tag.lowered], rest⟩ := by
  have htag := tag?_text_lowered h rest
  have hname := h.name
  rw [Tag.lowered, lowerName, String.toList_ofList] at hname
  obtain ⟨c, cs, hcons, hc⟩ := exists_cons_of_isTagName_lower hname
  obtain ⟨ds, htext⟩ : ∃ ds, tag.text ++ rest = c :: ds := ⟨_, by rw [Tag.text, hcons]; rfl⟩
  rw [htext] at htag ⊢
  rw [first, opensMarkup_cons (ne_of_isAlpha hc (by decide)), hc, markup_cons_of_isAlpha hc, startTag,
    htag]
  rfl

/-- The first token of a text that begins with a written start tag. -/
theorem first_startTag {tag : Tag} (h : tag.IsReadable) (sections : Bool) (rest : List Char) :
    first .markup sections '<' (tag.text ++ rest) = ⟨[.startTag tag], rest⟩ := by
  rw [first_startTag_lowered h.lowered, h.lowered_eq]

/-- The first token of a text that begins with a written end tag, whose name may have capitals. -/
theorem first_endTag_lower {name : String} (h : isTagName (lower name.toList) = true) (sections : Bool)
    (rest : List Char) :
    first .markup sections '<' ('/' :: (name.toList ++ '>' :: rest)) = ⟨[.endTag (lowerName name)], rest⟩ := by
  have hend := endTag_text_lower h rest
  obtain ⟨c, cs, hname, hc⟩ := exists_cons_of_isTagName_lower h
  rw [hname, List.cons_append] at hend ⊢
  have hopens : opensMarkup ('/' :: c :: (cs ++ '>' :: rest)) = true := rfl
  have hmarkup : markup sections ('/' :: c :: (cs ++ '>' :: rest)) = endTag (c :: (cs ++ '>' :: rest)) := by
    rw [markup, if_pos hc]
    exact ne_of_isAlpha hc (by decide)
  rw [first, hopens, hmarkup, hend]
  rfl

/-- The first token of a text that begins with a written end tag. -/
theorem first_endTag {name : String} (h : isTagName name.toList = true) (sections : Bool)
    (rest : List Char) :
    first .markup sections '<' ('/' :: (name.toList ++ '>' :: rest)) = ⟨[.endTag name], rest⟩ := by
  rw [first_endTag_lower (isTagName_lower h), lowerName_of_isTagName h]

end Lexer

/-! ### Scanning a written tag -/

namespace RootTags

theorem afterTag_cons {state : TagScan} {c : Char} (h : state.ends c = false) (cs : List Char) :
    afterTag state (c :: cs) = afterTag (state.after c) cs := by
  rw [afterTag, h]
  rfl

theorem afterTag_name {name : List Char} (h : ∀ c ∈ name, isNameChar c = true) (rest : List Char) :
    afterTag .plain (name ++ rest) = afterTag .plain rest := by
  induction name with
  | nil => rfl
  | cons c cs ih =>
      have hc := h c List.mem_cons_self
      have hends : TagScan.ends .plain c = false := by
        simp [TagScan.ends, ne_of_isNameChar hc (by decide : isNameChar '>' = false)]
      have hafter : TagScan.after .plain c = .plain := by
        simp [TagScan.after, ne_of_isNameChar hc (by decide : isNameChar '=' = false)]
      rw [List.cons_append, afterTag_cons hends, hafter, ih fun d hd => h d (List.mem_cons_of_mem _ hd)]

theorem afterTag_quoted {quote : Char} {v : List Char} (h : quote ∉ v) (rest : List Char) :
    afterTag (.quoted quote) (v ++ quote :: rest) = afterTag .plain rest := by
  induction v with
  | nil =>
      have hafter : TagScan.after (.quoted quote) quote = .plain := if_pos rfl
      rw [List.nil_append, afterTag_cons rfl, hafter]
  | cons c cs ih =>
      rw [List.mem_cons, not_or] at h
      have hafter : TagScan.after (.quoted quote) c = .quoted quote := by
        rw [TagScan.after, if_neg (Ne.symm h.1)]
      rw [List.cons_append, afterTag_cons rfl, hafter, ih h.2]

theorem afterTag_attributesText {attributes : List (List Char × List Char)}
    (hnames : ∀ a ∈ attributes, isPlainName a.1 = true) (hvalues : ∀ a ∈ attributes, '"' ∉ a.2)
    (rest : List Char) : afterTag .plain (attributesText attributes ++ '>' :: rest) = rest := by
  induction attributes with
  | nil => rfl
  | cons a others ih =>
      rw [List.forall_mem_cons] at hnames hvalues
      have htext : attributesText (a :: others) ++ '>' :: rest =
          ' ' :: (a.1 ++ '=' :: '"' :: (a.2 ++ '"' :: (attributesText others ++ '>' :: rest))) := by
        simp [attributesText]
      rw [htext, afterTag_cons rfl]
      change afterTag .plain _ = _
      rw [afterTag_name fun c hc => isNameChar_of_mem hnames.1 hc, afterTag_cons rfl, afterTag_cons rfl]
      change afterTag (.quoted '"') _ = _
      rw [afterTag_quoted hvalues.1, ih hnames.2 hvalues.2]

theorem lower_attributesText (attributes : List (List Char × List Char)) :
    lower (attributesText attributes) = attributesText (attributes.map fun a => (lower a.1, lower a.2)) := by
  induction attributes with
  | nil => rfl
  | cons a others ih =>
      simp only [attributesText, lower, List.map_cons, List.flatMap_cons, List.map_append] at ih ⊢
      rw [ih]
      rfl

theorem step_cons_of_isAlpha {c : Char} (h : c.isAlpha = true) (cs : List Char) :
    step (c :: cs) =
      (some (String.ofList ((c :: cs).takeWhile isNameChar)),
        afterElement (String.ofList ((c :: cs).takeWhile isNameChar))
          (afterTag .plain ((c :: cs).dropWhile isNameChar))) := by
  have hcomment : dropPrefix? "!--".toList (c :: cs) = none :=
    if_neg (Ne.symm (Lexer.ne_of_isAlpha h (by decide)))
  rw [step, hcomment]
  simp [h, Lexer.ne_of_isAlpha h (by decide : '!'.isAlpha = false),
    Lexer.ne_of_isAlpha h (by decide : '?'.isAlpha = false),
    Lexer.ne_of_isAlpha h (by decide : '/'.isAlpha = false)]

/-- What one step of the scan does at a written start tag. -/
theorem step_text {tag : Tag} (h : tag.IsPlain) (rest : List Char) :
    step (lower tag.text ++ rest) = (some tag.name, afterElement tag.name rest) := by
  have hin : ∀ c ∈ tag.name.toList, isNameChar c = true := fun c hc => isNameChar_of_mem h.name hc
  have htext : lower tag.text ++ rest = tag.name.toList ++ (attributesText (tag.attributes.map fun a =>
      (a.1.toList, lower (escapeAttribute a.2.toList))) ++ '>' :: rest) := by
    have hnames : tag.attributes.map (fun a => (lower a.1.toList, lower (escapeAttribute a.2.toList))) =
        tag.attributes.map fun a => (a.1.toList, lower (escapeAttribute a.2.toList)) :=
      List.map_congr_left fun a ha => by rw [lower_of_isPlainName (h.attributeNames a ha)]
    rw [Tag.text, lower, List.map_append, List.map_append]
    change lower tag.name.toList ++ (lower (attributesText _) ++ ['>']) ++ rest = _
    rw [lower_of_isPlainName h.name, lower_attributesText, List.map_map]
    simp only [Function.comp_def, hnames, List.append_assoc, List.cons_append, List.nil_append]
  have hafter : afterTag .plain (attributesText (tag.attributes.map fun a =>
      (a.1.toList, lower (escapeAttribute a.2.toList))) ++ '>' :: rest) = rest := by
    apply afterTag_attributesText
    · exact List.forall_mem_map.mpr h.attributeNames
    · exact List.forall_mem_map.mpr fun a _ hquote =>
        (mem_escapeAttribute (mem_of_mem_lower (by decide) hquote)).1 rfl
  obtain ⟨d, ds, hcons, _, hd⟩ := Lexer.exists_cons_attributesText
    (tag.attributes.map fun a => (a.1.toList, lower (escapeAttribute a.2.toList))) rest
  have htake : (lower tag.text ++ rest).takeWhile isNameChar = tag.name.toList := by
    rw [htext, List.takeWhile_append_of_pos hin, hcons, List.takeWhile_cons_of_neg (by simp [hd]),
      List.append_nil]
  have hdrop : afterTag .plain ((lower tag.text ++ rest).dropWhile isNameChar) = rest := by
    rw [htext, List.dropWhile_append_of_pos hin, hcons, List.dropWhile_cons_of_neg (by simp [hd]),
      ← hcons, hafter]
  obtain ⟨c, cs, hname, hc, _⟩ := exists_cons_of_isPlainName h.name
  obtain ⟨es, hes⟩ : ∃ es, lower tag.text ++ rest = c :: es := ⟨_, by rw [htext, hname]; rfl⟩
  rw [hes] at htake hdrop ⊢
  rw [step_cons_of_isAlpha hc, htake, hdrop, String.ofList_toList]

end RootTags

end MarkupModule.Markup
