import MarkupModule.Options.Json
import MarkupModule.Proofs.Json.Skipping
import Mathlib.Data.List.TakeWhile

/-! Options that are written as JSON are read as the same options. They may be written as an object, with
the fields in any order, fields left out that have their defaults, and members of other names anywhere among
them, as often as one likes and with any values; or as a list of the fields in order, as far as they do not
have their defaults. White space may stand around every token. What is read of a field does not touch the
others, so after each member the fields read so far are those that were written, and the rest have their
defaults. -/

namespace MarkupModule.Options

open Json

/-! ### Written options -/

/-- A list of strings with every one as a literal. -/
def IsStrings (items : List String) (s : List Char) : Prop :=
  ∃ inner, Listed true (items.map fun item => quote item.toList) inner ∧ s = '[' :: (inner ++ [']'])

namespace Field

/-- The value of a field as it is written. -/
def IsSpelled (options : Options) : Field → List Char → Prop
  | ignoredLinks, s => IsStrings options.ignoredLinks s
  | ignoredFragments, s => IsStrings options.ignoredFragments s
  | keptFragments, s => IsStrings options.keptFragments s
  | registerHelper, s => s = quote options.registerHelper.toList

/-- Two options have the same value of a field. -/
def Agrees (options options' : Options) : Field → Prop
  | ignoredLinks => options.ignoredLinks = options'.ignoredLinks
  | ignoredFragments => options.ignoredFragments = options'.ignoredFragments
  | keptFragments => options.keptFragments = options'.keptFragments
  | registerHelper => options.registerHelper = options'.registerHelper

instance (options options' : Options) : DecidablePred (Agrees options options')
  | ignoredLinks => inferInstanceAs (Decidable (_ = _))
  | ignoredFragments => inferInstanceAs (Decidable (_ = _))
  | keptFragments => inferInstanceAs (Decidable (_ = _))
  | registerHelper => inferInstanceAs (Decidable (_ = _))

theorem mem_all (field : Field) : field ∈ all := by
  cases field <;> decide

instance {p : Field → Prop} [DecidablePred p] : Decidable (∀ field, p field) :=
  decidable_of_iff (∀ field ∈ all, p field) ⟨fun h field => h field field.mem_all, fun h field _ => h field⟩

end Field

/-- A member of the object: one of the fields, or one with another name. -/
inductive IsMember (options : Options) : Option Field → Member → Prop
  | field {field : Field} {member : Member} (hname : member.name = quote field.name.toList)
      (hvalue : field.IsSpelled options member.value) : IsMember options (some field) member
  | other {name : String} {member : Member} (hname : member.name = quote name.toList)
      (hother : ∀ field : Field, field.name ≠ name) (hvalue : IsValue member.value) :
      IsMember options none member

/-- The texts that options may be written as. -/
inductive IsWritten (options : Options) : List Char → Prop
  | object {members : List (Option Field × Member)} {front inner behind : List Char}
      (hmembers : ∀ member ∈ members, IsMember options member.1 member.2)
      (honce : (members.filterMap Prod.fst).Nodup)
      (hleft : ∀ field ∉ members.filterMap Prod.fst, field.Agrees options {})
      (hlisted : Listed true (members.map fun member => member.2.text) inner)
      (hfront : IsBlank front) (hbehind : IsBlank behind) :
      IsWritten options (front ++ '\x7b' :: (inner ++ '\x7d' :: behind))
  | list {k : Nat} {items : List (List Char)} {front inner behind : List Char}
      (hitems : List.Forall₂ (Field.IsSpelled options) (Field.all.take k) items)
      (hleft : ∀ field ∈ Field.all.drop k, field.Agrees options {})
      (hlisted : Listed true items inner) (hfront : IsBlank front) (hbehind : IsBlank behind) :
      IsWritten options (front ++ '[' :: (inner ++ ']' :: behind))

/-! ### Written without white space -/

namespace Field

/-- The value of a field without white space. -/
def spell (options : Options) : Field → List Char
  | ignoredLinks => list options.ignoredLinks
  | ignoredFragments => list options.ignoredFragments
  | keptFragments => list options.keptFragments
  | registerHelper => quote options.registerHelper.toList
where
  list (items : List String) : List Char :=
    '[' :: (separated (items.map fun item => quote item.toList) ++ [']'])

theorem isSpelled_spell (options : Options) (field : Field) : field.IsSpelled options (field.spell options) := by
  cases field with
  | registerHelper => rfl
  | ignoredLinks | ignoredFragments | keptFragments => exact ⟨_, listed_separated _, rfl⟩

def member (options : Options) (field : Field) : Member :=
  { name := quote field.name.toList, value := field.spell options }

end Field

/-- The object with some of the fields in some order, and nothing else. -/
def compact (options : Options) (fields : List Field) : List Char :=
  '\x7b' :: (separated (fields.map fun field => (field.member options).text) ++ ['\x7d'])

/-- Options may be written with their fields in any order, and without those that have their defaults. -/
theorem isWritten_compact {options : Options} {fields : List Field} (honce : fields.Nodup)
    (hleft : ∀ field ∉ fields, field.Agrees options {}) : IsWritten options (compact options fields) := by
  have hfields : (fields.map fun field => (some field, field.member options)).filterMap Prod.fst = fields := by
    rw [List.filterMap_map]
    exact List.filterMap_some
  refine @IsWritten.object options _ [] _ [] ?_ (hfields.symm ▸ honce) (hfields.symm ▸ hleft) ?_ isBlank_nil
    isBlank_nil
  · intro member hmember
    obtain ⟨field, -, rfl⟩ := List.mem_map.mp hmember
    exact .field rfl (field.isSpelled_spell options)
  · rw [List.map_map]
    exact listed_separated _

/-! ### Fields -/

namespace Field

theorem ext_agrees {options options' : Options} (h : ∀ field : Field, field.Agrees options options') :
    options = options' := by
  obtain ⟨links, fragments, kept, helper⟩ := options
  obtain ⟨links', fragments', kept', helper'⟩ := options'
  obtain rfl : links = links' := h ignoredLinks
  obtain rfl : fragments = fragments' := h ignoredFragments
  obtain rfl : kept = kept' := h keptFragments
  obtain rfl : helper = helper' := h registerHelper
  rfl

/-- The options with the value of a field taken over from others. -/
def copy (source target : Options) : Field → Options
  | ignoredLinks => { target with ignoredLinks := source.ignoredLinks }
  | ignoredFragments => { target with ignoredFragments := source.ignoredFragments }
  | keptFragments => { target with keptFragments := source.keptFragments }
  | registerHelper => { target with registerHelper := source.registerHelper }

theorem agrees_copy (source target : Options) (field : Field) :
    field.Agrees (field.copy source target) source := by
  cases field <;> rfl

theorem agrees_copy_of_ne (source target : Options) {field other : Field} (h : other ≠ field) :
    other.Agrees (field.copy source target) target := by
  cases field <;> cases other <;> first | rfl | exact absurd rfl h

theorem Agrees.trans {options options' options'' : Options} {field : Field}
    (h : field.Agrees options options') (h' : field.Agrees options' options'') :
    field.Agrees options options'' := by
  cases field <;> exact Eq.trans h h'

theorem Agrees.symm {options options' : Options} {field : Field} (h : field.Agrees options options') :
    field.Agrees options' options := by
  cases field <;> exact Eq.symm h

/-- The options with the values of several fields taken over, one after the other. -/
def copyAll (source : Options) (fields : List Field) (target : Options) : Options :=
  fields.foldl (fun options field => field.copy source options) target

theorem agrees_copyAll_of_not_mem (source : Options) {fields : List Field} {field : Field}
    (h : field ∉ fields) (target : Options) : field.Agrees (copyAll source fields target) target := by
  induction fields generalizing target with
  | nil => cases field <;> rfl
  | cons first fields ih =>
      rw [List.mem_cons, not_or] at h
      exact (ih h.2 _).trans (agrees_copy_of_ne source target h.1)

theorem agrees_copyAll_of_mem (source : Options) {fields : List Field} {field : Field}
    (h : field ∈ fields) (target : Options) : field.Agrees (copyAll source fields target) source := by
  induction fields generalizing target with
  | nil => cases h
  | cons first fields ih =>
      by_cases hmem : field ∈ fields
      · exact ih hmem _
      · obtain rfl := (List.mem_cons.mp h).resolve_right hmem
        exact (agrees_copyAll_of_not_mem source hmem _).trans (agrees_copy source target field)

/-- Fields that are left out have their defaults, so the others make up the options. -/
theorem copyAll_eq {source : Options} {fields : List Field}
    (h : ∀ field ∉ fields, field.Agrees source {}) : copyAll source fields {} = source := by
  refine ext_agrees fun field => ?_
  by_cases hmem : field ∈ fields
  · exact agrees_copyAll_of_mem source hmem {}
  · exact (agrees_copyAll_of_not_mem source hmem {}).trans (h field hmem).symm

theorem ofName?_name (field : Field) : ofName? field.name = some field := by
  cases field <;> decide

theorem ofName?_eq_none {name : String} (h : ∀ field : Field, field.name ≠ name) : ofName? name = none := by
  rw [ofName?, List.find?_eq_none]
  intro field _
  rw [beq_false_of_ne (h field)]
  exact Bool.false_ne_true

end Field

/-! ### Strings and lists of strings -/

/-- A reader gets a value out of a text and stands in front of what is left of it, at any line and column. -/
def Reads {α : Type} (read : Cursor → Except Problem (α × Cursor)) (value : α) (s rest : List Char) : Prop :=
  ∀ cursor : Cursor, cursor.rest = s → ∃ next : Cursor, next.rest = rest ∧ read cursor = .ok (value, next)

variable {blank rest : List Char}

theorem quote_append (s rest : List Char) :
    quote s ++ rest = '"' :: (s.flatMap quoteChar ++ '"' :: rest) := by
  rw [quote, List.append_assoc]
  rfl

theorem reads_literal (s rest : List Char) :
    Reads literal (String.ofList s) (s.flatMap quoteChar ++ '"' :: rest) rest := by
  rintro ⟨_, line, column⟩ rfl
  exact literal_quote s rest line column

theorem reads_readString (hblank : IsBlank blank) (item : String) :
    Reads readString item (blank ++ (quote item.toList ++ rest)) rest := by
  intro cursor h
  rw [quote_append] at h
  have hstart := rest_skipSpace hblank (by decide) h
  obtain ⟨next, hnext, hread⟩ := reads_literal item.toList rest _ (rest_advance hstart)
  refine ⟨next, hnext, ?_⟩
  rw [readString, peek?_of_rest hstart]
  rw [String.ofList_toList] at hread
  exact hread

theorem nextItem_nil {isFirst : Bool} {s : List Char} (hlisted : Listed isFirst [] s) {cursor : Cursor}
    (h : cursor.rest = s ++ ']' :: rest) : nextItem isFirst cursor = .ok none := by
  cases hlisted with
  | none hblank =>
      have hstart := rest_skipSpace hblank (by decide) h
      rw [nextItem, peek?_of_rest hstart]
      rfl

theorem nextItem_cons {isFirst : Bool} {part : List Char} {parts : List (List Char)} {s : List Char}
    (hlisted : Listed isFirst (part :: parts) s)
    (hhead : ∃ c cs, part = c :: cs ∧ Cursor.isSpace c = false ∧ c ≠ ']') {cursor : Cursor}
    (h : cursor.rest = s ++ ']' :: rest) :
    ∃ tail next, Listed false parts tail ∧ next.rest = part ++ (tail ++ ']' :: rest) ∧
      nextItem isFirst cursor = .ok (some next) := by
  obtain ⟨c, cs, rfl, hspace, hclosing⟩ := hhead
  cases hlisted with
  | @first front _ tail _ hfront hmore =>
      simp only [List.append_assoc, List.cons_append] at h
      have hstart := rest_skipSpace hfront hspace h
      refine ⟨tail, cursor.skipSpace, hmore, hstart, ?_⟩
      rw [nextItem, peek?_of_rest hstart]
      dsimp only
      rw [if_neg hclosing, if_pos rfl]
  | @more behind front _ tail _ hbehind hfront hmore =>
      simp only [List.append_assoc, List.cons_append] at h
      have hcomma := rest_skipSpace hbehind (by decide) h
      have hstart := rest_skipSpace hfront hspace (rest_advance hcomma)
      refine ⟨tail, cursor.skipSpace.advance.skipSpace, hmore, hstart, ?_⟩
      rw [nextItem, peek?_of_rest hcomma]
      dsimp only
      rw [if_neg (by decide), if_neg (by decide), if_pos rfl, peek?_of_rest hstart]
      dsimp only
      rw [if_neg hclosing]

theorem quote_head (s : List Char) : ∃ c cs, quote s = c :: cs ∧ Cursor.isSpace c = false ∧ c ≠ ']' :=
  ⟨'"', _, rfl, rfl, by decide⟩

theorem readStringsWithin_listed {items : List String} {isFirst : Bool} {s : List Char}
    (hlisted : Listed isFirst (items.map fun item => quote item.toList) s) {n : Nat} (hn : items.length < n)
    {cursor : Cursor} (h : cursor.rest = s ++ ']' :: rest) :
    ∃ behind next, IsBlank behind ∧ next.rest = behind ++ ']' :: rest ∧
      readStringsWithin n isFirst cursor = .ok (items, next) := by
  induction items generalizing isFirst s n cursor with
  | nil =>
      obtain ⟨m, rfl⟩ := Nat.exists_eq_add_of_lt hn
      rw [readStringsWithin, nextItem_nil hlisted h]
      cases hlisted with
      | none hblank => exact ⟨s, cursor, hblank, h, rfl⟩
  | cons item items ih =>
      obtain ⟨m, rfl⟩ := Nat.exists_eq_add_of_lt hn
      obtain ⟨tail, start, hmore, hstart, hitem⟩ := nextItem_cons hlisted (quote_head _) h
      obtain ⟨middle, hmiddle, hread⟩ := reads_readString isBlank_nil item start hstart
      obtain ⟨behind, next, hbehind, hnext, hrest⟩ :=
        ih hmore (n := (item :: items).length + m) (by simp only [List.length_cons]; omega) hmiddle
      refine ⟨behind, next, hbehind, hnext, ?_⟩
      rw [readStringsWithin, hitem]
      change (readString start >>= _) = _
      rw [hread]
      change (readStringsWithin _ false middle >>= _) = _
      rw [hrest]
      rfl

theorem passes_endList (hblank : IsBlank blank) : Passes endList (blank ++ ']' :: rest) rest := by
  intro cursor h
  have hstart := rest_skipSpace hblank (by decide) h
  refine ⟨cursor.skipSpace.advance, rest_advance hstart, ?_⟩
  rw [endList, peek?_of_rest hstart]
  exact if_pos rfl

/-- There are no more parts than characters, which is what the readers of parts are given. -/
theorem length_le_of_listed {isFirst : Bool} {parts : List (List Char)} {s : List Char}
    (hlisted : Listed isFirst parts s) (hparts : ∀ part ∈ parts, part ≠ []) : parts.length ≤ s.length := by
  induction hlisted with
  | none => exact Nat.zero_le _
  | @first front part s parts _ _ ih =>
      have hpos := List.length_pos_of_ne_nil (hparts part List.mem_cons_self)
      have hle := ih fun other hmem => hparts other (List.mem_cons_of_mem _ hmem)
      simp only [List.length_cons, List.length_append]
      omega
  | @more behind front part s parts _ _ _ ih =>
      have hle := ih fun other hmem => hparts other (List.mem_cons_of_mem _ hmem)
      simp only [List.length_cons, List.length_append]
      omega

theorem reads_readStrings {items : List String} {s : List Char} (hblank : IsBlank blank)
    (hitems : IsStrings items s) : Reads readStrings items (blank ++ (s ++ rest)) rest := by
  intro cursor h
  obtain ⟨inner, hlisted, rfl⟩ := hitems
  simp only [List.cons_append, List.append_assoc, List.nil_append] at h
  have hstart := rest_skipSpace hblank (by decide) h
  have hle := length_le_of_listed hlisted fun part hpart => by
    obtain ⟨item, -, rfl⟩ := List.mem_map.mp hpart
    exact List.cons_ne_nil _ _
  rw [List.length_map] at hle
  have hn : items.length < cursor.skipSpace.rest.length + 1 := by
    rw [hstart, List.length_cons, List.length_append]
    omega
  obtain ⟨behind, middle, hbehind, hmiddle, hread⟩ :=
    readStringsWithin_listed hlisted hn (rest_advance hstart)
  obtain ⟨next, hnext, hend⟩ := passes_endList hbehind middle hmiddle
  refine ⟨next, hnext, ?_⟩
  rw [readStrings, peek?_of_rest hstart]
  change (readStringsWithin _ true cursor.skipSpace.advance >>= _) = _
  rw [hread]
  change (endList middle >>= _) = _
  rw [hend]
  rfl

/-! ### The list form -/

theorem Field.IsSpelled.exists_cons {options : Options} {field : Field} {s : List Char}
    (h : field.IsSpelled options s) : ∃ c cs, s = c :: cs ∧ Cursor.isSpace c = false ∧ c ≠ ']' := by
  cases field with
  | registerHelper =>
      obtain rfl : s = _ := h
      exact quote_head _
  | ignoredLinks | ignoredFragments | keptFragments =>
      obtain ⟨inner, -, rfl⟩ := h
      exact ⟨'[', _, rfl, rfl, by decide⟩

/-- What is read of a field is its written value, and the other fields stay as they are. -/
theorem reads_readField {options : Options} {field : Field} {s : List Char} (hblank : IsBlank blank)
    (hfield : field.IsSpelled options s) (target : Options) :
    Reads (fun cursor => readField target cursor field) (field.copy options target) (blank ++ (s ++ rest))
      rest := by
  intro cursor h
  cases field with
  | registerHelper =>
      obtain rfl : s = _ := hfield
      obtain ⟨next, hnext, hread⟩ := reads_readString hblank _ cursor h
      refine ⟨next, hnext, ?_⟩
      change (readString cursor >>= _) = _
      rw [hread]
      rfl
  | ignoredLinks | ignoredFragments | keptFragments =>
      obtain ⟨next, hnext, hread⟩ := reads_readStrings hblank hfield cursor h
      refine ⟨next, hnext, ?_⟩
      change (readStrings cursor >>= _) = _
      rw [hread]
      rfl

theorem readFields_listed {options : Options} {fields : List Field} {items : List (List Char)}
    (hitems : List.Forall₂ (Field.IsSpelled options) fields items) (more : List Field) {isFirst : Bool}
    {s : List Char} (hlisted : Listed isFirst items s) (target : Options) {cursor : Cursor}
    (h : cursor.rest = s ++ ']' :: rest) :
    ∃ behind next, IsBlank behind ∧ next.rest = behind ++ ']' :: rest ∧
      readFields isFirst target cursor (fields ++ more) =
        .ok (Field.copyAll options fields target, next) := by
  induction hitems generalizing isFirst s target cursor with
  | nil =>
      cases more with
      | nil =>
          cases hlisted with
          | none hblank => exact ⟨s, cursor, hblank, h, rfl⟩
      | cons field more =>
          rw [List.nil_append, readFields, nextItem_nil hlisted h]
          cases hlisted with
          | none hblank => exact ⟨s, cursor, hblank, h, rfl⟩
  | @cons field item fields items hfield _ ih =>
      obtain ⟨tail, start, hmore, hstart, hitem⟩ := nextItem_cons hlisted hfield.exists_cons h
      obtain ⟨middle, hmiddle, hread⟩ := reads_readField isBlank_nil hfield target start hstart
      obtain ⟨behind, next, hbehind, hnext, hrest⟩ := ih hmore (field.copy options target) hmiddle
      refine ⟨behind, next, hbehind, hnext, ?_⟩
      rw [List.cons_append, readFields, hitem]
      change (readField target start field >>= _) = _
      rw [show readField target start field = _ from hread]
      exact hrest

/-! ### The object form -/

theorem nextMember_nil {isFirst : Bool} {s : List Char} (hlisted : Listed isFirst [] s) {cursor : Cursor}
    (h : cursor.rest = s ++ '\x7d' :: rest) : nextMember isFirst cursor = .ok none := by
  cases hlisted with
  | none hblank =>
      have hstart := rest_skipSpace hblank (by decide) h
      rw [nextMember, peek?_of_rest hstart]
      rfl

theorem nextMember_cons {isFirst : Bool} {cs : List Char} {parts : List (List Char)} {s : List Char}
    (hlisted : Listed isFirst (('"' :: cs) :: parts) s) {cursor : Cursor}
    (h : cursor.rest = s ++ '\x7d' :: rest) :
    ∃ tail next, Listed false parts tail ∧ next.rest = '"' :: (cs ++ (tail ++ '\x7d' :: rest)) ∧
      nextMember isFirst cursor = .ok (some next) := by
  cases hlisted with
  | @first front _ tail _ hfront hmore =>
      simp only [List.append_assoc, List.cons_append] at h
      have hstart := rest_skipSpace hfront (by decide) h
      refine ⟨tail, cursor.skipSpace, hmore, hstart, ?_⟩
      rw [nextMember, peek?_of_rest hstart]
      rfl
  | @more behind front _ tail _ hbehind hfront hmore =>
      simp only [List.append_assoc, List.cons_append] at h
      have hcomma := rest_skipSpace hbehind (by decide) h
      have hstart := rest_skipSpace hfront (by decide) (rest_advance hcomma)
      refine ⟨tail, cursor.skipSpace.advance.skipSpace, hmore, hstart, ?_⟩
      rw [nextMember, peek?_of_rest hcomma]
      dsimp only
      rw [if_neg (by decide), if_neg (by decide), if_pos rfl, peek?_of_rest hstart]
      rfl

theorem passes_colon (hblank : IsBlank blank) : Passes colon (blank ++ ':' :: rest) rest := by
  intro cursor h
  have hstart := rest_skipSpace hblank (by decide) h
  refine ⟨cursor.skipSpace.advance, rest_advance hstart, ?_⟩
  rw [colon, peek?_of_rest hstart]
  rfl

/-- The name of a member and its colon, in front of its value. -/
theorem read_name {name : String} {member : Member} (hname : member.name = quote name.toList)
    {cursor : Cursor} (h : cursor.rest = member.text ++ rest) :
    ∃ behind next, next.rest = member.behindColon ++ (member.value ++ rest) ∧
      literal cursor.advance = .ok (name, behind) ∧ colon behind = .ok next := by
  rw [Member.text, hname] at h
  simp only [List.append_assoc, List.cons_append] at h
  rw [quote_append] at h
  obtain ⟨behind, hbehind, hread⟩ := reads_literal name.toList _ _ (rest_advance h)
  obtain ⟨next, hnext, hcolon⟩ := passes_colon member.isBlank_beforeColon behind hbehind
  rw [String.ofList_toList] at hread
  exact ⟨behind, next, hnext, hread, hcolon⟩

theorem IsMember.exists_cons {options : Options} {field? : Option Field} {member : Member}
    (h : IsMember options field? member) : ∃ cs, member.text = '"' :: cs := by
  cases h with
  | field hname | other hname =>
      rw [Member.text, hname, quote_append]
      exact ⟨_, rfl⟩

/-- A field is read where it was not before. -/
theorem readMembersWithin_field {isFirst : Bool} {seen : List Field} {field : Field} (hseen : field ∉ seen)
    {target target' : Options} {cursor start behind value next : Cursor}
    (hstart : nextMember isFirst cursor = .ok (some start))
    (hname : literal start.advance = .ok (field.name, behind)) (hcolon : colon behind = .ok value)
    (hvalue : readField target value field = .ok (target', next)) (n : Nat) :
    readMembersWithin (n + 1) isFirst seen target cursor =
      readMembersWithin n false (field :: seen) target' next := by
  have hcontains : ¬seen.contains field = true := by
    rw [List.contains_iff_mem]
    exact hseen
  rw [readMembersWithin, hstart]
  change (literal start.advance >>= _) = _
  rw [hname]
  dsimp only [bind, Except.bind]
  rw [Field.ofName?_name]
  dsimp only
  rw [if_neg hcontains, hcolon]
  dsimp only
  rw [hvalue]

/-- A member with another name is skipped. -/
theorem readMembersWithin_other {isFirst : Bool} {seen : List Field} {name : String}
    (hother : ∀ field : Field, field.name ≠ name) {target : Options} {cursor start behind value next : Cursor}
    (hstart : nextMember isFirst cursor = .ok (some start))
    (hname : literal start.advance = .ok (name, behind)) (hcolon : colon behind = .ok value)
    (hvalue : skipValue value = .ok next) (n : Nat) :
    readMembersWithin (n + 1) isFirst seen target cursor = readMembersWithin n false seen target next := by
  rw [readMembersWithin, hstart]
  change (literal start.advance >>= _) = _
  rw [hname]
  dsimp only [bind, Except.bind]
  rw [Field.ofName?_eq_none hother]
  dsimp only
  rw [hcolon]
  dsimp only
  rw [hvalue]

theorem readMembersWithin_listed {options : Options} {members : List (Option Field × Member)}
    (hmembers : ∀ member ∈ members, IsMember options member.1 member.2) (seen : List Field)
    (honce : (members.filterMap Prod.fst).Nodup) (hseen : ∀ field ∈ members.filterMap Prod.fst, field ∉ seen)
    {isFirst : Bool} {s : List Char} (hlisted : Listed isFirst (members.map fun member => member.2.text) s)
    {n : Nat} (hn : members.length < n) (target : Options) {cursor : Cursor}
    (h : cursor.rest = s ++ '\x7d' :: rest) :
    ∃ behind next, IsBlank behind ∧ next.rest = behind ++ '\x7d' :: rest ∧
      readMembersWithin n isFirst seen target cursor =
        .ok (Field.copyAll options (members.filterMap Prod.fst) target, next) := by
  induction members generalizing seen isFirst s n target cursor with
  | nil =>
      obtain ⟨m, rfl⟩ := Nat.exists_eq_add_of_lt hn
      rw [readMembersWithin, nextMember_nil hlisted h]
      cases hlisted with
      | none hblank => exact ⟨s, cursor, hblank, h, rfl⟩
  | cons first members ih =>
      obtain ⟨m, rfl⟩ := Nat.exists_eq_add_of_lt hn
      have hn' : members.length < (first :: members).length + m := by
        rw [List.length_cons]
        omega
      have hmembers' := fun member hmem => hmembers member (List.mem_cons_of_mem _ hmem)
      have hfirst := hmembers first List.mem_cons_self
      obtain ⟨field?, member⟩ := first
      obtain ⟨cs, hcs⟩ := hfirst.exists_cons
      rw [List.map_cons, hcs] at hlisted
      obtain ⟨tail, start, hmore, hstart, hnext⟩ := nextMember_cons hlisted h
      rw [← List.cons_append, ← hcs] at hstart
      cases hfirst with
      | @field field _ hname hvalue =>
          have hfields : ((some field, member) :: members).filterMap Prod.fst =
              field :: members.filterMap Prod.fst := rfl
          rw [hfields] at honce hseen ⊢
          obtain ⟨hfield, honce'⟩ := List.nodup_cons.mp honce
          obtain ⟨behind, value, hrest, hread, hcolon⟩ := read_name hname hstart
          obtain ⟨middle, hmiddle, hfieldRead⟩ :=
            reads_readField member.isBlank_behindColon hvalue target value hrest
          have hseen' : ∀ other ∈ members.filterMap Prod.fst, other ∉ field :: seen := by
            intro other hother hmem
            rcases List.mem_cons.mp hmem with rfl | hmem
            · exact hfield hother
            · exact hseen other (List.mem_cons_of_mem _ hother) hmem
          rw [readMembersWithin_field (hseen field List.mem_cons_self) hnext hread hcolon hfieldRead]
          exact ih hmembers' (field :: seen) honce' hseen' hmore hn' (field.copy options target) hmiddle
      | other hname hother hvalue =>
          have hfields : ((none, member) :: members).filterMap Prod.fst = members.filterMap Prod.fst := rfl
          rw [hfields] at honce hseen ⊢
          obtain ⟨behind, value, hrest, hread, hcolon⟩ := read_name hname hstart
          obtain ⟨middle, hmiddle, hskip⟩ :=
            passes_skipValue hvalue member.isBlank_behindColon (hmore.endsNumber true rest) value hrest
          rw [readMembersWithin_other hother hnext hread hcolon hskip]
          exact ih hmembers' seen honce hseen hmore hn' target hmiddle

/-! ### The whole text -/

theorem reads_readOptions_object {options : Options} {members : List (Option Field × Member)}
    {inner : List Char} (hmembers : ∀ member ∈ members, IsMember options member.1 member.2)
    (honce : (members.filterMap Prod.fst).Nodup)
    (hleft : ∀ field ∉ members.filterMap Prod.fst, field.Agrees options {})
    (hlisted : Listed true (members.map fun member => member.2.text) inner) (hblank : IsBlank blank) :
    Reads readOptions options (blank ++ '\x7b' :: (inner ++ '\x7d' :: rest)) rest := by
  intro cursor h
  have hstart := rest_skipSpace hblank (by decide) h
  have hle := length_le_of_listed hlisted fun part hpart => by
    obtain ⟨member, hmem, rfl⟩ := List.mem_map.mp hpart
    obtain ⟨cs, hcs⟩ := (hmembers member hmem).exists_cons
    rw [hcs]
    exact List.cons_ne_nil _ _
  rw [List.length_map] at hle
  have hn : members.length < cursor.skipSpace.rest.length + 1 := by
    rw [hstart, List.length_cons, List.length_append]
    omega
  obtain ⟨behind, next, hbehind, hnext, hread⟩ := readMembersWithin_listed hmembers [] honce
    (fun _ _ => List.not_mem_nil) hlisted hn {} (rest_advance hstart)
  rw [Field.copyAll_eq hleft] at hread
  have hend := rest_skipSpace hbehind (by decide) hnext
  refine ⟨next.skipSpace.advance, rest_advance hend, ?_⟩
  rw [readOptions, peek?_of_rest hstart]
  dsimp only
  rw [if_neg (by decide), if_neg (by decide), if_pos rfl, hread]
  rfl

theorem reads_readOptions_list {options : Options} {k : Nat} {items : List (List Char)} {inner : List Char}
    (hitems : List.Forall₂ (Field.IsSpelled options) (Field.all.take k) items)
    (hleft : ∀ field ∈ Field.all.drop k, field.Agrees options {}) (hlisted : Listed true items inner)
    (hblank : IsBlank blank) :
    Reads readOptions options (blank ++ '[' :: (inner ++ ']' :: rest)) rest := by
  intro cursor h
  have hstart := rest_skipSpace hblank (by decide) h
  obtain ⟨behind, middle, hbehind, hmiddle, hread⟩ :=
    readFields_listed hitems (Field.all.drop k) hlisted {} (rest_advance hstart)
  have hrest : ∀ field ∉ Field.all.take k, field.Agrees options {} := by
    intro field hfield
    have hmem := field.mem_all
    rw [← List.take_append_drop k Field.all, List.mem_append] at hmem
    exact hleft field (hmem.resolve_left hfield)
  rw [List.take_append_drop, Field.copyAll_eq hrest] at hread
  obtain ⟨next, hnext, hend⟩ := passes_endList hbehind middle hmiddle
  refine ⟨next, hnext, ?_⟩
  rw [readOptions, peek?_of_rest hstart]
  dsimp only
  rw [if_neg (by decide), if_pos rfl, hread]
  change (endList middle >>= _) = _
  rw [hend]
  rfl

theorem readDocument_eq {options : Options} {s behind : List Char} (h : Reads readOptions options s behind)
    (hbehind : IsBlank behind) {cursor : Cursor} (hrest : cursor.rest = s) :
    readDocument cursor = .ok options := by
  obtain ⟨next, hnext, hread⟩ := h cursor hrest
  have hend : next.skipSpace.rest = [] := by
    rw [Cursor.skipSpace, rest_go_skipSpace, hnext, List.dropWhile_eq_nil_iff]
    exact hbehind
  rw [readDocument, hread]
  change (if next.skipSpace.rest.isEmpty = true then Except.ok options else _) = _
  rw [hend]
  rfl

theorem ofJson_of_readDocument {options : Options} {json : String} {c : Char} (hmem : c ∈ json.toList)
    (hc : Text.isBlankChar c = false) (h : readDocument (Cursor.ofString json) = .ok options) :
    ofJson json = .ok options := by
  have hblank : ¬Text.isBlank json.toList = true := by
    intro hall
    rw [Text.isBlank, List.all_eq_true] at hall
    exact Bool.false_ne_true (hc.symm.trans (hall c hmem))
  rw [ofJson, if_neg hblank, h]

theorem ofJson_of_isWritten {options : Options} {json : String} (h : IsWritten options json.toList) :
    ofJson json = .ok options := by
  generalize hs : json.toList = s at h
  cases h with
  | object hmembers honce hleft hlisted hfront hbehind =>
      refine ofJson_of_readDocument (c := '\x7b') (by rw [hs]; simp) (by decide) ?_
      exact readDocument_eq (reads_readOptions_object hmembers honce hleft hlisted hfront) hbehind hs
  | list hitems hleft hlisted hfront hbehind =>
      refine ofJson_of_readDocument (c := '[') (by rw [hs]; simp) (by decide) ?_
      exact readDocument_eq (reads_readOptions_list hitems hleft hlisted hfront) hbehind hs

/-- Options that are written in either form are read as they are. So they are when they are written without
white space, with their fields in any order, and without any fields that have their defaults. -/
theorem ofJson_written (options : Options) :
    (∀ json : String, IsWritten options json.toList → ofJson json = .ok options) ∧
    ∀ fields : List Field, fields.Nodup → (∀ field ∉ fields, field.Agrees options {}) →
      ofJson (String.ofList (compact options fields)) = .ok options := by
  refine ⟨fun json h => ofJson_of_isWritten h, fun fields honce hleft => ?_⟩
  apply ofJson_of_isWritten
  rw [String.toList_ofList]
  exact isWritten_compact honce hleft

theorem ofJson_written_mixed :
    let options : Options := { registerHelper := "é\"" }
    let json := "\n\x7b\"x\" : [\x7b\"\\uD800\":null\x7d ],\"registerHelper\":\"é\\\"\" ,\"x\":-0.5e+3\t\x7d"
    IsWritten options json.toList ∧ ofJson json = .ok options ∧
      ofJson (String.ofList (compact options [.registerHelper])) = .ok options := by
  intro options json
  have hname : IsLiteral "\"\\uD800\"".toList := ⟨"\\uD800".toList, .digits (by decide) .nil, rfl⟩
  have hobject : IsValue "\x7b\"\\uD800\":null\x7d".toList :=
    @IsValue.object [{ name := "\"\\uD800\"".toList, value := "null".toList }] _
      (List.forall_mem_singleton.mpr hname) (List.forall_mem_singleton.mpr (.word (by decide)))
      (@Listed.first [] _ _ _ (by decide) (@Listed.none _ [] (by decide)))
  have hlist : IsValue "[\x7b\"\\uD800\":null\x7d ]".toList :=
    @IsValue.list ["\x7b\"\\uD800\":null\x7d".toList] _ (List.forall_mem_singleton.mpr hobject)
      (@Listed.first [] _ _ _ (by decide) (@Listed.none _ [' '] (by decide)))
  have hnumber : IsValue "-0.5e+3".toList :=
    .number ⟨['-'], by decide, ['0'], ['.', '5'], ['e', '+', '3'], .inl rfl, .inr ⟨['5'], by decide, rfl⟩,
      .inr ⟨'e', by decide, ['+'], by decide, ['3'], by decide, rfl⟩, rfl⟩
  have hhelper : Field.registerHelper.IsSpelled options (quote "é\"".toList) := rfl
  let list : Member :=
    { name := quote "x".toList, value := "[\x7b\"\\uD800\":null\x7d ]".toList, beforeColon := [' '],
      behindColon := [' '] }
  let helper : Member := { name := quote "registerHelper".toList, value := quote "é\"".toList }
  let number : Member := { name := quote "x".toList, value := "-0.5e+3".toList }
  have hmembers : ∀ member ∈ [(none, list), (some Field.registerHelper, helper), (none, number)],
      IsMember options member.1 member.2 :=
    List.forall_mem_cons.mpr ⟨.other rfl (by decide) hlist, List.forall_mem_cons.mpr
      ⟨.field rfl hhelper, List.forall_mem_singleton.mpr (.other rfl (by decide) hnumber)⟩⟩
  have hlisted : Listed true [list.text, helper.text, number.text]
      (list.text ++ ',' :: (helper.text ++ (' ' :: ',' :: (number.text ++ ['\t'])))) :=
    @Listed.first [] _ _ _ (by decide) (@Listed.more [] [] _ _ _ (by decide) (by decide)
      (@Listed.more [' '] [] _ _ _ (by decide) (by decide) (@Listed.none _ ['\t'] (by decide))))
  have htext : json.toList = ['\n'] ++ '\x7b' :: (list.text ++ ',' :: (helper.text ++
      (' ' :: ',' :: (number.text ++ ['\t']))) ++ ['\x7d']) := by decide
  have hwritten : IsWritten options json.toList := by
    rw [htext]
    exact .object hmembers (by decide) (by decide) hlisted (by decide) (by decide)
  exact ⟨hwritten, (ofJson_written options).1 json hwritten,
    (ofJson_written options).2 [.registerHelper] (by decide) (by decide)⟩

end MarkupModule.Options
