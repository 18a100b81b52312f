import MarkupModule.Json.Pretty
import MarkupModule.Proofs.Options.Spelling
import Mathlib.Data.Rat.Defs

/-! A reader of JSON, for all values that there are, and what it makes of a text that is written over several
lines: the value that the text was written for. It is put together from the readers of the options' texts,
which look past white space and commas in the same way for values of every kind. -/

namespace MarkupModule.Json

open MarkupModule.Text

/-- A value that is read. A number is the one that its digits denote. -/
inductive Tree where
  | null
  | bool (b : Bool)
  | number (x : Rat)
  | string (s : String)
  | array (items : List Tree)
  | object (members : List (String × Tree))
  deriving Inhabited

/-! ### Reading -/

/-- The number that an exponent denotes, which may be missing. -/
def exponentValue : List Char → Int
  | [] => 0
  | _ :: '-' :: digits => -(Nat.ofDigitChars 10 digits 0)
  | _ :: '+' :: digits => Nat.ofDigitChars 10 digits 0
  | _ :: digits => Nat.ofDigitChars 10 digits 0

/-- The number that a text without a sign denotes. -/
def magnitude (s : List Char) : Rat :=
  let behind := s.dropWhile Char.isDigit
  let fraction := if behind.head? = some '.' then behind.tail.takeWhile Char.isDigit else []
  let exponent := if behind.head? = some '.' then behind.tail.dropWhile Char.isDigit else behind
  (Nat.ofDigitChars 10 (s.takeWhile Char.isDigit ++ fraction) 0 : Rat) *
    10 ^ (exponentValue exponent - fraction.length)

/-- A number, read from behind its sign. -/
def readNumber (isNegative : Bool) (cursor : Cursor) : Except Problem (Tree × Cursor) := do
  let behind ← skipNumber cursor
  let x := magnitude (cursor.rest.take (cursor.rest.length - behind.rest.length))
  .ok (.number (if isNegative then -x else x), behind)

mutual

/-- A value, with a bound on the number of values in it and around it. -/
def treeWithin : Nat → Cursor → Except Problem (Tree × Cursor)
  | 0, cursor => cursor.fail .endInValue
  | n + 1, cursor =>
    let start := cursor.skipSpace
    match start.peek? with
    | none => start.fail .endInValue
    | some c =>
      if c = 'n' then (word "ull".toList start.advance).map fun next => (.null, next)
      else if c = 't' then (word "rue".toList start.advance).map fun next => (.bool true, next)
      else if c = 'f' then (word "alse".toList start.advance).map fun next => (.bool false, next)
      else if c = '-' then readNumber true start.advance
      else if c.isDigit then readNumber false start
      else if c = '"' then (literal start.advance).map fun (s, next) => (.string s, next)
      else if c = '[' then
        (itemsWithin n true start.advance).map fun (items, next) => (.array items, next)
      else if c = '\x7b' then
        (membersWithin n true start.advance).map fun (members, next) => (.object members, next)
      else start.failAtNext .expectedValue

/-- The items of a list that is open, and the cursor behind its end. -/
def itemsWithin : Nat → Bool → Cursor → Except Problem (List Tree × Cursor)
  | 0, _, cursor => cursor.fail .endInList
  | n + 1, isFirst, cursor => do
    match ← Options.nextItem isFirst cursor with
    | none => .ok ([], cursor.skipSpace.advance)
    | some start =>
      let (item, behind) ← treeWithin n start
      let (items, last) ← itemsWithin n false behind
      .ok (item :: items, last)

/-- The members of an object that is open, and the cursor behind its end. -/
def membersWithin : Nat → Bool → Cursor → Except Problem (List (String × Tree) × Cursor)
  | 0, _, cursor => cursor.fail .endInObject
  | n + 1, isFirst, cursor => do
    match ← Options.nextMember isFirst cursor with
    | none => .ok ([], cursor.skipSpace.advance)
    | some start =>
      let (name, behind) ← literal start.advance
      let (value, next) ← treeWithin n (← Options.colon behind)
      let (members, last) ← membersWithin n false next
      .ok ((name, value) :: members, last)

end

/-- The value in a text, behind which nothing else may stand. -/
def Tree.ofJson (json : String) : Except Problem Tree := do
  let (tree, next) ← treeWithin (json.length + 1) (.ofString json)
  let last := next.skipSpace
  if last.rest.isEmpty then .ok tree else last.failAtNext .trailingCharacters

example : (Tree.ofJson " [\x7b\"a\" :1.5e1 , \"\\u0041\": [ true,null]\x7d,-0]").toOption =
    some (.array [.object [("a", .number 15), ("A", .array [.bool true, .null])], .number 0]) := by
  cbv

/-! ### Values that are written -/

/-- What holds of a value when it holds of its parts holds of every value. -/
@[elab_as_elim]
theorem Value.induct {motive : Value → Prop} (string : ∀ s, motive (.string s))
    (number : ∀ n, motive (.number n)) (array : ∀ items, (∀ item ∈ items, motive item) → motive (.array items))
    (object : ∀ members, (∀ member ∈ members, motive member.2) → motive (.object members)) :
    ∀ value, motive value
  | .string s => string s
  | .number n => number n
  | .array items => array items fun item _ => item.induct string number array object
  | .object members => object members fun member _ => member.2.induct string number array object
termination_by value => sizeOf value
decreasing_by
  · have := List.sizeOf_lt_of_mem ‹item ∈ items›
    simp only [Value.array.sizeOf_spec]
    omega
  · have := List.sizeOf_lt_of_mem ‹member ∈ members›
    obtain ⟨name, value⟩ := member
    simp only [Value.object.sizeOf_spec, Prod.mk.sizeOf_spec] at *
    omega

mutual

/-- The value as it is read. -/
def Value.tree : Value → Tree
  | .string s => .string s
  | .number n => .number n
  | .array items => .array (trees items)
  | .object members => .object (memberTrees members)

def Value.trees : List Value → List Tree
  | [] => []
  | item :: items => item.tree :: trees items

def Value.memberTrees : List (String × Value) → List (String × Tree)
  | [] => []
  | (name, value) :: members => (name, value.tree) :: memberTrees members

end

theorem Value.trees_eq (items : List Value) : trees items = items.map tree := by
  induction items with
  | nil => rfl
  | cons item items ih => rw [trees, ih, List.map_cons]

theorem Value.memberTrees_eq (members : List (String × Value)) :
    memberTrees members = members.map fun member => (member.1, member.2.tree) := by
  induction members with
  | nil => rfl
  | cons member members ih => rw [memberTrees, ih, List.map_cons]

/-! ### What is written is a value of the grammar -/

namespace Value

theorem isBlank_newLine (depth : Nat) : IsBlank (newLine depth) := by
  intro c hc
  rcases List.mem_cons.mp hc with rfl | hmem
  · rfl
  · rw [List.eq_of_mem_replicate hmem]
    rfl

theorem listed_writeItems (depth : Nat) (items : List Value) {blank : List Char} (hblank : IsBlank blank) :
    Listed false (items.map (write depth)) (writeItems depth items ++ blank) := by
  induction items with
  | nil => exact .none hblank
  | cons item items ih =>
      rw [writeItems, List.append_assoc, List.append_assoc, List.cons_append]
      exact .more isBlank_nil (isBlank_newLine depth) ih

/-- The items of a list, as they stand between its brackets. -/
theorem exists_listed_array (depth : Nat) (items : List Value) :
    ∃ s, Listed true (items.map (write (depth + 1))) s ∧ write depth (.array items) = '[' :: (s ++ [']']) := by
  cases items with
  | nil => exact ⟨[], .none isBlank_nil, rfl⟩
  | cons item items =>
      refine ⟨_, .first (isBlank_newLine (depth + 1)) (listed_writeItems _ items (isBlank_newLine depth)), ?_⟩
      rw [write]
      simp only [List.append_assoc, List.cons_append]

theorem isBlank_space : IsBlank [' '] := by
  decide

/-- A member as it is written. -/
def written (depth : Nat) (member : String × Value) : Member :=
  { name := quote member.1.toList
    value := member.2.write depth
    behindColon := [' ']
    isBlank_beforeColon := isBlank_nil
    isBlank_behindColon := isBlank_space }

theorem listed_writeMembers (depth : Nat) (members : List (String × Value)) {blank : List Char}
    (hblank : IsBlank blank) :
    Listed false ((members.map (written depth)).map Member.text) (writeMembers depth members ++ blank) := by
  induction members with
  | nil => exact .none hblank
  | cons member members ih =>
      have htext : writeMembers depth (member :: members) ++ blank =
          ',' :: (newLine depth ++ ((written depth member).text ++ (writeMembers depth members ++ blank))) := by
        rw [writeMembers, Member.text, written]
        simp only [List.append_assoc, List.cons_append, List.nil_append]
      rw [htext]
      exact .more isBlank_nil (isBlank_newLine depth) ih

/-- The members of an object, as they stand between its braces. -/
theorem exists_listed_object (depth : Nat) (members : List (String × Value)) :
    ∃ s, Listed true ((members.map (written (depth + 1))).map Member.text) s ∧
      write depth (.object members) = '\x7b' :: (s ++ ['\x7d']) := by
  cases members with
  | nil => exact ⟨[], .none isBlank_nil, rfl⟩
  | cons member members =>
      refine ⟨_, .first (isBlank_newLine (depth + 1)) (listed_writeMembers _ members (isBlank_newLine depth)), ?_⟩
      rw [write, Member.text, written]
      simp only [List.append_assoc, List.cons_append, List.nil_append]

end Value

theorem isLiteralBody_quoteChar (c : Char) {body : List Char} (hbody : IsLiteralBody body) :
    IsLiteralBody (quoteChar c ++ body) := by
  rw [quoteChar]
  split_ifs with hquote hslash hbackspace htab hfeed hform hreturn hcontrol
  · exact .letter (by decide) hbody
  · exact .letter (by decide) hbody
  · exact .letter (by decide) hbody
  · exact .letter (by decide) hbody
  · exact .letter (by decide) hbody
  · exact .letter (by decide) hbody
  · exact .letter (by decide) hbody
  · refine .digits ?_ hbody
    have hdigits := (digits_of_control c.toNat hcontrol).1
    rw [Bool.and_eq_true] at hdigits
    rw [List.all_cons, List.all_cons, List.all_cons, List.all_cons, List.all_nil, hdigits.1, hdigits.2]
    rfl
  · exact .plain hquote hslash (Nat.le_of_not_lt hcontrol) hbody

theorem isLiteral_quote (s : List Char) : IsLiteral (quote s) := by
  refine ⟨s.flatMap quoteChar, ?_, rfl⟩
  induction s with
  | nil => exact .nil
  | cons c cs ih => exact isLiteralBody_quoteChar c ih

theorem isDigits_toDigits (n : Nat) : IsDigits (Nat.toDigits 10 n) :=
  ⟨Nat.toDigits_ne_nil, fun _ hc => Nat.isDigit_of_mem_toDigits (by decide) (by decide) hc⟩

/-- Only zero itself is written with a zero in front. -/
theorem head?_toDigits_ne {n : Nat} (hn : n ≠ 0) : (Nat.toDigits 10 n).head? ≠ some '0' := by
  induction n using Nat.strongRecOn with
  | ind n ih =>
      by_cases hlt : n < 10
      · have hdigit : ∀ d < 10, d ≠ 0 → d.digitChar ≠ '0' := by decide
        rw [Nat.toDigits_of_lt_base hlt]
        exact fun heq => hdigit n hlt hn (Option.some.inj heq)
      · rw [Nat.toDigits_of_base_le (by decide) (by omega), List.head?_append_of_ne_nil _ Nat.toDigits_ne_nil]
        exact ih (n / 10) (by omega) (by omega)

theorem isInteger_toDigits (n : Nat) : IsInteger (Nat.toDigits 10 n) := by
  by_cases hn : n = 0
  · left
    rw [hn]
    rfl
  · exact .inr ⟨isDigits_toDigits n, head?_toDigits_ne hn⟩

theorem isNumber_toDigits (n : Nat) : IsNumber (Nat.toDigits 10 n) :=
  ⟨[], by decide, Nat.toDigits 10 n, [], [], isInteger_toDigits n, .inl rfl, .inl rfl, by simp⟩

theorem Value.isValue_write (value : Value) (depth : Nat) : IsValue (value.write depth) := by
  induction value using Value.induct generalizing depth with
  | string s =>
      rw [write]
      exact .literal (isLiteral_quote _)
  | number n =>
      rw [write]
      exact .number (isNumber_toDigits n)
  | array items ih =>
      obtain ⟨s, hlisted, heq⟩ := exists_listed_array depth items
      rw [heq]
      refine .list (fun text htext => ?_) hlisted
      obtain ⟨item, hitem, rfl⟩ := List.mem_map.mp htext
      exact ih item hitem (depth + 1)
  | object members ih =>
      obtain ⟨s, hlisted, heq⟩ := exists_listed_object depth members
      rw [heq]
      refine .object (fun member hmember => ?_) (fun member hmember => ?_) hlisted
      · obtain ⟨source, -, rfl⟩ := List.mem_map.mp hmember
        exact isLiteral_quote _
      · obtain ⟨source, hsource, rfl⟩ := List.mem_map.mp hmember
        exact ih source hsource (depth + 1)

/-! ### What is written is read back -/

open Options (Reads)

theorem length_rest_skipSpace_le (cursor : Cursor) : cursor.skipSpace.rest.length ≤ cursor.rest.length := by
  rw [Cursor.skipSpace, rest_go_skipSpace]
  exact (List.dropWhile_suffix _).length_le

theorem length_rest_advance_le (cursor : Cursor) : cursor.advance.rest.length ≤ cursor.rest.length := by
  rw [Cursor.advance]
  split
  · rename_i hrest
    rw [hrest]
  · rename_i c rest hrest
    rw [rest_skip, hrest, List.length_cons]
    exact Nat.le_succ _

theorem length_rest_nextItem_le {isFirst : Bool} {cursor next : Cursor}
    (h : Options.nextItem isFirst cursor = .ok (some next)) : next.rest.length ≤ cursor.rest.length := by
  have hstart := length_rest_skipSpace_le cursor
  have hbehind := length_rest_advance_le cursor.skipSpace
  have hnext := length_rest_skipSpace_le cursor.skipSpace.advance
  rw [Options.nextItem] at h
  grind [Cursor.fail, Cursor.failAtNext]

theorem length_rest_nextMember_le {isFirst : Bool} {cursor next : Cursor}
    (h : Options.nextMember isFirst cursor = .ok (some next)) : next.rest.length ≤ cursor.rest.length := by
  have hstart := length_rest_skipSpace_le cursor
  have hbehind := length_rest_advance_le cursor.skipSpace
  have hnext := length_rest_skipSpace_le cursor.skipSpace.advance
  rw [Options.nextMember] at h
  grind [Cursor.fail, Cursor.failAtNext]

variable {blank rest : List Char}

theorem magnitude_toDigits (n : Nat) : magnitude (Nat.toDigits 10 n) = n := by
  have hdigits := (isDigits_toDigits n).2
  have htake : (Nat.toDigits 10 n).takeWhile Char.isDigit = Nat.toDigits 10 n :=
    List.takeWhile_eq_self_iff.mpr hdigits
  have hdrop : (Nat.toDigits 10 n).dropWhile Char.isDigit = [] :=
    List.dropWhile_eq_nil_iff.mpr hdigits
  rw [magnitude, htake, hdrop]
  simp [exponentValue]

theorem reads_readNumber (n : Nat) (hrest : EndsNumber rest) :
    Reads (readNumber false) (.number n) (Nat.toDigits 10 n ++ rest) rest := by
  intro cursor h
  obtain ⟨next, hnext, hskip⟩ := passes_skipNumber (isInteger_toDigits n) (.inl rfl) (.inl rfl) hrest cursor h
  refine ⟨next, hnext, ?_⟩
  have htext : cursor.rest.take (cursor.rest.length - next.rest.length) = Nat.toDigits 10 n := by
    rw [h, hnext, List.length_append, Nat.add_sub_cancel, List.take_left]
  rw [readNumber, hskip]
  change Except.ok (Tree.number (magnitude _), next) = _
  rw [htext, magnitude_toDigits]

/-- A written value is read back, with white space in front and with anything behind it that is no part of
a number. -/
def Value.IsReadBack (value : Value) : Prop :=
  ∀ (depth n : Nat) {blank rest : List Char}, (value.write depth).length < n → IsBlank blank →
    EndsNumber rest → Reads (treeWithin n) value.tree (blank ++ (value.write depth ++ rest)) rest

theorem itemsWithin_listed {items : List Value} (hitems : ∀ item ∈ items, item.IsReadBack) {depth : Nat}
    {isFirst : Bool} {s : List Char} (hlisted : Listed isFirst (items.map (Value.write depth)) s) {n : Nat}
    (hn : s.length + 1 < n) {cursor : Cursor} (h : cursor.rest = s ++ ']' :: rest) :
    ∃ next : Cursor, next.rest = rest ∧
      itemsWithin n isFirst cursor = .ok (items.map Value.tree, next) := by
  induction items generalizing isFirst s n cursor with
  | nil =>
      obtain ⟨m, rfl⟩ := Nat.exists_eq_add_of_lt hn
      rw [itemsWithin, Options.nextItem_nil hlisted h]
      cases hlisted with
      | none hblank => exact ⟨_, rest_advance (rest_skipSpace hblank (by decide) h), rfl⟩
  | cons item items ih =>
      obtain ⟨m, rfl⟩ := Nat.exists_eq_add_of_lt hn
      obtain ⟨tail, start, hmore, hstart, hitem⟩ :=
        Options.nextItem_cons hlisted (item.isValue_write depth).exists_cons h
      -- The text of the item and what follows it fit into the bound that is left.
      have hlength := length_rest_nextItem_le hitem
      obtain ⟨c, cs, hcons, -⟩ := (item.isValue_write depth).exists_cons
      have hpos : 0 < (item.write depth).length := by
        rw [hcons]
        exact Nat.succ_pos _
      rw [h, hstart] at hlength
      simp only [List.length_append, List.length_cons] at hlength
      obtain ⟨behind, hbehind, hread⟩ := hitems item List.mem_cons_self depth (s.length + 1 + m) (by omega)
        isBlank_nil (hmore.endsNumber false rest) start hstart
      obtain ⟨next, hnext, hrest⟩ := ih (fun other hmem => hitems other (List.mem_cons_of_mem _ hmem)) hmore
        (n := s.length + 1 + m) (by omega) hbehind
      refine ⟨next, hnext, ?_⟩
      rw [itemsWithin, hitem]
      change (treeWithin _ start >>= _) = _
      rw [hread]
      change (itemsWithin _ false behind >>= _) = _
      rw [hrest]
      rfl

theorem membersWithin_listed {members : List (String × Value)}
    (hmembers : ∀ member ∈ members, member.2.IsReadBack) {depth : Nat} {isFirst : Bool} {s : List Char}
    (hlisted : Listed isFirst ((members.map (Value.written depth)).map Member.text) s) {n : Nat}
    (hn : s.length + 1 < n) {cursor : Cursor} (h : cursor.rest = s ++ '\x7d' :: rest) :
    ∃ next : Cursor, next.rest = rest ∧
      membersWithin n isFirst cursor =
        .ok (members.map fun member => (member.1, member.2.tree), next) := by
  induction members generalizing isFirst s n cursor with
  | nil =>
      obtain ⟨m, rfl⟩ := Nat.exists_eq_add_of_lt hn
      rw [membersWithin, Options.nextMember_nil hlisted h]
      cases hlisted with
      | none hblank => exact ⟨_, rest_advance (rest_skipSpace hblank (by decide) h), rfl⟩
  | cons member members ih =>
      obtain ⟨m, rfl⟩ := Nat.exists_eq_add_of_lt hn
      have htext : (Value.written depth member).text =
          '"' :: ((member.1.toList.flatMap quoteChar ++ ['"']) ++ (':' :: ' ' :: member.2.write depth)) := by
        rw [Member.text, Value.written, quote]
        simp only [List.append_assoc, List.cons_append, List.nil_append]
      rw [List.map_cons, List.map_cons, htext] at hlisted
      obtain ⟨tail, start, hmore, hstart, hmember⟩ := Options.nextMember_cons hlisted h
      have hlength := length_rest_nextMember_le hmember
      rw [h, hstart] at hlength
      simp only [List.length_append, List.length_cons] at hlength
      rw [← List.cons_append, ← htext] at hstart
      obtain ⟨behind, value, hvalue, hname, hcolon⟩ := Options.read_name rfl hstart
      obtain ⟨middle, hmiddle, hread⟩ := hmembers member List.mem_cons_self depth (s.length + 1 + m) (by omega)
        (Value.written depth member).isBlank_behindColon (hmore.endsNumber true rest) value hvalue
      obtain ⟨next, hnext, hrest⟩ := ih (fun other hmem => hmembers other (List.mem_cons_of_mem _ hmem)) hmore
        (n := s.length + 1 + m) (by omega) hmiddle
      refine ⟨next, hnext, ?_⟩
      rw [membersWithin, hmember]
      change (literal start.advance >>= _) = _
      rw [hname]
      change (Options.colon behind >>= _) = _
      rw [hcolon]
      change (treeWithin _ value >>= _) = _
      rw [hread]
      change (membersWithin _ false middle >>= _) = _
      rw [hrest]
      rfl

theorem Value.isReadBack (value : Value) : value.IsReadBack := by
  induction value using Value.induct with
  | string s =>
      intro depth n blank rest hn hblank _ cursor h
      obtain ⟨m, rfl⟩ := Nat.exists_eq_add_of_lt hn
      rw [write, Options.quote_append] at h
      have hstart := rest_skipSpace hblank (by decide) h
      obtain ⟨next, hnext, hread⟩ := Options.reads_literal s.toList rest _ (rest_advance hstart)
      rw [String.ofList_toList] at hread
      refine ⟨next, hnext, ?_⟩
      rw [treeWithin, peek?_of_rest hstart]
      change (literal cursor.skipSpace.advance).map _ = _
      rw [hread]
      rfl
  | number x =>
      intro depth n blank rest hn hblank hrest cursor h
      obtain ⟨m, rfl⟩ := Nat.exists_eq_add_of_lt hn
      obtain ⟨c, cs, hcons, hspace, -⟩ := ((Value.number x).isValue_write depth).exists_cons
      have hdigits : Nat.toDigits 10 x = c :: cs := hcons
      have hc : c.isDigit = true := (isDigits_toDigits x).2 c (hdigits ▸ List.mem_cons_self)
      have hother := not_mem_of_isDigit hc
      simp only [List.mem_cons, not_or] at hother
      obtain ⟨hn, ht, hf, hminus, -⟩ := hother
      rw [hcons, List.cons_append] at h
      have hstart := rest_skipSpace hblank hspace h
      obtain ⟨next, hnext, hread⟩ := reads_readNumber x hrest cursor.skipSpace (by rw [hstart, hdigits]; rfl)
      refine ⟨next, hnext, ?_⟩
      rw [treeWithin, peek?_of_rest hstart]
      dsimp only
      rw [if_neg hn, if_neg ht, if_neg hf, if_neg hminus, if_pos hc, hread, tree]
  | array items ih =>
      intro depth n blank rest hn hblank _ cursor h
      obtain ⟨m, rfl⟩ := Nat.exists_eq_add_of_lt hn
      obtain ⟨s, hlisted, heq⟩ := exists_listed_array depth items
      have hlength : (write depth (.array items)).length = s.length + 2 := by
        rw [heq, List.length_cons, List.length_append, List.length_singleton]
      rw [heq, List.cons_append, List.append_assoc] at h
      have hstart := rest_skipSpace hblank (by decide) h
      obtain ⟨next, hnext, hread⟩ := itemsWithin_listed ih hlisted
        (n := (write depth (.array items)).length + m) (by omega) (rest_advance hstart)
      refine ⟨next, hnext, ?_⟩
      rw [treeWithin, peek?_of_rest hstart]
      change (itemsWithin _ true cursor.skipSpace.advance).map _ = _
      rw [hread, tree, trees_eq]
      rfl
  | object members ih =>
      intro depth n blank rest hn hblank _ cursor h
      obtain ⟨m, rfl⟩ := Nat.exists_eq_add_of_lt hn
      obtain ⟨s, hlisted, heq⟩ := exists_listed_object depth members
      have hlength : (write depth (.object members)).length = s.length + 2 := by
        rw [heq, List.length_cons, List.length_append, List.length_singleton]
      rw [heq, List.cons_append, List.append_assoc] at h
      have hstart := rest_skipSpace hblank (by decide) h
      obtain ⟨next, hnext, hread⟩ := membersWithin_listed ih hlisted
        (n := (write depth (.object members)).length + m) (by omega) (rest_advance hstart)
      refine ⟨next, hnext, ?_⟩
      rw [treeWithin, peek?_of_rest hstart]
      change (membersWithin _ true cursor.skipSpace.advance).map _ = _
      rw [hread, tree, memberTrees_eq]
      rfl

/-- What is written of a value is read as this value. -/
theorem Tree.ofJson_pretty (value : Value) : Tree.ofJson value.pretty = .ok value.tree := by
  have hlist : value.pretty.toList = value.write 0 := String.toList_ofList
  have hlength : (value.write 0).length < value.pretty.length + 1 := by
    rw [← hlist, String.length_toList]
    exact Nat.lt_succ_self _
  obtain ⟨next, hnext, hread⟩ := value.isReadBack 0 _ hlength isBlank_nil
    (show EndsNumber [] from fun _ hc => nomatch hc) (.ofString value.pretty)
    (by rw [Cursor.ofString, hlist, List.append_nil, List.nil_append])
  have hend : next.skipSpace.rest = [] := by
    rw [Cursor.skipSpace, rest_go_skipSpace, hnext, List.dropWhile_nil]
  rw [ofJson, hread]
  change (if next.skipSpace.rest.isEmpty = true then Except.ok value.tree else _) = _
  rw [hend]
  rfl

end MarkupModule.Json
