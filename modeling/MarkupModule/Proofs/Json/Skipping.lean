import MarkupModule.Json.Skip
import MarkupModule.Proofs.Json.Grammar
import MarkupModule.Proofs.Json.Literal

/-! A value that is skipped is passed as a whole, however deep it is nested and whatever white space stands
in it: the cursor then stands in front of the text that follows. Each lemma is about a stretch of text with
anything behind it, at any line and column. The lists and objects that are open are passed in steps, and a
value takes no more than two steps a character, which is what the skipping is given. -/

namespace MarkupModule.Json

open MarkupModule.Text

/-! ### The cursor -/

theorem rest_advance {cursor : Cursor} {c : Char} {rest : List Char} (h : cursor.rest = c :: rest) :
    cursor.advance.rest = rest := by
  rw [Cursor.advance, h]
  exact rest_skip cursor c rest

theorem peek?_of_rest {cursor : Cursor} {c : Char} {rest : List Char} (h : cursor.rest = c :: rest) :
    cursor.peek? = some c := by
  rw [Cursor.peek?, h]
  rfl

theorem rest_go_skipSpace (line column : Nat) (s : List Char) :
    (Cursor.skipSpace.go line column s).rest = s.dropWhile Cursor.isSpace := by
  induction s generalizing line column with
  | nil => rfl
  | cons c cs ih =>
      rw [Cursor.skipSpace.go, List.dropWhile_cons]
      split_ifs
      · exact ih _ _
      · exact ih _ _
      · rfl

/-- White space in front of a token is passed. -/
theorem rest_skipSpace {cursor : Cursor} {blank rest : List Char} {c : Char} (hblank : IsBlank blank)
    (hc : Cursor.isSpace c = false) (h : cursor.rest = blank ++ c :: rest) :
    cursor.skipSpace.rest = c :: rest := by
  rw [Cursor.skipSpace, rest_go_skipSpace, h, List.dropWhile_append_of_pos hblank,
    List.dropWhile_cons_of_neg (by rw [hc]; exact Bool.false_ne_true)]

/-- A reader gets from a text to what is left of it behind a stretch, at any line and column. -/
def Passes (read : Cursor → Except Problem Cursor) (s rest : List Char) : Prop :=
  ∀ cursor : Cursor, cursor.rest = s → ∃ next : Cursor, next.rest = rest ∧ read cursor = .ok next

theorem passes_word (expected rest : List Char) : Passes (word expected) (expected ++ rest) rest := by
  intro cursor hrest
  induction expected generalizing cursor with
  | nil => exact ⟨cursor, hrest, rfl⟩
  | cons c cs ih =>
      obtain ⟨next, hnext, hread⟩ := ih cursor.advance (rest_advance hrest)
      refine ⟨next, hnext, ?_⟩
      rw [word, hrest]
      dsimp only [List.cons_append]
      rw [if_pos rfl, hread]

/-! ### Literals -/

theorem skipEscape_letter {c : Char} (hletter : c ∈ ['"', '\\', '/', 'b', 'f', 'n', 'r', 't'])
    (rest : List Char) : Passes skipEscape (c :: rest) rest := by
  intro cursor hrest
  refine ⟨cursor.skip c rest, rest_skip _ _ _, ?_⟩
  simp only [List.mem_cons, List.not_mem_nil, or_false] at hletter
  rw [skipEscape, hrest]
  rcases hletter with rfl | rfl | rfl | rfl | rfl | rfl | rfl | rfl <;> rfl

theorem skipEscape_digits {a b c d : Char} (hdigits : [a, b, c, d].all isHexDigit = true)
    (rest : List Char) : Passes skipEscape ('u' :: a :: b :: c :: d :: rest) rest := by
  intro cursor hrest
  simp only [List.all_cons, Bool.and_eq_true] at hdigits
  obtain ⟨ha, hb, hc, hd, -⟩ := hdigits
  have hnext : (cursor.skip 'u' (a :: b :: c :: d :: rest)).rest = a :: b :: c :: d :: rest := rest_skip _ _ _
  refine ⟨⟨rest, cursor.line, cursor.column + 1 + 4⟩, rfl, ?_⟩
  rw [skipEscape, hrest]
  change (fourDigits (cursor.skip 'u' (a :: b :: c :: d :: rest))).map _ = _
  rw [fourDigits, hnext]
  dsimp only
  rw [ha, hb, hc, hd]
  rfl

theorem skipLiteralWithin_plain {c : Char} (hquote : c ≠ '"') (hslash : c ≠ '\\') (hcontrol : 0x20 ≤ c.toNat)
    (n : Nat) {cursor : Cursor} {rest : List Char} (hrest : cursor.rest = c :: rest) :
    skipLiteralWithin (n + 1) cursor = skipLiteralWithin n (cursor.skip c rest) := by
  rw [skipLiteralWithin, hrest]
  split
  · rename_i heq
    cases heq
  · rename_i heq
    exact absurd (List.cons.inj heq).1 hquote
  · rename_i heq
    exact absurd (List.cons.inj heq).1 hslash
  · rename_i d ds _ _ heq
    obtain ⟨rfl, rfl⟩ := List.cons.inj heq
    rw [if_neg (Nat.not_lt.mpr hcontrol)]

theorem skipLiteralWithin_escape {escape rest : List Char} (hescape : Passes skipEscape escape rest) (n : Nat)
    {cursor : Cursor} (hrest : cursor.rest = '\\' :: escape) :
    ∃ next : Cursor, next.rest = rest ∧ skipLiteralWithin (n + 1) cursor = skipLiteralWithin n next := by
  obtain ⟨next, hnext, hread⟩ := hescape (cursor.skip '\\' escape) (rest_skip _ _ _)
  refine ⟨next, hnext, ?_⟩
  rw [skipLiteralWithin, hrest]
  change (skipEscape (cursor.skip '\\' escape) >>= _) = _
  rw [hread]
  rfl

theorem skipLiteralWithin_body {body : List Char} (hbody : IsLiteralBody body) {n : Nat}
    (hn : body.length < n) (rest : List Char) : Passes (skipLiteralWithin n) (body ++ '"' :: rest) rest := by
  induction hbody generalizing n with
  | nil =>
      intro cursor hrest
      obtain ⟨m, rfl⟩ := Nat.exists_eq_add_of_lt hn
      refine ⟨cursor.skip '"' rest, rest_skip _ _ _, ?_⟩
      rw [skipLiteralWithin, hrest]
      rfl
  | plain hquote hslash hcontrol _ ih =>
      intro cursor hrest
      obtain ⟨m, rfl⟩ := Nat.exists_eq_add_of_lt hn
      rw [skipLiteralWithin_plain hquote hslash hcontrol _ hrest]
      exact ih (by simp only [List.length_cons]; omega) _ (rest_skip _ _ _)
  | letter hletter _ ih =>
      intro cursor hrest
      obtain ⟨m, rfl⟩ := Nat.exists_eq_add_of_lt hn
      obtain ⟨next, hnext, hread⟩ := skipLiteralWithin_escape (skipEscape_letter hletter _) _ hrest
      rw [hread]
      exact ih (by simp only [List.length_cons]; omega) _ hnext
  | digits hdigits _ ih =>
      intro cursor hrest
      obtain ⟨m, rfl⟩ := Nat.exists_eq_add_of_lt hn
      obtain ⟨next, hnext, hread⟩ := skipLiteralWithin_escape (skipEscape_digits hdigits _) _ hrest
      rw [hread]
      exact ih (by simp only [List.length_cons]; omega) _ hnext

/-- A literal is passed from behind its opening quote. -/
theorem skipLiteral_body {body : List Char} (hbody : IsLiteralBody body) (rest : List Char) :
    Passes skipLiteral (body ++ '"' :: rest) rest := by
  intro cursor hrest
  refine skipLiteralWithin_body hbody ?_ rest cursor hrest
  rw [hrest, List.length_append]
  omega

/-! ### Numbers -/

/-- What follows a number is no part of it. -/
def EndsNumber (rest : List Char) : Prop :=
  ∀ c ∈ rest.head?, c.isDigit = false ∧ c ∉ ['.', 'e', 'E']

theorem endsNumber_append {blank rest : List Char} (hblank : IsBlank blank) (hrest : EndsNumber rest) :
    EndsNumber (blank ++ rest) := by
  cases blank with
  | nil => exact hrest
  | cons c cs =>
      have hc := hblank c List.mem_cons_self
      rintro d hd
      obtain rfl := Option.some.inj hd
      rw [Cursor.isSpace] at hc
      simp only [Bool.or_eq_true, beq_iff_eq] at hc
      rcases hc with ((rfl | rfl) | rfl) | rfl <;> decide

theorem rest_skipDigits {cursor : Cursor} {digits rest : List Char} (hdigits : ∀ c ∈ digits, c.isDigit = true)
    (hrest : ∀ c ∈ rest.head?, c.isDigit = false) (h : cursor.rest = digits ++ rest) :
    (skipDigits cursor).1 = digits.length ∧ (skipDigits cursor).2.rest = rest := by
  have htake : rest.takeWhile Char.isDigit = [] := by
    cases rest with
    | nil => rfl
    | cons c cs => exact List.takeWhile_cons_of_neg (by rw [hrest c rfl]; exact Bool.false_ne_true)
  have hdrop : rest.dropWhile Char.isDigit = rest := by
    cases rest with
    | nil => rfl
    | cons c cs => exact List.dropWhile_cons_of_neg (by rw [hrest c rfl]; exact Bool.false_ne_true)
  rw [skipDigits, h]
  dsimp only
  rw [List.takeWhile_append_of_pos hdigits, List.dropWhile_append_of_pos hdigits, htake, hdrop,
    List.append_nil]
  exact ⟨rfl, rfl⟩

theorem IsDigits.exists_cons {s : List Char} (h : IsDigits s) : ∃ c cs, s = c :: cs ∧ c.isDigit = true := by
  obtain ⟨hne, hdigits⟩ := h
  cases s with
  | nil => exact absurd rfl hne
  | cons c cs => exact ⟨c, cs, rfl, hdigits c List.mem_cons_self⟩

theorem passes_skipDigits {digits rest : List Char} (hdigits : IsDigits digits) (hrest : EndsNumber rest) :
    Passes (fun cursor => if cursor.peek?.any Char.isDigit then .ok (skipDigits cursor).2
      else cursor.failAtNext .invalidNumber) (digits ++ rest) rest := by
  intro cursor h
  obtain ⟨c, cs, rfl, hc⟩ := hdigits.exists_cons
  refine ⟨_, (rest_skipDigits hdigits.2 (fun d hd => (hrest d hd).1) h).2, ?_⟩
  dsimp only
  rw [peek?_of_rest h]
  exact if_pos hc

/-- What is read of an exponent behind its letter, once the sign is passed. -/
theorem passes_skipExponent {letter : Char} {sign digits rest : List Char} (hsign : sign ∈ [[], ['+'], ['-']])
    (hdigits : IsDigits digits) (hrest : EndsNumber rest) :
    Passes skipExponent (letter :: (sign ++ (digits ++ rest))) rest := by
  intro cursor h
  have hbehind := rest_advance h
  have hpass := passes_skipDigits hdigits hrest
  rw [skipExponent]
  simp only [List.mem_cons, List.not_mem_nil, or_false] at hsign
  rcases hsign with rfl | rfl | rfl
  · obtain ⟨c, cs, rfl, hc⟩ := hdigits.exists_cons
    have hpeek := peek?_of_rest hbehind
    split
    · rename_i heq
      rw [hpeek] at heq
      obtain rfl := Option.some.inj heq
      cases hc
    · rename_i heq
      rw [hpeek] at heq
      obtain rfl := Option.some.inj heq
      cases hc
    · exact hpass _ hbehind
  · rw [peek?_of_rest hbehind]
    exact hpass _ (rest_advance hbehind)
  · rw [peek?_of_rest hbehind]
    exact hpass _ (rest_advance hbehind)

/-- The exponent of a number, and nothing where there is none. -/
theorem passes_exponent {exponent rest : List Char} (hexponent : IsExponent exponent)
    (hrest : EndsNumber rest) :
    Passes (fun cursor => match cursor.peek? with
      | some 'e' => skipExponent cursor
      | some 'E' => skipExponent cursor
      | _ => .ok cursor) (exponent ++ rest) rest := by
  intro cursor h
  rcases hexponent with rfl | ⟨letter, hletter, sign, hsign, digits, hdigits, rfl⟩
  · refine ⟨cursor, h, ?_⟩
    have hhead : cursor.peek? = rest.head? := congrArg List.head? h
    dsimp only
    split
    · rename_i heq
      exact absurd (hrest 'e' (hhead.symm.trans heq)).2 (by decide)
    · rename_i heq
      exact absurd (hrest 'E' (hhead.symm.trans heq)).2 (by decide)
    · rfl
  · dsimp only
    rw [List.cons_append, List.append_assoc] at h
    rw [peek?_of_rest h]
    rw [List.mem_pair] at hletter
    rcases hletter with rfl | rfl
    · exact passes_skipExponent hsign hdigits hrest cursor h
    · exact passes_skipExponent hsign hdigits hrest cursor h

theorem IsExponent.not_isDigit_head {exponent rest : List Char} (hexponent : IsExponent exponent)
    (hrest : EndsNumber rest) : ∀ c ∈ (exponent ++ rest).head?, c.isDigit = false ∧ c ≠ '.' := by
  intro c hc
  rcases hexponent with rfl | ⟨letter, hletter, sign, -, digits, -, rfl⟩
  · obtain ⟨hdigit, hmem⟩ := hrest c hc
    refine ⟨hdigit, ?_⟩
    rintro rfl
    exact hmem (by decide)
  · obtain rfl := Option.some.inj hc
    rw [List.mem_pair] at hletter
    rcases hletter with rfl | rfl <;> decide

theorem passes_skipTail {fraction exponent rest : List Char} (hfraction : IsFraction fraction)
    (hexponent : IsExponent exponent) (hrest : EndsNumber rest) :
    Passes (skipTail true) (fraction ++ (exponent ++ rest)) rest := by
  intro cursor h
  have hexp := hexponent.not_isDigit_head hrest
  rcases hfraction with rfl | ⟨digits, hdigits, rfl⟩
  · obtain ⟨next, hnext, hread⟩ := passes_exponent hexponent hrest cursor h
    refine ⟨next, hnext, ?_⟩
    have hhead : cursor.peek? = (exponent ++ rest).head? := congrArg List.head? h
    rw [skipTail, ← hread]
    dsimp only
    split
    · rename_i heq
      rw [heq]
      rfl
    · rename_i heq
      rw [heq]
      rfl
    · rename_i heq
      exact absurd rfl (hexp '.' (hhead.symm.trans heq)).2
    · rename_i hlower hupper _
      split
      · rename_i heq
        exact absurd heq hlower
      · rename_i heq
        exact absurd heq hupper
      · rfl
  · obtain ⟨hcount, hbehind⟩ := rest_skipDigits hdigits.2 (fun c hc => (hexp c hc).1)
      (rest_advance h)
    have hne : (skipDigits cursor.advance).1 ≠ 0 := by
      rw [hcount]
      exact fun hzero => hdigits.1 (List.length_eq_zero_iff.mp hzero)
    rw [skipTail, peek?_of_rest h]
    dsimp only
    rw [if_pos rfl, if_neg hne]
    exact passes_exponent hexponent hrest _ hbehind

theorem IsFraction.not_isDigit_head {fraction exponent rest : List Char} (hfraction : IsFraction fraction)
    (hexponent : IsExponent exponent) (hrest : EndsNumber rest) :
    ∀ c ∈ (fraction ++ (exponent ++ rest)).head?, c.isDigit = false := by
  intro c hc
  rcases hfraction with rfl | ⟨digits, -, rfl⟩
  · exact (hexponent.not_isDigit_head hrest c hc).1
  · obtain rfl := Option.some.inj hc
    rfl

/-- A number is passed from behind its sign. -/
theorem passes_skipNumber {integer fraction exponent rest : List Char} (hinteger : IsInteger integer)
    (hfraction : IsFraction fraction) (hexponent : IsExponent exponent) (hrest : EndsNumber rest) :
    Passes skipNumber (integer ++ (fraction ++ (exponent ++ rest))) rest := by
  intro cursor h
  have hhead := hfraction.not_isDigit_head hexponent hrest
  rcases hinteger with rfl | ⟨hdigits, hzero⟩
  · have hbehind := rest_advance h
    have hany : cursor.advance.peek?.any Char.isDigit = false := by
      rw [Cursor.peek?, hbehind, Option.any_eq_false]
      exact hhead
    rw [skipNumber, peek?_of_rest h]
    dsimp only
    rw [if_pos rfl, hany, if_neg Bool.false_ne_true]
    exact passes_skipTail hfraction hexponent hrest _ hbehind
  · obtain ⟨c, cs, rfl, hc⟩ := hdigits.exists_cons
    have hne : c ≠ '0' := fun heq => hzero (congrArg some heq)
    obtain ⟨-, hbehind⟩ := rest_skipDigits hdigits.2 hhead h
    rw [skipNumber, peek?_of_rest h]
    dsimp only
    rw [if_neg hne, if_pos hc]
    exact passes_skipTail hfraction hexponent hrest _ hbehind

/-! ### Values without parts -/

theorem IsInteger.exists_cons {s : List Char} (h : IsInteger s) : ∃ c cs, s = c :: cs ∧ c.isDigit = true := by
  rcases h with rfl | ⟨hdigits, -⟩
  · exact ⟨'0', [], rfl, rfl⟩
  · exact hdigits.exists_cons

theorem not_mem_of_isDigit {c : Char} (h : c.isDigit = true) :
    c ∉ ['n', 't', 'f', '-', ' ', '\n', '\t', '\r', ']', '\x7d'] := by
  simp only [List.mem_cons, List.not_mem_nil, or_false]
  rintro (rfl | rfl | rfl | rfl | rfl | rfl | rfl | rfl | rfl | rfl) <;> cases h

/-- A value without parts is passed as one token. -/
def PassesScalar (s rest : List Char) : Prop :=
  ∀ cursor : Cursor, cursor.rest = s → ∃ next : Cursor, next.rest = rest ∧ skipScalar cursor = .ok (some next)

/-- A value whose first character says by which reader the others are passed. -/
theorem passesScalar_cons {read : Cursor → Except Problem Cursor} {c : Char} {s rest : List Char}
    (hpass : Passes read s rest)
    (hread : ∀ cursor : Cursor, cursor.peek? = some c →
      skipScalar cursor = (read cursor.advance).map some) : PassesScalar (c :: s) rest := by
  intro cursor h
  obtain ⟨next, hnext, hbehind⟩ := hpass cursor.advance (rest_advance h)
  refine ⟨next, hnext, ?_⟩
  rw [hread cursor (peek?_of_rest h), hbehind]
  rfl

theorem passesScalar_word {text : List Char} (hword : text ∈ ["null".toList, "true".toList, "false".toList])
    (rest : List Char) : PassesScalar (text ++ rest) rest := by
  simp only [List.mem_cons, List.not_mem_nil, or_false] at hword
  rcases hword with rfl | rfl | rfl
  · apply passesScalar_cons (passes_word "ull".toList rest)
    intro cursor hpeek
    rw [skipScalar, hpeek]
    rfl
  · apply passesScalar_cons (passes_word "rue".toList rest)
    intro cursor hpeek
    rw [skipScalar, hpeek]
    rfl
  · apply passesScalar_cons (passes_word "alse".toList rest)
    intro cursor hpeek
    rw [skipScalar, hpeek]
    rfl

theorem passesScalar_number {text rest : List Char} (hnumber : IsNumber text) (hrest : EndsNumber rest) :
    PassesScalar (text ++ rest) rest := by
  obtain ⟨sign, hsign, integer, fraction, exponent, hinteger, hfraction, hexponent, rfl⟩ := hnumber
  have hpass := passes_skipNumber hinteger hfraction hexponent hrest
  simp only [List.append_assoc]
  rw [List.mem_pair] at hsign
  rcases hsign with rfl | rfl
  · intro cursor h
    obtain ⟨next, hnext, hread⟩ := hpass cursor h
    obtain ⟨c, cs, rfl, hc⟩ := hinteger.exists_cons
    have hother := not_mem_of_isDigit hc
    simp only [List.mem_cons, not_or] at hother
    obtain ⟨hn, ht, hf, hminus, -⟩ := hother
    rw [skipScalar, peek?_of_rest h]
    dsimp only
    rw [if_neg hn, if_neg ht, if_neg hf, if_neg hminus, if_pos hc, hread]
    exact ⟨next, hnext, rfl⟩
  · apply passesScalar_cons hpass
    intro cursor hpeek
    rw [skipScalar, hpeek]
    rfl

theorem IsLiteral.exists_body {text : List Char} (h : IsLiteral text) (rest : List Char) :
    ∃ body, IsLiteralBody body ∧ text ++ rest = '"' :: (body ++ '"' :: rest) := by
  obtain ⟨body, hbody, rfl⟩ := h
  refine ⟨body, hbody, ?_⟩
  rw [List.cons_append, List.append_assoc]
  rfl

theorem passesScalar_literal {text : List Char} (hliteral : IsLiteral text) (rest : List Char) :
    PassesScalar (text ++ rest) rest := by
  obtain ⟨body, hbody, heq⟩ := hliteral.exists_body rest
  rw [heq]
  apply passesScalar_cons (skipLiteral_body hbody rest)
  intro cursor hpeek
  rw [skipScalar, hpeek]
  rfl

/-! ### Lists and objects in steps -/

def opening (isObject : IsObject) : Char := if isObject then '\x7b' else '['

def closing (isObject : IsObject) : Char := if isObject then '\x7d' else ']'

/-- Skipping in a state, with a bound on the steps. -/
def inState (state : Skipping) (frames : List IsObject) (n : Nat) (cursor : Cursor) : Except Problem Cursor :=
  skipWithin n state frames cursor

/-- Skipping from in front of a part of the innermost list or object: in an object a name comes first. -/
def inPart (isObject : IsObject) (outer : List IsObject) (n : Nat) (cursor : Cursor) :
    Except Problem Cursor := do
  let part ← if isObject then skipName cursor else .ok cursor
  skipWithin n .value (isObject :: outer) part

/-- Skipping in one way gets from a text to what is left of it behind a stretch, in a bounded number of
steps, and goes on in another way. -/
def Skips (bound : Nat) (run run' : Nat → Cursor → Except Problem Cursor) (s rest : List Char) : Prop :=
  ∀ cursor : Cursor, cursor.rest = s →
    ∃ k ≤ bound, ∃ next : Cursor, next.rest = rest ∧ ∀ n, run (n + k) cursor = run' n next

theorem Skips.trans {b b' : Nat} {run run' run'' : Nat → Cursor → Except Problem Cursor}
    {s t u : List Char} (h : Skips b run run' s t) (h' : Skips b' run' run'' t u) :
    Skips (b + b') run run'' s u := by
  intro cursor hrest
  obtain ⟨k, hk, middle, hmiddle, hrun⟩ := h cursor hrest
  obtain ⟨k', hk', next, hnext, hrun'⟩ := h' middle hmiddle
  refine ⟨k' + k, by omega, next, hnext, fun n => ?_⟩
  rw [← Nat.add_assoc, hrun, hrun']

theorem Skips.mono {b b' : Nat} {run run' : Nat → Cursor → Except Problem Cursor} {s t : List Char}
    (h : Skips b run run' s t) (hb : b ≤ b') : Skips b' run run' s t := by
  intro cursor hrest
  obtain ⟨k, hk, next, hnext, hrun⟩ := h cursor hrest
  exact ⟨k, Nat.le_trans hk hb, next, hnext, hrun⟩

variable {blank rest : List Char} {frames outer : List IsObject}

theorem skips_scalar {s : List Char} {c : Char} {cs : List Char} (hblank : IsBlank blank) (hs : s = c :: cs)
    (hc : Cursor.isSpace c = false) (hscalar : PassesScalar s rest) :
    Skips 1 (inState .value frames) (inState .separator frames) (blank ++ s) rest := by
  intro cursor hrest
  rw [hs] at hrest
  have hstart := rest_skipSpace hblank hc hrest
  obtain ⟨next, hnext, hread⟩ := hscalar cursor.skipSpace (by rw [hstart, hs])
  refine ⟨1, Nat.le_refl 1, next, hnext, fun n => ?_⟩
  rw [inState, skipWithin, hread]
  rfl

theorem skips_opening (isObject : IsObject) (hblank : IsBlank blank) :
    Skips 1 (inState .value frames) (inState .firstPart (isObject :: frames))
      (blank ++ opening isObject :: rest) rest := by
  intro cursor hrest
  have hstart := rest_skipSpace hblank (by cases isObject <;> rfl) hrest
  refine ⟨1, Nat.le_refl 1, cursor.skipSpace.advance, rest_advance hstart, fun n => ?_⟩
  have hpeek := peek?_of_rest hstart
  have hscalar : skipScalar cursor.skipSpace = .ok none := by
    rw [skipScalar, hpeek]
    cases isObject <;> rfl
  rw [inState, skipWithin, hscalar, hpeek]
  cases isObject <;> rfl

/-- One step inside of a list or an object: its end, or the next part, or a part where a comma is missing. -/
theorem inState_cons {state : Skipping} (hstate : state ≠ .value) (isObject : IsObject) (n : Nat)
    {cursor : Cursor} {c : Char} (hpeek : cursor.skipSpace.peek? = some c) :
    inState state (isObject :: outer) (n + 1) cursor =
      if c = closing isObject then inState .separator outer n cursor.skipSpace.advance
      else if state = .separator && c != ',' then
        cursor.skipSpace.failAtNext (if isObject then .expectedObjectCommaOrEnd else .expectedListCommaOrEnd)
      else
        inPart isObject outer n
          (if state = .separator then cursor.skipSpace.advance else cursor.skipSpace) := by
  rw [inState, skipWithin, hpeek]
  · rfl
  · exact hstate
  · intro _ hframes
    cases hframes

theorem skips_closing {state : Skipping} (hstate : state ≠ .value) (isObject : IsObject)
    (hblank : IsBlank blank) :
    Skips 1 (inState state (isObject :: outer)) (inState .separator outer) (blank ++ closing isObject :: rest)
      rest := by
  intro cursor hrest
  have hstart := rest_skipSpace hblank (by cases isObject <;> rfl) hrest
  refine ⟨1, Nat.le_refl 1, cursor.skipSpace.advance, rest_advance hstart, fun n => ?_⟩
  rw [inState_cons hstate isObject n (peek?_of_rest hstart), if_pos rfl]

/-- The first part begins behind white space. -/
theorem skips_firstPart {isObject : IsObject} {c : Char} (hblank : IsBlank blank)
    (hc : Cursor.isSpace c = false) (hclosing : c ≠ closing isObject) :
    Skips 1 (inState .firstPart (isObject :: outer)) (inPart isObject outer) (blank ++ c :: rest)
      (c :: rest) := by
  intro cursor hrest
  have hstart := rest_skipSpace hblank hc hrest
  refine ⟨1, Nat.le_refl 1, cursor.skipSpace, hstart, fun n => ?_⟩
  rw [inState_cons (by decide) isObject n (peek?_of_rest hstart), if_neg hclosing]
  rfl

/-- A comma leads on to the next part. -/
theorem skips_comma (isObject : IsObject) (hblank : IsBlank blank) :
    Skips 1 (inState .separator (isObject :: outer)) (inPart isObject outer) (blank ++ ',' :: rest) rest := by
  intro cursor hrest
  have hstart := rest_skipSpace hblank (by decide) hrest
  refine ⟨1, Nat.le_refl 1, cursor.skipSpace.advance, rest_advance hstart, fun n => ?_⟩
  rw [inState_cons (by decide) isObject n (peek?_of_rest hstart),
    if_neg (by cases isObject <;> decide)]
  rfl

/-- An item has nothing in front of its value. -/
theorem skips_itemLead {bound : Nat} {run' : Nat → Cursor → Except Problem Cursor} {s : List Char}
    (h : Skips bound (inState .value (false :: outer)) run' s rest) :
    Skips bound (inPart false outer) run' s rest := h

theorem skips_memberLead {s : List Char} (h : Passes skipName s rest) :
    Skips 0 (inPart true outer) (inState .value (true :: outer)) s rest := by
  intro cursor hrest
  obtain ⟨next, hnext, hread⟩ := h cursor hrest
  refine ⟨0, Nat.le_refl 0, next, hnext, fun n => ?_⟩
  rw [inPart, if_pos rfl, hread]
  rfl

/-! ### Parts and values -/

/-- The name of a member is passed together with its colon. -/
theorem passes_skipName {name beforeColon : List Char} (hblank : IsBlank blank) (hname : IsLiteral name)
    (hcolon : IsBlank beforeColon) :
    Passes skipName (blank ++ (name ++ (beforeColon ++ ':' :: rest))) rest := by
  intro cursor h
  obtain ⟨body, hbody, heq⟩ := hname.exists_body (beforeColon ++ ':' :: rest)
  rw [heq] at h
  have hstart := rest_skipSpace hblank (by decide) h
  obtain ⟨behind, hbehind, hread⟩ := skipLiteral_body hbody _ _ (rest_advance hstart)
  have hend := rest_skipSpace hcolon (by decide) hbehind
  refine ⟨behind.skipSpace.advance, rest_advance hend, ?_⟩
  rw [skipName, peek?_of_rest hstart]
  change (skipLiteral cursor.skipSpace.advance >>= _) = _
  rw [hread]
  dsimp only [bind, Except.bind]
  rw [peek?_of_rest hend]
  rfl

/-- A part of a list or an object is passed in two steps a character, whatever white space is in front of
it. -/
structure IsPart (isObject : IsObject) (part : List Char) : Prop where
  head : ∃ c cs, part = c :: cs ∧ Cursor.isSpace c = false ∧ c ≠ closing isObject
  skips : ∀ (outer : List IsObject) {blank rest : List Char}, IsBlank blank → EndsNumber rest →
    Skips (2 * part.length) (inPart isObject outer) (inState .separator (isObject :: outer))
      (blank ++ (part ++ rest)) rest

theorem Listed.endsNumber {parts : List (List Char)} {s : List Char} (h : Listed false parts s)
    (isObject : IsObject) (rest : List Char) : EndsNumber (s ++ closing isObject :: rest) := by
  cases h with
  | none hblank =>
      refine endsNumber_append hblank ?_
      rintro c hc
      obtain rfl := Option.some.inj hc
      cases isObject <;> decide
  | more hbehind =>
      rw [List.append_assoc]
      refine endsNumber_append hbehind ?_
      rintro c hc
      obtain rfl := Option.some.inj hc
      decide

/-- What is left of a list or an object behind one of its parts is passed up to its end. -/
theorem skips_parts {isObject : IsObject} {parts : List (List Char)} {s : List Char}
    (hlisted : Listed false parts s) (hparts : ∀ part ∈ parts, IsPart isObject part) :
    Skips (2 * s.length + 1) (inState .separator (isObject :: outer)) (inState .separator outer)
      (s ++ closing isObject :: rest) rest := by
  induction parts generalizing s with
  | nil =>
      cases hlisted with
      | none hblank => exact (skips_closing (by decide) isObject hblank).mono (by omega)
  | cons part parts ih =>
      cases hlisted with
      | more hbehind hfront hmore =>
          have hpart := (hparts part List.mem_cons_self).skips outer hfront (hmore.endsNumber isObject rest)
          have hrun := ((skips_comma isObject hbehind).trans hpart).trans
            (ih hmore fun other hmem => hparts other (List.mem_cons_of_mem _ hmem))
          simp only [List.append_assoc, List.cons_append]
          refine hrun.mono ?_
          simp only [List.length_append, List.length_cons]
          omega

/-- A value is passed in two steps a character, whatever white space is in front of it. -/
def SkipsValue (value : List Char) : Prop :=
  ∀ (frames : List IsObject) {blank rest : List Char}, IsBlank blank → EndsNumber rest →
    Skips (2 * value.length) (inState .value frames) (inState .separator frames) (blank ++ (value ++ rest))
      rest

/-- A list or an object is passed once its parts are. -/
theorem skipsValue_brackets {isObject : IsObject} {parts : List (List Char)} {s : List Char}
    (hlisted : Listed true parts s) (hparts : ∀ part ∈ parts, IsPart isObject part) :
    SkipsValue (opening isObject :: (s ++ [closing isObject])) := by
  intro frames blank rest hblank _
  simp only [List.cons_append, List.append_assoc, List.nil_append, List.length_cons, List.length_append,
    List.length_nil]
  cases hlisted with
  | none hinner =>
      exact ((skips_opening isObject hblank).trans (skips_closing (by decide) isObject hinner)).mono
        (by omega)
  | @first front part s parts hfront hmore =>
      have hpart := hparts part List.mem_cons_self
      obtain ⟨c, cs, hhead, hspace, hclosing⟩ := hpart.head
      have hfirst : Skips 1 (inState .firstPart (isObject :: frames)) (inPart isObject frames)
          (front ++ (part ++ (s ++ closing isObject :: rest))) (part ++ (s ++ closing isObject :: rest)) := by
        rw [hhead]
        exact skips_firstPart hfront hspace hclosing
      have hskips := hpart.skips frames isBlank_nil (hmore.endsNumber isObject rest)
      have hrun := (((skips_opening isObject hblank).trans hfirst).trans hskips).trans
        (skips_parts hmore fun other hmem => hparts other (List.mem_cons_of_mem _ hmem))
      rw [List.append_assoc, List.append_assoc]
      refine hrun.mono ?_
      simp only [List.length_append]
      omega

theorem IsValue.exists_cons {value : List Char} (h : IsValue value) :
    ∃ c cs, value = c :: cs ∧ Cursor.isSpace c = false ∧ c ≠ ']' := by
  cases h with
  | word hword =>
      simp only [List.mem_cons, List.not_mem_nil, or_false] at hword
      rcases hword with rfl | rfl | rfl
      · exact ⟨'n', "ull".toList, rfl, rfl, by decide⟩
      · exact ⟨'t', "rue".toList, rfl, rfl, by decide⟩
      · exact ⟨'f', "alse".toList, rfl, rfl, by decide⟩
  | number hnumber =>
      obtain ⟨sign, hsign, integer, fraction, exponent, hinteger, -, -, rfl⟩ := hnumber
      obtain ⟨c, cs, rfl, hc⟩ := hinteger.exists_cons
      rw [List.mem_pair] at hsign
      rcases hsign with rfl | rfl
      · have hother := not_mem_of_isDigit hc
        simp only [List.mem_cons, not_or] at hother
        obtain ⟨-, -, -, -, hspace, hline, htab, hreturn, hclosing, -⟩ := hother
        refine ⟨c, _, rfl, ?_, hclosing⟩
        rw [Cursor.isSpace, beq_false_of_ne hspace, beq_false_of_ne hline, beq_false_of_ne htab,
          beq_false_of_ne hreturn]
        rfl
      · exact ⟨'-', _, rfl, rfl, by decide⟩
  | literal hliteral =>
      obtain ⟨body, -, rfl⟩ := hliteral
      exact ⟨'"', _, rfl, rfl, by decide⟩
  | list => exact ⟨'[', _, rfl, rfl, by decide⟩
  | object => exact ⟨'\x7b', _, rfl, rfl, by decide⟩

theorem skipsValue_of_scalar {value : List Char} (h : IsValue value)
    (hscalar : ∀ rest, EndsNumber rest → PassesScalar (value ++ rest) rest) : SkipsValue value := by
  intro frames blank rest hblank hrest
  obtain ⟨c, cs, rfl, hspace, -⟩ := h.exists_cons
  refine (skips_scalar hblank rfl hspace (hscalar rest hrest)).mono ?_
  rw [List.length_cons]
  omega

theorem isPart_item {item : List Char} (h : IsValue item) (hskips : SkipsValue item) : IsPart false item where
  head := h.exists_cons
  skips outer _ _ hblank hrest := skips_itemLead (hskips (false :: outer) hblank hrest)

theorem isPart_member {member : Member} (hname : IsLiteral member.name) (hskips : SkipsValue member.value) :
    IsPart true member.text where
  head := by
    obtain ⟨body, -, heq⟩ := hname
    rw [Member.text, heq]
    exact ⟨'"', _, rfl, rfl, by decide⟩
  skips outer blank rest hblank hrest := by
    have hrun := (skips_memberLead (passes_skipName hblank hname member.isBlank_beforeColon)).trans
      (hskips (true :: outer) member.isBlank_behindColon hrest)
    simp only [Member.text, List.append_assoc, List.cons_append]
    refine hrun.mono ?_
    simp only [List.length_append, List.length_cons]
    omega

/-- Every value is passed, by induction on how it is put together. -/
theorem IsValue.skips {value : List Char} (h : IsValue value) : SkipsValue value := by
  induction h with
  | word hword => exact skipsValue_of_scalar (.word hword) fun rest _ => passesScalar_word hword rest
  | number hnumber => exact skipsValue_of_scalar (.number hnumber) fun _ => passesScalar_number hnumber
  | literal hliteral =>
      exact skipsValue_of_scalar (.literal hliteral) fun rest _ => passesScalar_literal hliteral rest
  | list hitems hlisted ih =>
      exact skipsValue_brackets hlisted fun item hmem => isPart_item (hitems item hmem) (ih item hmem)
  | object hnames hvalues hlisted ih =>
      refine @skipsValue_brackets true _ _ hlisted fun part hpart => ?_
      obtain ⟨member, hmem, rfl⟩ := List.mem_map.mp hpart
      exact isPart_member (hnames member hmem) (ih member hmem)

/-- A value is skipped together with the white space in front of it, and nothing else is. -/
theorem passes_skipValue {value : List Char} (h : IsValue value) (hblank : IsBlank blank)
    (hrest : EndsNumber rest) : Passes skipValue (blank ++ (value ++ rest)) rest := by
  intro cursor hcursor
  obtain ⟨k, hk, next, hnext, hrun⟩ := h.skips [] hblank hrest cursor hcursor
  refine ⟨next, hnext, ?_⟩
  have hlength : value.length ≤ cursor.rest.length := by
    rw [hcursor, List.length_append, List.length_append]
    omega
  obtain ⟨m, hm⟩ : ∃ m, 2 * cursor.rest.length + 2 = m + 1 + k :=
    ⟨2 * cursor.rest.length + 1 - k, by omega⟩
  rw [skipValue, hm]
  exact hrun (m + 1)

end MarkupModule.Json
