import MarkupModule.Style.Token
import MarkupModule.Text.Ascii
import MarkupModule.Text.Search

/-! Cutting a style sheet into tokens. No text is refused: what fits no other token is a single
character. Each reader returns what it read and the text behind it, which is never longer, so that
reading comes to an end. -/

namespace MarkupModule.Style.Lexer

open MarkupModule.Text

def isNewline (c : Char) : Bool :=
  c == '\n' || c == '\r' || c == '\x0c'

/-- Whether a text begins with the end of a line. -/
def startsLine : List Char → Bool
  | c :: _ => isNewline c
  | [] => false

/-- The characters that a name may begin with. -/
def isNameStart (c : Char) : Bool :=
  c.isAlpha || c == '_' || c == '\x00' || isBeyondAscii c

def isNameChar (c : Char) : Bool :=
  isNameStart c || c.isDigit || c == '-'

/-- Whether a name stands at the start of a text. -/
def startsName : List Char → Bool
  | '-' :: '\\' :: _ => true
  | '-' :: c :: _ => c == '-' || isNameStart c
  | '\\' :: rest => !startsLine rest
  | c :: _ => isNameStart c
  | [] => false

/-- The character that a name or text shows: NUL is replaced. -/
def visible (c : Char) : Char :=
  if c = '\x00' then '\uFFFD' else c

/-- The character with a number, where there is one that may stand in a text. -/
def charOfNumber (n : Nat) : Char :=
  if n = 0 || 0x10FFFF < n || (0xD800 ≤ n && n ≤ 0xDFFF) then '\uFFFD' else Char.ofNat n

/-- What follows one white space, if a text begins with it. -/
def dropSpace : List Char → List Char
  | '\r' :: '\n' :: rest => rest
  | c :: rest => if isSpace c then rest else c :: rest
  | [] => []

/-- The character that an escape stands for, read from what follows the backslash: up to six hexadecimal
digits and one white space behind them, or a character that stands for itself. -/
def escape : List Char → Char × List Char
  | [] => ('\uFFFD', [])
  | c :: rest =>
    if isHexDigit c then
      let digits := (rest.take 5).takeWhile isHexDigit
      (charOfNumber (numeral 16 (c :: digits)), dropSpace (rest.drop digits.length))
    else (visible c, rest)

theorem length_dropSpace_le (cs : List Char) : (dropSpace cs).length ≤ cs.length := by
  unfold dropSpace
  split
  · simp only [List.length_cons]
    omega
  · split <;> simp
  · simp

theorem length_escape_le (cs : List Char) : (escape cs).2.length ≤ cs.length := by
  unfold escape
  split
  · simp
  · rename_i c rest
    split
    · refine Nat.le_trans (length_dropSpace_le _) ?_
      simp only [List.length_drop, List.length_cons]
      omega
    · simp

def name : List Char → List Char × List Char
  | [] => ([], [])
  | c :: cs =>
    if isNameChar c then
      let more := name cs
      (visible c :: more.1, more.2)
    else if c = '\\' && !startsLine cs then
      let escaped := escape cs
      let more := name escaped.2
      (escaped.1 :: more.1, more.2)
    else ([], c :: cs)
termination_by cs => cs.length
decreasing_by
  · simp
  · exact Nat.lt_succ_of_le (length_escape_le cs)

theorem length_name_le (cs : List Char) : (name cs).2.length ≤ cs.length := by
  fun_induction name cs with
  | case1 => simp
  | case2 c cs _ _ ih => exact Nat.le_succ_of_le ih
  | case3 c cs _ _ _ _ ih => exact Nat.le_succ_of_le (Nat.le_trans ih (length_escape_le cs))
  | case4 => simp

/-- A text up to the quote that ends it. A line that ends within it makes it a bad one; the text may be
left open at the end of the input, and a backslash there or at the end of a line adds nothing. -/
def quoted (quote : Char) : List Char → Bool × List Char × List Char
  | [] => (true, [], [])
  | '\\' :: [] => (true, [], [])
  | '\\' :: '\r' :: '\n' :: cs => quoted quote cs
  | '\\' :: c :: cs =>
    if isNewline c then quoted quote cs
    else
      let escaped := escape (c :: cs)
      let more := quoted quote escaped.2
      (more.1, escaped.1 :: more.2.1, more.2.2)
  | c :: cs =>
    if c = quote then (true, [], cs)
    else if isNewline c then (false, [], c :: cs)
    else
      let more := quoted quote cs
      (more.1, visible c :: more.2.1, more.2.2)
termination_by cs => cs.length
decreasing_by
  · simp only [List.length_cons]
    omega
  · simp only [List.length_cons]
    omega
  · exact Nat.lt_succ_of_le (length_escape_le (c :: cs))
  · simp

theorem length_quoted_le (quote : Char) (cs : List Char) :
    (quoted quote cs).2.2.length ≤ cs.length := by
  fun_induction quoted quote cs with
  | case1 => simp
  | case2 => simp
  | case3 cs ih => exact Nat.le_trans ih (by simp only [List.length_cons]; omega)
  | case4 c cs _ _ ih => exact Nat.le_trans ih (by simp only [List.length_cons]; omega)
  | case5 c cs _ _ _ _ ih => exact Nat.le_succ_of_le (Nat.le_trans ih (length_escape_le (c :: cs)))
  | case6 => simp
  | case7 => simp
  | case8 c cs _ _ _ _ _ _ ih => exact Nat.le_succ_of_le ih

/-- What is left of an address that is none, up to the bracket that ends it. -/
def badAddress : List Char → List Char × List Char
  | [] => ([], [])
  | ')' :: cs => ([], cs)
  | '\\' :: ')' :: cs => let more := badAddress cs; ('\\' :: ')' :: more.1, more.2)
  | '\\' :: '\\' :: cs => let more := badAddress cs; ('\\' :: '\\' :: more.1, more.2)
  | c :: cs => let more := badAddress cs; (c :: more.1, more.2)

theorem length_badAddress_le (cs : List Char) : (badAddress cs).2.length ≤ cs.length := by
  fun_induction badAddress cs with
  | case1 => simp
  | case2 => simp
  | case3 cs more ih => exact Nat.le_succ_of_le (Nat.le_succ_of_le ih)
  | case4 cs more ih => exact Nat.le_succ_of_le (Nat.le_succ_of_le ih)
  | case5 c cs _ _ _ more ih => exact Nat.le_succ_of_le ih

/-- Characters that an address without quotes cannot hold. -/
def isBarred (c : Char) : Bool :=
  c == '"' || c == '\'' || c == '(' || c == '\x7f' || (c < ' ' && c != '\x00')

/-- An address without quotes, if there is one up to the bracket that ends it. -/
def address? : List Char → Option (List Char × List Char)
  | [] => some ([], [])
  | ')' :: cs => some ([], cs)
  | c :: cs =>
    if isSpace c then
      match cs.dropWhile isSpace with
      | [] => some ([], [])
      | ')' :: rest => some ([], rest)
      | _ => none
    else if isBarred c then none
    else if c = '\\' then
      if startsLine cs then none
      else
        let escaped := escape cs
        (address? escaped.2).map fun more => (escaped.1 :: more.1, more.2)
    else (address? cs).map fun more => (visible c :: more.1, more.2)
termination_by cs => cs.length
decreasing_by
  · exact Nat.lt_succ_of_le (length_escape_le cs)
  · simp

theorem length_address?_le (cs : List Char) {found : List Char × List Char}
    (h : address? cs = some found) : found.2.length ≤ cs.length := by
  induction hn : cs.length using Nat.strongRecOn generalizing cs found with
  | ind n ih =>
    subst hn
    rw [address?.eq_def] at h
    split at h
    · simp only [Option.some.injEq] at h
      simp [← h]
    · simp only [Option.some.injEq] at h
      simp [← h]
    · rename_i c cs _
      split at h
      · have hs : (cs.dropWhile isSpace).length ≤ cs.length := (List.dropWhile_suffix _).length_le
        split at h
        · simp only [Option.some.injEq] at h
          simp [← h]
        · rename_i rest hrest
          simp only [Option.some.injEq] at h
          rw [hrest, List.length_cons] at hs
          subst h
          simp only [List.length_cons]
          omega
        · simp at h
      · split at h
        · simp at h
        · split at h
          · split at h
            · simp at h
            · obtain ⟨more, hmore, rfl⟩ := Option.map_eq_some_iff.1 h
              have he := length_escape_le cs
              have := ih _ (by rw [List.length_cons]; omega) _ hmore rfl
              simp only [List.length_cons]
              omega
          · obtain ⟨more, hmore, rfl⟩ := Option.map_eq_some_iff.1 h
            have := ih cs.length (by simp) _ hmore rfl
            simp only [List.length_cons]
            omega

/-- What follows `url(`: an address without quotes, or else a function. -/
def address (function : String) (cs : List Char) : Token × List Char :=
  let rest := cs.dropWhile isSpace
  if rest.head? == some '"' || rest.head? == some '\'' then (.function function, cs)
  else
    match address? rest with
    | some (content, after) => (.url (String.ofList content), after)
    | none =>
      let bad := badAddress rest
      (.badUrl (String.ofList bad.1), bad.2)

theorem length_address_le (function : String) (cs : List Char) :
    (address function cs).2.length ≤ cs.length := by
  have hs : (cs.dropWhile isSpace).length ≤ cs.length := (List.dropWhile_suffix _).length_le
  simp only [address]
  split
  · simp
  · split
    · rename_i h
      exact Nat.le_trans (length_address?_le _ h) hs
    · exact Nat.le_trans (length_badAddress_le _) hs

/-- A name, a function or an address, from the first character of the name on. -/
def nameLike (cs : List Char) : Token × List Char :=
  let found := name cs
  let word := String.ofList found.1
  match found.2 with
  | '(' :: rest => if sameIgnoringCase word "url" then address word rest else (.function word, rest)
  | rest => (.ident word, rest)

/-- The fraction at the start of a text, if a digit follows the point. -/
def fraction? : List Char → Option (List Char × List Char)
  | '.' :: c :: cs =>
    if c.isDigit then some ((c :: cs).takeWhile Char.isDigit, (c :: cs).dropWhile Char.isDigit)
    else none
  | _ => none

def sign : List Char → Option Bool × List Char
  | '-' :: cs => (some true, cs)
  | '+' :: cs => (some false, cs)
  | cs => (none, cs)

/-- The exponent at the start of a text, if a digit follows the letter and the sign. -/
def exponent? : List Char → Option (Int × List Char)
  | c :: cs =>
    if c = 'e' || c = 'E' then
      let signed := sign cs
      let digits := signed.2.takeWhile Char.isDigit
      if digits.isEmpty then none
      else
        let n : Int := numeral 10 digits
        some (if signed.1 == some true then -n else n, signed.2.dropWhile Char.isDigit)
    else none
  | [] => none

/-- Whether a number stands at the start of a text. -/
def startsNumber (cs : List Char) : Bool :=
  match (sign cs).2 with
  | c :: rest => c.isDigit || (fraction? (c :: rest)).isSome
  | [] => false

def numeralAt (cs : List Char) : Numeral × List Char :=
  let signed := sign cs
  let integer := signed.2.takeWhile Char.isDigit
  let rest := signed.2.dropWhile Char.isDigit
  let fraction := (fraction? rest).getD ([], rest)
  let exponent := (exponent? fraction.2).getD (0, fraction.2)
  let whole := (fraction? rest).isNone && (exponent? fraction.2).isNone
  (⟨Number.scaled (signed.1 == some true) (numeral 10 (integer ++ fraction.1)) fraction.1.length
    exponent.1, signed.1.isSome, whole⟩, exponent.2)

theorem length_sign_le (cs : List Char) : (sign cs).2.length ≤ cs.length := by
  unfold sign
  split <;> simp

theorem length_fraction?_le {cs : List Char} {found : List Char × List Char}
    (h : fraction? cs = some found) : found.2.length ≤ cs.length := by
  unfold fraction? at h
  split at h
  · rename_i c rest
    split at h
    · simp only [Option.some.injEq] at h
      subst h
      have hd : ((c :: rest).dropWhile Char.isDigit).length ≤ (c :: rest).length :=
        (List.dropWhile_suffix _).length_le
      simp only [List.length_cons] at hd ⊢
      omega
    · simp at h
  · simp at h

theorem length_exponent?_le {cs : List Char} {found : Int × List Char}
    (h : exponent? cs = some found) : found.2.length ≤ cs.length := by
  unfold exponent? at h
  split at h
  · rename_i c rest
    split at h
    · simp only at h
      split at h
      · simp at h
      · simp only [Option.some.injEq] at h
        subst h
        have hd : ((sign rest).2.dropWhile Char.isDigit).length ≤ (sign rest).2.length :=
          (List.dropWhile_suffix _).length_le
        have hs := length_sign_le rest
        simp only [List.length_cons]
        omega
    · simp at h
  · simp at h

def numeric (cs : List Char) : Token × List Char :=
  let found := numeralAt cs
  match found.2 with
  | '%' :: rest => (.percentage found.1, rest)
  | rest =>
    if startsName rest then
      let unit := name rest
      (.dimension found.1 (String.ofList unit.1), unit.2)
    else (.number found.1, rest)

/-- A comment, read from what follows its opening. A comment may be left open. -/
def comment (cs : List Char) : Token × List Char :=
  (.comment (String.ofList (cutBefore "*/".toList cs).1), dropThrough "*/".toList cs)

/-- Tokens of fixed spelling whose first character is a token of its own elsewhere. -/
def spellings : List (List Char × Token) := [
  ("$=".toList, .ends), ("*=".toList, .holds), ("^=".toList, .begins), ("|=".toList, .dashes),
  ("~=".toList, .includes), ("<!--".toList, .commentOpen), ("-->".toList, .commentClose)]

/-- The token of a spelling at the start of a text, and what follows it. -/
def spelled? (cs : List Char) : List (List Char × Token) → Option (Token × List Char)
  | [] => none
  | (spelling, token) :: rest =>
    match dropPrefix? spelling cs with
    | some after => some (token, after)
    | none => spelled? cs rest

/-- Characters that are tokens by themselves wherever they stand. -/
def single? (c : Char) : Option Token :=
  match c with
  | ':' => some .colon
  | ';' => some .semicolon
  | ',' => some .comma
  | '(' => some (.opening .round)
  | ')' => some (.closing .round)
  | '[' => some (.opening .square)
  | ']' => some (.closing .square)
  | '\x7b' => some (.opening .curly)
  | '\x7d' => some (.closing .curly)
  | _ => none

/-- A text between quotes, read from what follows the first quote. -/
def textToken (quote : Char) (cs : List Char) : Token × List Char :=
  let found := quoted quote cs
  let content := String.ofList found.2.1
  (if found.1 then .text content else .badText content, found.2.2)

/-- What begins with `#` or `@`: a name behind it, or the character alone. -/
def marked (c : Char) (cs : List Char) : Token × List Char :=
  let found := name cs
  let word := String.ofList found.1
  if c = '@' then
    if startsName cs then (.atKeyword word, found.2) else (.delim c, cs)
  else if startsName cs then (.hash word true, found.2)
  else if found.1.isEmpty then (.delim c, cs)
  else (.hash word false, found.2)

/-- The token that begins with a character, and what follows the token. -/
def scan (c : Char) (cs : List Char) : Token × List Char :=
  match single? c with
  | some token => (token, cs)
  | none =>
    if isSpace c then (.space, cs.dropWhile isSpace)
    else if c = '"' || c = '\'' then textToken c cs
    else if c = '#' || c = '@' then marked c cs
    else if startsNumber (c :: cs) then numeric (c :: cs)
    else if startsWith "/*".toList (c :: cs) then comment (cs.drop 1)
    else
      match spelled? (c :: cs) spellings with
      | some found => found
      | none => if startsName (c :: cs) then nameLike (c :: cs) else (.delim c, cs)

/-! ### Reading moves forward

Every token takes at least the character that it begins with. -/

theorem length_comment_le (cs : List Char) : (comment cs).2.length ≤ cs.length :=
  length_dropThrough_le _ _

theorem length_spelled?_lt {cs : List Char} {table : List (List Char × Token)}
    {found : Token × List Char} (ht : ∀ entry ∈ table, 0 < entry.1.length)
    (h : spelled? cs table = some found) : found.2.length < cs.length := by
  induction table with
  | nil => simp [spelled?] at h
  | cons entry rest ih =>
    simp only [spelled?] at h
    split at h
    · rename_i after hafter
      simp only [Option.some.injEq] at h
      subst h
      have := length_dropPrefix?_le hafter
      have := ht entry (by simp)
      simp only
      omega
    · exact ih (fun e he => ht e (List.mem_cons_of_mem _ he)) h

theorem length_textToken_le (quote : Char) (cs : List Char) :
    (textToken quote cs).2.length ≤ cs.length :=
  length_quoted_le quote cs

theorem length_marked_le (c : Char) (cs : List Char) : (marked c cs).2.length ≤ cs.length := by
  have hn := length_name_le cs
  simp only [marked]
  split
  · split
    · exact hn
    · simp
  · split
    · exact hn
    · split
      · simp
      · exact hn

theorem length_name_lt {cs : List Char} (h : startsName cs) : (name cs).2.length < cs.length := by
  cases cs with
  | nil => simp [startsName] at h
  | cons c cs =>
    rw [name]
    split
    · exact Nat.lt_succ_of_le (length_name_le cs)
    · split
      · exact Nat.lt_succ_of_le (Nat.le_trans (length_name_le _) (length_escape_le cs))
      · rename_i hc hb
        exfalso
        by_cases hd : c = '-'
        · subst hd
          exact hc (by decide)
        · by_cases hs : c = '\\'
          · subst hs
            simp_all [startsName]
          · have : isNameStart c = true := by
              simpa [startsName, hd, hs] using h
            exact hc (by simp [isNameChar, this])

/-- A number takes at least one character where one begins. -/
theorem length_numeralAt_lt {cs : List Char} (h : startsNumber cs) :
    (numeralAt cs).2.length < cs.length := by
  have hexp (rest : List Char) : ((exponent? rest).getD (0, rest)).2.length ≤ rest.length := by
    cases hx : exponent? rest with
    | none => simp
    | some found => exact length_exponent?_le hx
  refine Nat.lt_of_le_of_lt (hexp _) ?_
  have hfrac (rest : List Char) : ((fraction? rest).getD ([], rest)).2.length ≤ rest.length := by
    cases hx : fraction? rest with
    | none => simp
    | some found => exact length_fraction?_le hx
  have hs := length_sign_le cs
  generalize hr : (sign cs).2 = rest at h hs
  simp only [startsNumber, hr] at h
  cases rest with
  | nil => simp at h
  | cons c rest =>
    by_cases hc : c.isDigit
    · refine Nat.lt_of_le_of_lt (hfrac _) ?_
      rw [List.dropWhile_cons_of_pos hc]
      have hd : (rest.dropWhile Char.isDigit).length ≤ rest.length :=
        (List.dropWhile_suffix _).length_le
      simp only [List.length_cons] at hs
      omega
    · rw [List.dropWhile_cons_of_neg hc]
      simp only [hc, Bool.false_or] at h
      obtain ⟨found, hf⟩ := Option.isSome_iff_exists.1 h
      rw [hf, Option.getD_some]
      refine Nat.lt_of_lt_of_le ?_ hs
      unfold fraction? at hf
      split at hf
      · rename_i d more heq
        injection heq with h1 h2
        split at hf
        · simp only [Option.some.injEq] at hf
          subst hf h2
          have hd : ((d :: more).dropWhile Char.isDigit).length ≤ (d :: more).length :=
            (List.dropWhile_suffix _).length_le
          simp only [List.length_cons] at hd ⊢
          omega
        · simp at hf
      · simp at hf

theorem length_numeric_lt {cs : List Char} (h : startsNumber cs) :
    (numeric cs).2.length < cs.length := by
  have hn := length_numeralAt_lt h
  simp only [numeric]
  split
  · rename_i rest hr
    rw [hr, List.length_cons] at hn
    simp only
    omega
  · split
    · exact Nat.lt_of_le_of_lt (length_name_le _) hn
    · exact hn

theorem length_nameLike_lt {cs : List Char} (h : startsName cs) :
    (nameLike cs).2.length < cs.length := by
  have hn := length_name_lt h
  simp only [nameLike]
  split
  · rename_i rest hr
    rw [hr, List.length_cons] at hn
    split
    · exact Nat.lt_of_le_of_lt (length_address_le _ _) (by omega)
    · simp only
      omega
  · exact hn

theorem spellings_nonempty : ∀ entry ∈ spellings, 0 < entry.1.length := by
  decide

/-- What follows a token is shorter than what begins with the token. -/
theorem length_scan_le (c : Char) (cs : List Char) : (scan c cs).2.length ≤ cs.length := by
  have hlt {n : Nat} (h : n < (c :: cs).length) : n ≤ cs.length := Nat.le_of_lt_succ h
  simp only [scan]
  split
  · simp
  · split
    · exact (List.dropWhile_suffix _).length_le
    · split
      · exact length_textToken_le _ _
      · split
        · exact length_marked_le _ _
        · split
          · rename_i h
            exact hlt (length_numeric_lt h)
          · split
            · refine Nat.le_trans (length_comment_le _) ?_
              simp
            · split
              · rename_i h
                exact hlt (length_spelled?_lt spellings_nonempty h)
              · split
                · rename_i h
                  exact hlt (length_nameLike_lt h)
                · simp

/-- The tokens of a text, each with the number of characters from its start to the end of the text. -/
def tokens : List Char → List (Nat × Token)
  | [] => []
  | c :: cs => (cs.length + 1, (scan c cs).1) :: tokens (scan c cs).2
termination_by cs => cs.length
decreasing_by exact Nat.lt_succ_of_le (length_scan_le c cs)

end MarkupModule.Style.Lexer
