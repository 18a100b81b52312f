import MarkupModule.Text.Ascii
import MarkupModule.Text.Search
import MarkupModule.Markup.ReferenceNames

/-! Character references in text and attribute values. A reference begins with an ampersand and names
a character or gives its number; an ampersand that begins no reference stands for itself. In an
attribute value a name without a semicolon is no reference when a letter, a digit or an equals sign
follows, so that addresses with parameters keep their text. -/

namespace MarkupModule.Markup.Reference

open MarkupModule.Text

/-- The characters that numeric references to the range 0x80 to 0x9F denote, in order; zero where the
number denotes itself. -/
def windowsCharacters : List Nat := [
  0x20AC, 0, 0x201A, 0x0192, 0x201E, 0x2026, 0x2020, 0x2021, 0x02C6, 0x2030, 0x0160, 0x2039, 0x0152,
  0, 0x017D, 0, 0, 0x2018, 0x2019, 0x201C, 0x201D, 0x2022, 0x2013, 0x2014, 0x02DC, 0x2122, 0x0161,
  0x203A, 0x0153, 0, 0x017E, 0x0178]

/-- The character with a number given in a reference. NUL, surrogates and numbers beyond Unicode become
the replacement character. -/
def numbered (n : Nat) : Char :=
  let mapped := (windowsCharacters[n - 0x80]?).getD 0
  if n = 0 then '\uFFFD'
  else if 0x80 ≤ n ∧ n ≤ 0x9F ∧ mapped ≠ 0 then Char.ofNat mapped
  else if h : n.isValidChar then Char.ofNatAux n h
  else '\uFFFD'

/-- The rest of the text without the semicolon that may end a numeric reference. -/
def dropSemicolon : List Char → List Char
  | ';' :: rest => rest
  | rest => rest

/-- The digits of a numeric reference and what follows them, if there is at least one digit. -/
def number? (base : Nat) (isDigit : Char → Bool) (s : List Char) : Option (List Char × List Char) :=
  if (s.takeWhile isDigit).isEmpty then none
  else some ([numbered (numeral base (s.takeWhile isDigit))], dropSemicolon (s.dropWhile isDigit))

/-- A numeric reference, read from what follows the number sign. -/
def numeric? : List Char → Option (List Char × List Char)
  | 'x' :: rest => number? 16 isHexDigit rest
  | 'X' :: rest => number? 16 isHexDigit rest
  | rest => number? 10 Char.isDigit rest

/-- The names that begin like a text. -/
def namesFor : List Char → List (String × List Nat)
  | [] => []
  | c :: _ => referenceNames c

/-- The longest name that the text begins with, and what follows it. -/
def longestName? (s : List Char) : Option ((String × List Nat) × List Char) :=
  (namesFor s).findSome? fun entry => (dropPrefix? entry.1.toList s).map fun rest => (entry, rest)

/-- Whether a name without a semicolon is no reference in an attribute value because of what follows. -/
def keepsAmpersand : List Char → Bool
  | [] => false
  | c :: _ => c == '=' || c.isAlphanum

def named? (inAttribute : Bool) (s : List Char) : Option (List Char × List Char) :=
  match longestName? s with
  | none => none
  | some (entry, rest) =>
    if inAttribute && !entry.1.endsWith ";" && keepsAmpersand rest then none
    else some (entry.2.map Char.ofNat, rest)

/-- The reference that begins behind an ampersand: the characters it denotes and what follows it. -/
def reference? (inAttribute : Bool) : List Char → Option (List Char × List Char)
  | '#' :: rest => numeric? rest
  | s => named? inAttribute s

/-- Dropping characters from the front never lengthens a text. -/
theorem length_dropWhile_le (p : Char → Bool) (s : List Char) :
    (s.dropWhile p).length ≤ s.length := by
  induction s with
  | nil => simp
  | cons c cs ih =>
    rw [List.dropWhile_cons]
    split
    · exact Nat.le_succ_of_le ih
    · exact Nat.le_refl _

theorem length_dropSemicolon_le (s : List Char) : (dropSemicolon s).length ≤ s.length := by
  unfold dropSemicolon
  split <;> simp

theorem length_number?_le {base : Nat} {isDigit : Char → Bool} {s denoted rest : List Char}
    (h : number? base isDigit s = some (denoted, rest)) : rest.length ≤ s.length := by
  unfold number? at h
  split at h
  · simp at h
  · simp only [Option.some.injEq, Prod.mk.injEq] at h
    have h1 := length_dropSemicolon_le (s.dropWhile isDigit)
    have h2 := length_dropWhile_le isDigit s
    rw [← h.2]
    omega

theorem length_numeric?_le {s denoted rest : List Char} (h : numeric? s = some (denoted, rest)) :
    rest.length ≤ s.length := by
  unfold numeric? at h
  split at h
  · exact Nat.le_succ_of_le (length_number?_le h)
  · exact Nat.le_succ_of_le (length_number?_le h)
  · exact length_number?_le h

theorem length_longestName?_le {s rest : List Char} {entry : String × List Nat}
    (h : longestName? s = some (entry, rest)) : rest.length ≤ s.length := by
  obtain ⟨candidate, _, hc⟩ := List.exists_of_findSome?_eq_some h
  obtain ⟨found, hf, heq⟩ := Option.map_eq_some_iff.1 hc
  have := length_dropPrefix?_le hf
  simp only [Prod.mk.injEq] at heq
  rw [← heq.2]
  omega

/-- What follows a reference is no longer than what follows its ampersand. -/
theorem length_reference?_le {inAttribute : Bool} {s denoted rest : List Char}
    (h : reference? inAttribute s = some (denoted, rest)) : rest.length ≤ s.length := by
  unfold reference? at h
  split at h
  · exact Nat.le_succ_of_le (length_numeric?_le h)
  · unfold named? at h
    split at h
    · simp at h
    · rename_i entry found hn
      split at h
      · simp at h
      · simp only [Option.some.injEq, Prod.mk.injEq] at h
        rw [← h.2]
        exact length_longestName?_le hn

/-- The text with every reference resolved. Each ampersand is looked at once: what a reference denotes
is not read again. -/
def resolve (inAttribute : Bool) (s : List Char) : List Char :=
  match s with
  | [] => []
  | c :: cs =>
    if c = '&' then
      match _found : reference? inAttribute cs with
      | some (denoted, rest) => denoted ++ resolve inAttribute rest
      | none => '&' :: resolve inAttribute cs
    else c :: resolve inAttribute cs
termination_by s.length
decreasing_by
  · have := length_reference?_le _found
    simp only [List.length_cons]
    omega
  · simp
  · simp

end MarkupModule.Markup.Reference
