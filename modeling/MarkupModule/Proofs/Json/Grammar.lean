import MarkupModule.Json.Cursor
import MarkupModule.Text.Ascii
import Mathlib.Data.List.Basic

/-! The texts that are JSON values, said without a reader: a word, a number, a literal, or a list or an
object whose parts stand between commas, with white space around every token. A literal may escape what
needs no escape, and an escape by number may name one half of a surrogate pair. -/

namespace MarkupModule.Json

open MarkupModule.Text

/-! ### White space and commas -/

/-- White space between tokens, which may be none. -/
def IsBlank (s : List Char) : Prop := ∀ c ∈ s, Cursor.isSpace c = true

instance (s : List Char) : Decidable (IsBlank s) :=
  decidable_of_iff (s.all Cursor.isSpace = true) List.all_eq_true

theorem isBlank_nil : IsBlank [] := by
  intro c hc
  cases hc

/-- Parts with a comma between each two of them and white space around every one. They are the first ones
of their list or object, or come behind another part of it. -/
inductive Listed : (isFirst : Bool) → List (List Char) → List Char → Prop
  | none {isFirst : Bool} {blank : List Char} (hblank : IsBlank blank) : Listed isFirst [] blank
  | first {front part s : List Char} {parts : List (List Char)} (hfront : IsBlank front)
      (hmore : Listed false parts s) : Listed true (part :: parts) (front ++ (part ++ s))
  | more {behind front part s : List Char} {parts : List (List Char)} (hbehind : IsBlank behind)
      (hfront : IsBlank front) (hmore : Listed false parts s) :
      Listed false (part :: parts) (behind ++ ',' :: (front ++ (part ++ s)))

/-- Parts with commas between them and no white space. -/
def separated : List (List Char) → List Char
  | [] => []
  | part :: parts => part ++ parts.flatMap fun part => ',' :: part

theorem listed_flatMap (parts : List (List Char)) :
    Listed false parts (parts.flatMap fun part => ',' :: part) := by
  induction parts with
  | nil => exact .none isBlank_nil
  | cons part parts ih => exact .more isBlank_nil isBlank_nil ih

theorem listed_separated (parts : List (List Char)) : Listed true parts (separated parts) := by
  cases parts with
  | nil => exact .none isBlank_nil
  | cons part parts => exact .first isBlank_nil (listed_flatMap parts)

/-! ### Numbers -/

def IsDigits (s : List Char) : Prop := s ≠ [] ∧ ∀ c ∈ s, c.isDigit = true

instance (s : List Char) : Decidable (IsDigits s) :=
  decidable_of_iff (s ≠ [] ∧ s.all Char.isDigit = true) (and_congr_right fun _ => List.all_eq_true)

/-- The digits in front of the point: a zero stands alone. -/
def IsInteger (s : List Char) : Prop := s = ['0'] ∨ IsDigits s ∧ s.head? ≠ some '0'

def IsFraction (s : List Char) : Prop := s = [] ∨ ∃ digits, IsDigits digits ∧ s = '.' :: digits

def IsExponent (s : List Char) : Prop :=
  s = [] ∨ ∃ letter ∈ ['e', 'E'], ∃ sign ∈ [[], ['+'], ['-']], ∃ digits,
    IsDigits digits ∧ s = letter :: (sign ++ digits)

def IsNumber (s : List Char) : Prop :=
  ∃ sign ∈ [[], ['-']], ∃ integer fraction exponent, IsInteger integer ∧ IsFraction fraction ∧
    IsExponent exponent ∧ s = sign ++ (integer ++ (fraction ++ exponent))

/-! ### Literals -/

/-- What may stand between the quotes of a literal. -/
inductive IsLiteralBody : List Char → Prop
  | nil : IsLiteralBody []
  | plain {c : Char} {body : List Char} (hquote : c ≠ '"') (hslash : c ≠ '\\') (hcontrol : 0x20 ≤ c.toNat)
      (hbody : IsLiteralBody body) : IsLiteralBody (c :: body)
  | letter {c : Char} {body : List Char} (hletter : c ∈ ['"', '\\', '/', 'b', 'f', 'n', 'r', 't'])
      (hbody : IsLiteralBody body) : IsLiteralBody ('\\' :: c :: body)
  | digits {a b c d : Char} {body : List Char} (hdigits : [a, b, c, d].all isHexDigit = true)
      (hbody : IsLiteralBody body) : IsLiteralBody ('\\' :: 'u' :: a :: b :: c :: d :: body)

def IsLiteral (s : List Char) : Prop := ∃ body, IsLiteralBody body ∧ s = '"' :: (body ++ ['"'])

/-! ### Values -/

/-- A member of an object as it is written: the literal of its name, its value, and the white space on
both sides of the colon between them. -/
structure Member where
  name : List Char
  value : List Char
  beforeColon : List Char := []
  behindColon : List Char := []
  isBlank_beforeColon : IsBlank beforeColon := by decide
  isBlank_behindColon : IsBlank behindColon := by decide

def Member.text (member : Member) : List Char :=
  member.name ++ (member.beforeColon ++ ':' :: (member.behindColon ++ member.value))

inductive IsValue : List Char → Prop
  | word {s : List Char} (hword : s ∈ ["null".toList, "true".toList, "false".toList]) : IsValue s
  | number {s : List Char} (hnumber : IsNumber s) : IsValue s
  | literal {s : List Char} (hliteral : IsLiteral s) : IsValue s
  | list {items : List (List Char)} {s : List Char} (hitems : ∀ item ∈ items, IsValue item)
      (hlisted : Listed true items s) : IsValue ('[' :: (s ++ [']']))
  | object {members : List Member} {s : List Char} (hnames : ∀ member ∈ members, IsLiteral member.name)
      (hvalues : ∀ member ∈ members, IsValue member.value)
      (hlisted : Listed true (members.map Member.text) s) : IsValue ('\x7b' :: (s ++ ['\x7d']))

end MarkupModule.Json
