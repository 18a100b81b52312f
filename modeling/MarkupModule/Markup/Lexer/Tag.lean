import MarkupModule.Markup.Lexer.Comment
import MarkupModule.Markup.Reference

/-! Tags. The part of a tag behind its name is read one character at a time by a small machine that
gathers attributes; the tag ends at the first `>` outside of a quoted value, and a tag that the input
leaves open is no tag. -/

namespace MarkupModule.Markup.Lexer

open MarkupModule.Text

/-- Where the reading of a tag stands. Names and values gathered so far are held last character
first. -/
inductive TagState where
  | between
  | slash
  | name (name : List Char)
  | afterName (name : List Char)
  | beforeValue (name : List Char)
  | quotedValue (name : List Char) (quote : Char) (value : List Char)
  | bareValue (name value : List Char)
  deriving DecidableEq, Repr

/-- What one character does: it moves the machine on or closes the tag, and in either case it may
complete an attribute. -/
inductive TagStep where
  | next (state : TagState) (completed : Option (String × String))
  | close (selfClosing : Bool) (completed : Option (String × String))

/-- The attribute with a name and a value that were gathered last character first. -/
def attributeOf (name value : List Char) : String × String :=
  (String.ofList (replaceNul (lower name.reverse)),
    String.ofList (Reference.resolve true (replaceNul value.reverse)))

def TagState.stepBetween (c : Char) : TagStep :=
  if isSpace c then .next .between none
  else if c = '>' then .close false none
  else if c = '/' then .next .slash none
  else .next (.name [c]) none

def TagState.step : TagState → Char → TagStep
  | .between, c => stepBetween c
  | .slash, c => if c = '>' then .close true none else stepBetween c
  | .name n, c =>
    if isSpace c then .next (.afterName n) none
    else if c = '/' then .next .slash (attributeOf n [])
    else if c = '>' then .close false (attributeOf n [])
    else if c = '=' then .next (.beforeValue n) none
    else .next (.name (c :: n)) none
  | .afterName n, c =>
    if isSpace c then .next (.afterName n) none
    else if c = '/' then .next .slash (attributeOf n [])
    else if c = '>' then .close false (attributeOf n [])
    else if c = '=' then .next (.beforeValue n) none
    else .next (.name [c]) (attributeOf n [])
  | .beforeValue n, c =>
    if isSpace c then .next (.beforeValue n) none
    else if c = '"' || c = '\'' then .next (.quotedValue n c []) none
    else if c = '>' then .close false (attributeOf n [])
    else .next (.bareValue n [c]) none
  | .quotedValue n quote v, c =>
    if c = quote then .next .between (attributeOf n v)
    else .next (.quotedValue n quote (c :: v)) none
  | .bareValue n v, c =>
    if isSpace c then .next .between (attributeOf n v)
    else if c = '>' then .close false (attributeOf n v)
    else .next (.bareValue n (c :: v)) none

/-- The part of a tag behind its name. -/
structure TagBody where
  attributes : List (String × String)
  selfClosing : Bool
  rest : List Char

/-- Reads the part of a tag behind its name; nothing when the input ends first. -/
def tagBody? : TagState → List Char → Option TagBody
  | _, [] => none
  | state, c :: cs =>
    match state.step c with
    | .next state' completed =>
      (tagBody? state' cs).map fun body =>
        { body with attributes := completed.toList ++ body.attributes }
    | .close selfClosing completed => some ⟨completed.toList, selfClosing, cs⟩

/-- Of attributes with one name the first is kept. -/
def firstOfEachName : List (String × String) → List (String × String)
  | [] => []
  | a :: rest => a :: (firstOfEachName rest).filter (·.1 != a.1)

/-- Whether a character ends the name of a tag. -/
def endsTagName (c : Char) : Bool :=
  isSpace c || c == '/' || c == '>'

/-- A tag, read from the first character of its name. -/
def tag? (s : List Char) : Option (Tag × List Char) :=
  let name := s.takeWhile fun c => !endsTagName c
  (tagBody? .between (s.dropWhile fun c => !endsTagName c)).map fun body =>
    (⟨String.ofList (replaceNul (lower name)), firstOfEachName body.attributes, body.selfClosing⟩,
      body.rest)

theorem length_tagBody?_lt {state : TagState} {s : List Char} {body : TagBody}
    (h : tagBody? state s = some body) : body.rest.length < s.length := by
  induction s generalizing state body with
  | nil => simp [tagBody?] at h
  | cons c cs ih =>
    simp only [tagBody?] at h
    split at h
    · obtain ⟨inner, hi, rfl⟩ := Option.map_eq_some_iff.1 h
      have := ih hi
      simp only [List.length_cons]
      omega
    · simp only [Option.some.injEq] at h
      subst h
      simp

/-- What follows a tag is shorter than the tag with it. -/
theorem length_tag?_lt {s rest : List Char} {tag : Tag} (h : tag? s = some (tag, rest)) :
    rest.length < s.length := by
  obtain ⟨body, hb, heq⟩ := Option.map_eq_some_iff.1 h
  have h1 := length_tagBody?_lt hb
  have h2 : (s.dropWhile fun c => !endsTagName c).length ≤ s.length :=
    (List.dropWhile_suffix _).length_le
  simp only [Prod.mk.injEq] at heq
  rw [← heq.2]
  omega

end MarkupModule.Markup.Lexer
