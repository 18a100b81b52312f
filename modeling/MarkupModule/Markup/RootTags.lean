import MarkupModule.Text.Ascii
import MarkupModule.Text.Search

/-! Which of the tags `html`, `head` and `body` a source text spells out. Reading a document always
makes these three elements; a component file rarely has them, and those that it does not spell out are
not its own. The text is scanned on its own, tag by tag, stepping over comments, declarations, end tags,
quoted attribute values and the text of elements that hold no markup. -/

namespace MarkupModule.Markup

open MarkupModule.Text

/-- Which document elements are spelled out. -/
structure RootTags where
  html : Bool := false
  head : Bool := false
  body : Bool := false
  deriving DecidableEq, Repr, Inhabited

namespace RootTags

/-- Elements whose text is not scanned for tags. -/
def textElements : List String := [
  "script", "style", "textarea", "title", "xmp", "iframe", "noembed", "noframes", "noscript"]

def note (roots : RootTags) (name : String) : RootTags :=
  { html := roots.html || name == "html"
    head := roots.head || name == "head"
    body := roots.body || name == "body" }

/-- Whether an element of this name is one that the source does not spell out. -/
def isImplied (roots : RootTags) (name : String) : Bool :=
  (name == "html" && !roots.html) || (name == "head" && !roots.head) ||
    (name == "body" && !roots.body)

/-- Where the scan of a tag stands: a quote opens a value only behind an equals sign. -/
inductive TagScan where
  | plain
  | afterEquals
  | quoted (quote : Char)
  deriving DecidableEq, Repr

/-- The state behind a character that does not end the tag. -/
def TagScan.after : TagScan → Char → TagScan
  | .quoted quote, c => if c = quote then .plain else .quoted quote
  | state, c =>
    if state = .afterEquals && (c == '"' || c == '\'') then .quoted c
    else if c = '=' then .afterEquals
    else if isSpace c then state
    else .plain

def TagScan.ends : TagScan → Char → Bool
  | .quoted _, _ => false
  | _, c => c == '>'

/-- What follows a tag, which ends with the text when it is never closed. -/
def afterTag (state : TagScan) : List Char → List Char
  | [] => []
  | c :: cs => if state.ends c then cs else afterTag (state.after c) cs

def isNameChar (c : Char) : Bool :=
  c.isAlphanum || c == '-'

/-- What is left to scan behind the tag of an element. -/
def afterElement (name : String) (rest : List Char) : List Char :=
  if textElements.contains name then (cutBefore ("</" ++ name).toList rest).2 else rest

/-- One step of the scan, on what follows a `<`: the name of a start tag, if this is one, and what is
left to scan. -/
def step (s : List Char) : Option String × List Char :=
  match dropPrefix? "!--".toList s with
  | some rest => (none, dropThrough "-->".toList rest)
  | none =>
    match s with
    | [] => (none, [])
    | c :: _ =>
      if c == '!' || c == '?' || c == '/' then (none, dropThrough ">".toList s)
      else if c.isAlpha then
        let name := String.ofList (s.takeWhile isNameChar)
        (some name, afterElement name (afterTag .plain (s.dropWhile isNameChar)))
      else (none, s)

theorem length_afterTag_le (state : TagScan) (s : List Char) :
    (afterTag state s).length ≤ s.length := by
  induction s generalizing state with
  | nil => simp [afterTag]
  | cons c cs ih =>
    simp only [afterTag]
    split
    · simp
    · exact Nat.le_succ_of_le (ih _)

theorem length_afterElement_le (name : String) (rest : List Char) :
    (afterElement name rest).length ≤ rest.length := by
  unfold afterElement
  split
  · exact length_cutBefore_le _ _
  · exact Nat.le_refl _

theorem length_step_le (s : List Char) : (step s).2.length ≤ s.length := by
  unfold step
  split
  · rename_i rest h
    have h1 := length_dropPrefix?_le h
    have h2 := length_dropThrough_le "-->".toList rest
    simp only
    omega
  · cases s with
    | nil => simp
    | cons c cs =>
      simp only
      split
      · exact length_dropThrough_le _ _
      · split
        · have h1 := length_afterElement_le (String.ofList ((c :: cs).takeWhile isNameChar))
            (afterTag .plain ((c :: cs).dropWhile isNameChar))
          have h2 := length_afterTag_le .plain ((c :: cs).dropWhile isNameChar)
          have h3 : ((c :: cs).dropWhile isNameChar).length ≤ (c :: cs).length :=
            (List.dropWhile_suffix _).length_le
          simp only
          omega
        · exact Nat.le_refl _

/-- The names of the start tags that the scan sees, in order. -/
def tagNames (s : List Char) : List String :=
  match _found : s.dropWhile (· != '<') with
  | [] => []
  | _ :: rest => (step rest).1.toList ++ tagNames (step rest).2
termination_by s.length
decreasing_by
  have h1 := length_step_le rest
  have h2 : (s.dropWhile (· != '<')).length ≤ s.length := (List.dropWhile_suffix _).length_le
  rw [_found, List.length_cons] at h2
  omega

/-- The document elements that a source text spells out, in any case. -/
def scan (source : String) : RootTags :=
  (tagNames (lower source.toList)).foldl note {}

end RootTags

end MarkupModule.Markup
