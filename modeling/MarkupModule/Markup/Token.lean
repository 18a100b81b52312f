import MarkupModule.Text.Ascii

/-! The tokens that markup is cut into. Names of tags and attributes are in lower case, character
references are resolved, and of attributes with one name only the first is kept. The NUL character is a
token of its own, because what becomes of it depends on where it stands. -/

namespace MarkupModule.Markup

/-- A start tag. -/
structure Tag where
  name : String
  attributes : List (String × String)
  selfClosing : Bool
  deriving DecidableEq, Repr, Inhabited

def Tag.attribute? (tag : Tag) (name : String) : Option String :=
  (tag.attributes.find? fun a => a.1 == name).map (·.2)

/-- A document type declaration; a missing part differs from an empty one. -/
structure DocumentType where
  name : Option String
  publicId : Option String
  systemId : Option String
  forceQuirks : Bool
  deriving DecidableEq, Repr, Inhabited

/-- One token of markup. -/
inductive Token where
  | startTag (tag : Tag)
  | endTag (name : String)
  | text (run : String)
  | nul
  | comment (content : String)
  | doctype (declaration : DocumentType)
  deriving DecidableEq, Repr, Inhabited

/-- How the text that follows is read: as markup, or as the contents of an element that holds text only
and ends at the end tag of the given name. -/
inductive ContentMode where
  | markup
  | referenceText (endTag : String)
  | rawText (endTag : String)
  | scriptText
  | plainText
  deriving DecidableEq, Repr, Inhabited

end MarkupModule.Markup
