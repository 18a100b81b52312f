/-! Line endings. A carriage return ends a line, alone or together with the line feed behind it. -/

namespace MarkupModule.Text

/-- The text with a line feed for every line ending. -/
def normalizeLineEndings : List Char → List Char
  | [] => []
  | '\r' :: '\n' :: rest => '\n' :: normalizeLineEndings rest
  | '\r' :: rest => '\n' :: normalizeLineEndings rest
  | c :: rest => c :: normalizeLineEndings rest

end MarkupModule.Text
