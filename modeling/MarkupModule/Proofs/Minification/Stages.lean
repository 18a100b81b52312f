import MarkupModule.Proofs.Minification.Markup

/-! Minification in stages. Each stage changes a list of sibling nodes and all lists below it: the first
one cuts away what is left out, the second one comments, the third one replaces styles and classes, which
may fail, and the last one white space. What is left is the markup that is written. -/

namespace MarkupModule.Markup

open MarkupModule.Text

/-! ### Nodes that are left out -/

mutual

/-- What remains of a node: nothing if it is left out or a document type, and in place of the contents of
a template what remains of their nodes. -/
def kept (skips : Address → Bool) (address : Address) : Node → List Node
  | .element name attributes children =>
    if skips address then [] else [.element name attributes (keptOf skips address 0 children)]
  | .text content => if skips address then [] else [.text content]
  | .comment content => if skips address then [] else [.comment content]
  | .doctype _ _ _ => []
  | .contents children => if skips address then [] else keptOf skips address 0 children

/-- What remains of the nodes below an address from position `start` on. -/
def keptOf (skips : Address → Bool) (address : Address) (start : Nat) : List Node → List Node
  | [] => []
  | node :: rest => kept skips (address ++ [start]) node ++ keptOf skips address (start + 1) rest

end

/-! ### Comments -/

/-- Whether a node is a comment that is dropped. -/
def Minification.dropsComment (m : Minification) : Node → Bool
  | .comment content => m.removeComments && !isKeptComment content
  | _ => false

mutual

def Node.uncommented (m : Minification) : Node → Node
  | .element name attributes children => .element name attributes (uncommentedOf m children)
  | node => node

/-- A list of nodes without the comments that are dropped. -/
def uncommentedOf (m : Minification) : List Node → List Node
  | [] => []
  | node :: rest =>
    if m.dropsComment node then uncommentedOf m rest else node.uncommented m :: uncommentedOf m rest

end

/-! ### Styles and classes -/

mutual

/-- The node with the values of its attributes and its style sheet replaced. An element without an end tag
has nothing below it, and one that holds no markup no more than its text. -/
def Writer.minified (w : Writer) : Node → Except Failure Node
  | .element name attributes children => do
    let attributes ← attributes.mapM w.minifiedAttribute
    if voidNames.contains name.name then .ok (.element name attributes [])
    else if rawTextNames.contains name.name then
      let body ← w.minifiedBody name.name (textOf children)
      .ok (.element name attributes [.text (String.ofList body)])
    else
      let children ← w.minifiedOf children
      .ok (.element name attributes children)
  | node => .ok node

/-- The nodes of a list, minified one after the other; the first failure is that of the list. -/
def Writer.minifiedOf (w : Writer) : List Node → Except Failure (List Node)
  | [] => .ok []
  | node :: rest => do
    let first ← w.minified node
    let others ← w.minifiedOf rest
    .ok (first :: others)

end

/-! ### White space -/

/-- Whether a node is a text that is dropped because it is blank. -/
def Minification.dropsText (m : Minification) (node : Node) : Bool :=
  !m.conservativeCollapse && node.text?.any fun content => isBlank content.toList

/-- A list of nodes with one text for all that stand next to each other. -/
def joinTexts : List Node → List Node
  | [] => []
  | .text content :: rest =>
    match joinTexts rest with
    | .text more :: others => .text (content ++ more) :: others
    | others => .text content :: others
  | node :: rest => node :: joinTexts rest

def Node.collapseText : Node → Node
  | .text content => .text (String.ofList (collapse content.toList))
  | node => node

/-- A list of nodes without blank texts, with the others joined and their white space collapsed. -/
def collapseTexts (m : Minification) (nodes : List Node) : List Node :=
  (joinTexts (nodes.filter fun node => !m.dropsText node)).map Node.collapseText

mutual

/-- The node with the white space below it collapsed, but for elements that keep theirs. -/
def Node.collapsed (m : Minification) : Node → Node
  | .element name attributes children =>
    if keepsWhitespace name.name || rawTextNames.contains name.name then
      .element name attributes children
    else .element name attributes (collapseTexts m (collapsedEach m children))
  | node => node

def collapsedEach (m : Minification) : List Node → List Node
  | [] => []
  | node :: rest => node.collapsed m :: collapsedEach m rest

end

/-- A list of nodes with white space collapsed, if it is to be. -/
def collapsedOf (m : Minification) (nodes : List Node) : List Node :=
  if m.collapseWhitespace then collapseTexts m (collapsedEach m nodes) else nodes

/-- Writes a node in stages. -/
def Writer.writeInStages (w : Writer) (located : Located) : Except Failure String := do
  let remaining := kept w.skips located.address located.node
  let replaced ← w.minifiedOf (uncommentedOf w.minification remaining)
  .ok (String.ofList (markupOf (collapsedOf w.minification replaced)))

end MarkupModule.Markup
