/-! The tree that a document is read into. Elements carry a namespace and a local name, attributes a
namespace that only foreign markup uses; the contents of a template are a node of their own, the only
child of the template. A node is found by its *address*, the child positions on the way to it from the
document, so that two nodes of a document are the same exactly when their addresses are, an ancestor is
a shorter address that the other extends, and document order is the order of the addresses. -/

namespace MarkupModule.Markup

/-- The vocabulary that an element belongs to. -/
inductive Namespace where
  | html
  | svg
  | mathml
  deriving DecidableEq, Repr, Inhabited

/-- An element's namespace and its name without a namespace part. -/
structure ElementName where
  space : Namespace
  name : String
  deriving DecidableEq, Repr, Inhabited

/-- The namespace of an attribute, which differs from `plain` in foreign elements only. -/
inductive AttributeSpace where
  | plain
  | xlink
  | xml
  | xmlns
  deriving DecidableEq, Repr, Inhabited

/-- An attribute with its value after character references are resolved. -/
structure Attribute where
  space : AttributeSpace
  name : String
  value : String
  deriving DecidableEq, Repr, Inhabited

/-- The plain attribute with a name and a value. -/
def Attribute.ofPair (written : String × String) : Attribute :=
  ⟨.plain, written.1, written.2⟩

/-- The value of the plain attribute of this name, if it is present. -/
def Attribute.find? (attributes : List Attribute) (name : String) : Option String :=
  (attributes.find? fun a => a.space == .plain && a.name == name).map (·.value)

/-- A node of a document. -/
inductive Node where
  | element (name : ElementName) (attributes : List Attribute) (children : List Node)
  | text (content : String)
  | comment (content : String)
  | doctype (name publicId systemId : String)
  | contents (children : List Node)
  deriving Inhabited

/-- The way to a node: positions among the children, outermost first. -/
abbrev Address := List Nat

namespace Node

def children : Node → List Node
  | element _ _ children => children
  | contents children => children
  | text _ => []
  | comment _ => []
  | doctype _ _ _ => []

def tag? : Node → Option String
  | element name _ _ => some name.name
  | _ => none

/-- The attributes of an element; other nodes have none. -/
def attributes : Node → List Attribute
  | element _ attributes _ => attributes
  | _ => []

/-- The value of a plain attribute, empty when the attribute is missing. -/
def attributeValue (node : Node) (name : String) : String :=
  (Attribute.find? node.attributes name).getD ""

def text? : Node → Option String
  | text content => some content
  | _ => none

/-- The texts directly below this node, joined. -/
def innerText (node : Node) : String :=
  String.join (node.children.filterMap text?)

/-- The node at an address below this one; the empty address is the node itself. -/
def at? (node : Node) : Address → Option Node
  | [] => some node
  | i :: rest => (node.children[i]?).bind fun child => child.at? rest

end Node

/-- A node together with its place in the document. -/
structure Located where
  address : Address
  node : Node
  deriving Inhabited

/-- The nodes of a list with their addresses below the node at `address`, the first of them standing at
position `start` there. -/
def locate (address : Address) (start : Nat) : List Node → List Located
  | [] => []
  | node :: rest => ⟨address ++ [start], node⟩ :: locate address (start + 1) rest

/-- The children of a located node with their own addresses. -/
def Located.children (located : Located) : List Located :=
  locate located.address 0 located.node.children

end MarkupModule.Markup
