import MarkupModule.Markup.Construction
import MarkupModule.Markup.RootTags

/-! A component document: the tree that the source is read into, cut at its top-level nodes. Document
elements that the source does not spell out are stepped through, so that their children count as
top-level nodes and a fragment has the nodes that are written in it. -/

namespace MarkupModule

open Markup

/-- A document with the document elements that its source spells out. -/
structure Document where
  nodes : List Node
  roots : RootTags

namespace Document

def parse (source : String) : Document :=
  { nodes := Construction.parse source, roots := RootTags.scan source }

mutual

def topLevelOf (roots : RootTags) (address : Address) : Node → List Located
  | .element name attributes children =>
    if roots.isImplied name.name then topLevelIn roots address 0 children
    else [⟨address, .element name attributes children⟩]
  | .text content => [⟨address, .text content⟩]
  | .comment content => [⟨address, .comment content⟩]
  | .doctype name publicId systemId => [⟨address, .doctype name publicId systemId⟩]
  | .contents children => [⟨address, .contents children⟩]

/-- The top-level nodes among the children of the node at `address` from position `start` on. -/
def topLevelIn (roots : RootTags) (address : Address) (start : Nat) : List Node → List Located
  | [] => []
  | node :: rest =>
    topLevelOf roots (address ++ [start]) node ++ topLevelIn roots address (start + 1) rest

end

def topLevel (document : Document) : List Located :=
  topLevelIn document.roots [] 0 document.nodes

/-- The node at an address; the document itself is not one of its nodes. -/
def node? (document : Document) : Address → Option Node
  | [] => none
  | i :: rest => (document.nodes[i]?).bind fun node => node.at? rest

/-- The value of an attribute of the node at an address, empty when there is none. -/
def attributeAt (document : Document) (address : Address) (name : String) : String :=
  (document.node? address).elim "" fun node => node.attributeValue name

/-- The texts directly below the node at an address, joined. -/
def innerTextAt (document : Document) (address : Address) : String :=
  (document.node? address).elim "" Node.innerText

end Document

end MarkupModule
