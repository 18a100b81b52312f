import MarkupModule.Document
import MarkupModule.Link.Path

/-! What becomes of the top-level elements of a document. Local links become imports, template modules
are registered, scripts run behind everything else, and all other elements are added to the page. A
template module gives up the local scripts that stand directly in it. -/

namespace MarkupModule

open Markup

/-- What becomes of an element. -/
inductive Role where
  | link
  | inlineScript
  | scriptFile
  | templateModule
  | other
  deriving DecidableEq, Repr, Inhabited

/-- The role of an element of the given name and attributes. -/
def Role.ofElement (name : String) (attributes : List Attribute) : Role :=
  if name == "dom-module" then .templateModule
  else if name == "link" then
    if Link.isExternal ((Attribute.find? attributes "href").getD "") then .other else .link
  else if name == "script" then
    let src := (Attribute.find? attributes "src").getD ""
    if src.isEmpty then .inlineScript
    else if Link.isExternal src then .other
    else .scriptFile
  else .other

def Role.ofNode? (node : Node) : Option Role :=
  node.tag?.map fun name => Role.ofElement name node.attributes

/-- Whether this is the role of a script that becomes part of the module. -/
def Role.isScript : Role → Bool
  | .inlineScript => true
  | .scriptFile => true
  | _ => false

/-- The elements of a document by what becomes of them, each list in document order. -/
structure Partition where
  links : List Located := []
  templateModules : List Located := []
  scripts : List Located := []
  otherNodes : List Located := []
  deriving Inhabited

namespace Partition

/-- The scripts directly in a template module that become part of the generated module. -/
def moduleScripts (module : Located) : List Located :=
  module.children.filter fun child =>
    child.node.tag? == some "script" && (Role.ofNode? child.node).any Role.isScript

/-- The partition with one more top-level node; nodes that are no elements are dropped. -/
def add (p : Partition) (located : Located) : Partition :=
  match Role.ofNode? located.node with
  | none => p
  | some .link => { p with links := p.links ++ [located] }
  | some .inlineScript => { p with scripts := p.scripts ++ [located] }
  | some .scriptFile => { p with scripts := p.scripts ++ [located] }
  | some .templateModule =>
    { p with
      scripts := p.scripts ++ moduleScripts located
      templateModules := p.templateModules ++ [located] }
  | some .other => { p with otherNodes := p.otherNodes ++ [located] }

/-- The partition of a list of top-level nodes. -/
def ofTopLevel (nodes : List Located) : Partition :=
  nodes.foldl add {}

def ofDocument (document : Document) : Partition :=
  ofTopLevel document.topLevel

/-- The places of the scripts, which are left out of all markup. -/
def extracted (p : Partition) : List Address :=
  p.scripts.map (·.address)

/-- Whether the module has markup to register. -/
def needsRegisterHelper (p : Partition) : Bool :=
  !p.templateModules.isEmpty || !p.otherNodes.isEmpty

def size (p : Partition) : Nat :=
  p.links.length + p.templateModules.length + p.scripts.length + p.otherNodes.length

end Partition

end MarkupModule
