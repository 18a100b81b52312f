import MarkupModule.Markup.Node

/-! The tree while it grows. Each element has a serial number, by which the elements that are still open
are found again; a finished branch is the node that it stands for, without the numbers. Text that is
added behind text joins it. -/

namespace MarkupModule.Markup.Construction

/-- A part of the tree under construction. -/
inductive Branch where
  | element (serial : Nat) (name : ElementName) (attributes : List Attribute)
      (children : List Branch)
  | text (content : String)
  | comment (content : String)
  | doctype (name publicId systemId : String)
  | contents (children : List Branch)
  deriving Inhabited

namespace Branch

/-- Whether this is the element with a serial number. -/
def hasSerial (serial : Nat) : Branch → Bool
  | element k _ _ _ => k == serial
  | _ => false

mutual

def toNode : Branch → Node
  | element _ name attributes children => .element name attributes (toNodes children)
  | text content => .text content
  | comment content => .comment content
  | doctype name publicId systemId => .doctype name publicId systemId
  | contents children => .contents (toNodes children)

/-- The finished nodes of a list of branches. -/
def toNodes : List Branch → List Node
  | [] => []
  | b :: bs => b.toNode :: toNodes bs

end

/-- A list of branches with one more at its end; text joins text. -/
def append (new : Branch) : List Branch → List Branch
  | [] => [new]
  | [text content] =>
    match new with
    | text more => [text (content ++ more)]
    | _ => [text content, new]
  | b :: bs => b :: append new bs

/-- A list of branches with one more before the element with a serial number; text joins the text
before it. -/
def insertBefore (serial : Nat) (new : Branch) (bs : List Branch) : List Branch :=
  append new (bs.takeWhile fun b => !b.hasSerial serial) ++
    bs.dropWhile fun b => !b.hasSerial serial

mutual

/-- The branch with the children of one element changed. -/
def adjust (serial : Nat) (change : List Branch → List Branch) : Branch → Branch
  | element k name attributes children =>
    if k = serial then element k name attributes (change children)
    else element k name attributes (adjustAll serial change children)
  | contents children => contents (adjustAll serial change children)
  | text content => text content
  | comment content => comment content
  | doctype name publicId systemId => doctype name publicId systemId

/-- The branches with the children of one element changed. -/
def adjustAll (serial : Nat) (change : List Branch → List Branch) : List Branch → List Branch
  | [] => []
  | b :: bs => b.adjust serial change :: adjustAll serial change bs

end

mutual

/-- The branch with another one inserted before the element with a serial number, if that is in it. -/
def insertInside (serial : Nat) (new : Branch) : Branch → Branch
  | element k name attributes children =>
    element k name attributes
      (if children.any (hasSerial serial) then insertBefore serial new children
      else insertInsideEach serial new children)
  | contents children =>
    contents
      (if children.any (hasSerial serial) then insertBefore serial new children
      else insertInsideEach serial new children)
  | text content => text content
  | comment content => comment content
  | doctype name publicId systemId => doctype name publicId systemId

/-- Each of the branches with the new one inserted where it belongs. -/
def insertInsideEach (serial : Nat) (new : Branch) : List Branch → List Branch
  | [] => []
  | b :: bs => insertInside serial new b :: insertInsideEach serial new bs

end

mutual

/-- The element with a serial number, if it is in the branch. -/
def find? (serial : Nat) : Branch → Option Branch
  | element k name attributes children =>
    if k = serial then some (element k name attributes children) else findAny? serial children
  | contents children => findAny? serial children
  | text _ => none
  | comment _ => none
  | doctype _ _ _ => none

/-- The element with a serial number, if it is in one of the branches. -/
def findAny? (serial : Nat) : List Branch → Option Branch
  | [] => none
  | b :: bs => (b.find? serial).or (findAny? serial bs)

end

mutual

/-- The branch without the element with a serial number. -/
def remove (serial : Nat) : Branch → Branch
  | element k name attributes children => element k name attributes (removeFrom serial children)
  | contents children => contents (removeFrom serial children)
  | text content => text content
  | comment content => comment content
  | doctype name publicId systemId => doctype name publicId systemId

/-- The branches without the element with a serial number. -/
def removeFrom (serial : Nat) : List Branch → List Branch
  | [] => []
  | b :: bs => if b.hasSerial serial then bs else b.remove serial :: removeFrom serial bs

end

mutual

/-- The branch with attributes added to the element with a serial number, unless it has them. -/
def addAttributes (serial : Nat) (added : List Attribute) : Branch → Branch
  | element k name attributes children =>
    if k = serial then
      element k name
        (attributes ++ added.filter fun a =>
          !attributes.any fun old => old.space == a.space && old.name == a.name)
        children
    else element k name attributes (addAttributesIn serial added children)
  | contents children => contents (addAttributesIn serial added children)
  | text content => text content
  | comment content => comment content
  | doctype name publicId systemId => doctype name publicId systemId

/-- The branches with attributes added to one of their elements. -/
def addAttributesIn (serial : Nat) (added : List Attribute) : List Branch → List Branch
  | [] => []
  | b :: bs => b.addAttributes serial added :: addAttributesIn serial added bs

end

/-- A branch added to the contents of a template, given the children of the template. -/
def appendToContents (new : Branch) : List Branch → List Branch
  | [] => []
  | contents children :: rest => contents (append new children) :: rest
  | b :: rest => b :: appendToContents new rest

end Branch

end MarkupModule.Markup.Construction
