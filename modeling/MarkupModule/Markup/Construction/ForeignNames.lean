import MarkupModule.Text.Ascii
import MarkupModule.Markup.Node
import MarkupModule.Markup.Token

/-! Names in foreign markup. Tags are read in lower case; drawing and mathematical markup have names in
mixed case, and some attributes with a namespace written in front of a colon. -/

namespace MarkupModule.Markup.Construction

open MarkupModule.Text

/-- The names of drawing elements that have capitals. -/
def drawingElementNames : List String := [
  "altGlyph", "altGlyphDef", "altGlyphItem", "animateColor", "animateMotion", "animateTransform",
  "clipPath", "feBlend", "feColorMatrix", "feComponentTransfer", "feComposite", "feConvolveMatrix",
  "feDiffuseLighting", "feDisplacementMap", "feDistantLight", "feDropShadow", "feFlood", "feFuncA",
  "feFuncB", "feFuncG", "feFuncR", "feGaussianBlur", "feImage", "feMerge", "feMergeNode",
  "feMorphology", "feOffset", "fePointLight", "feSpecularLighting", "feSpotLight", "feTile",
  "feTurbulence", "foreignObject", "glyphRef", "linearGradient", "radialGradient", "textPath"]

/-- The names of drawing attributes that have capitals. -/
def drawingAttributeNames : List String := [
  "attributeName", "attributeType", "baseFrequency", "baseProfile", "calcMode", "clipPathUnits",
  "diffuseConstant", "edgeMode", "filterUnits", "glyphRef", "gradientTransform", "gradientUnits",
  "kernelMatrix", "kernelUnitLength", "keyPoints", "keySplines", "keyTimes", "lengthAdjust",
  "limitingConeAngle", "markerHeight", "markerUnits", "markerWidth", "maskContentUnits", "maskUnits",
  "numOctaves", "pathLength", "patternContentUnits", "patternTransform", "patternUnits", "pointsAtX",
  "pointsAtY", "pointsAtZ", "preserveAlpha", "preserveAspectRatio", "primitiveUnits", "refX", "refY",
  "repeatCount", "repeatDur", "requiredExtensions", "requiredFeatures", "specularConstant",
  "specularExponent", "spreadMethod", "startOffset", "stdDeviation", "stitchTiles", "surfaceScale",
  "systemLanguage", "tableValues", "targetX", "targetY", "textLength", "viewBox", "viewTarget",
  "xChannelSelector", "yChannelSelector", "zoomAndPan"]

/-- The spelling in a list of names for a name in lower case, which is kept when the list does not
have it. -/
def respell (spellings : List String) (name : String) : String :=
  (spellings.find? fun spelling => lowerName spelling == name).getD name

/-- The name of a foreign element for the name of a tag. -/
def foreignElementName (space : Namespace) (name : String) : String :=
  match space with
  | .svg => respell drawingElementNames name
  | _ => name

/-- The name of a foreign attribute, before its namespace is looked at. -/
def foreignAttributeName (space : Namespace) (name : String) : String :=
  match space with
  | .svg => respell drawingAttributeNames name
  | .mathml => respell ["definitionURL"] name
  | .html => name

/-- The attributes that have a namespace, with their local names. -/
def spacedAttributes : List (String × AttributeSpace × String) := [
  ("xlink:actuate", .xlink, "actuate"), ("xlink:arcrole", .xlink, "arcrole"),
  ("xlink:href", .xlink, "href"), ("xlink:role", .xlink, "role"), ("xlink:show", .xlink, "show"),
  ("xlink:title", .xlink, "title"), ("xlink:type", .xlink, "type"), ("xml:lang", .xml, "lang"),
  ("xml:space", .xml, "space"), ("xmlns", .xmlns, "xmlns"), ("xmlns:xlink", .xmlns, "xlink")]

def foreignAttribute (space : Namespace) (written : String × String) : Attribute :=
  let name := foreignAttributeName space written.1
  match spacedAttributes.find? fun entry => entry.1 == name with
  | some (_, attributeSpace, localName) => ⟨attributeSpace, localName, written.2⟩
  | none => ⟨.plain, name, written.2⟩

end MarkupModule.Markup.Construction
