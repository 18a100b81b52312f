import MarkupModule.Markup.Node
import MarkupModule.Markup.Token

/-! Groups of elements that the rules of tree construction treat alike. -/

namespace MarkupModule.Markup.Construction

/-- Whether an element belongs to HTML and its name is in a list. -/
def htmlIn (names : List String) (name : ElementName) : Bool :=
  name.space == .html && names.contains name.name

/-- Whether an element is the HTML element of this name. -/
def isHtml (expected : String) (name : ElementName) : Bool :=
  name.space == .html && name.name == expected

/-- The elements whose contents count as HTML although they are mathematical markup. -/
def isMathTextPoint (name : ElementName) : Bool :=
  name.space == .mathml && ["mi", "mo", "mn", "ms", "mtext"].contains name.name

/-- The drawing elements whose contents count as HTML. -/
def isDrawingPoint (name : ElementName) : Bool :=
  name.space == .svg && ["foreignObject", "desc", "title"].contains name.name

/-- Elements that take part in the structure of a page, so that an end tag does not reach across
them. -/
def specialNames : List String := [
  "address", "applet", "area", "article", "aside", "base", "basefont", "bgsound", "blockquote",
  "body", "br", "button", "caption", "center", "col", "colgroup", "dd", "details", "dir", "div",
  "dl", "dt", "embed", "fieldset", "figcaption", "figure", "footer", "form", "frame", "frameset",
  "h1", "h2", "h3", "h4", "h5", "h6", "head", "header", "hgroup", "hr", "html", "iframe", "img",
  "input", "isindex", "li", "link", "listing", "main", "marquee", "menu", "meta", "nav", "noembed",
  "noframes", "noscript", "object", "ol", "p", "param", "plaintext", "pre", "script", "section",
  "select", "source", "style", "summary", "table", "tbody", "td", "template", "textarea", "tfoot",
  "th", "thead", "title", "tr", "track", "ul", "wbr", "xmp"]

/-- Whether an element takes part in the structure of a page. -/
def isSpecial : ElementName → Bool :=
  htmlIn specialNames

/-- Where the search for an open element ends by default. -/
def endsScope (name : ElementName) : Bool :=
  htmlIn ["applet", "caption", "html", "table", "td", "th", "marquee", "object", "template"] name ||
    isMathTextPoint name || isDrawingPoint name

/-- Where the search for an open list item ends. -/
def endsListScope (name : ElementName) : Bool :=
  endsScope name || htmlIn ["ol", "ul"] name

/-- Where the search for an open paragraph ends. -/
def endsButtonScope (name : ElementName) : Bool :=
  endsScope name || isHtml "button" name

/-- Where the search for a part of a table ends. -/
def endsTableScope : ElementName → Bool :=
  htmlIn ["html", "table", "template"]

/-- Where the search for an open selection ends. -/
def endsSelectScope (name : ElementName) : Bool :=
  !htmlIn ["optgroup", "option"] name

def endsImplied : ElementName → Bool :=
  htmlIn ["dd", "dt", "li", "option", "optgroup", "p", "rb", "rp", "rt", "rtc"]

/-- Elements whose end tag may be left out where a template ends. -/
def endsImpliedByTemplate (name : ElementName) : Bool :=
  endsImplied name ||
    htmlIn ["caption", "colgroup", "tbody", "td", "tfoot", "th", "thead", "tr"] name

def headingNames : List String := ["h1", "h2", "h3", "h4", "h5", "h6"]

/-- Elements that hold blocks and close a paragraph. -/
def blockNames : List String := [
  "address", "article", "aside", "blockquote", "center", "details", "dialog", "dir", "div", "dl",
  "fieldset", "figcaption", "figure", "footer", "header", "hgroup", "main", "menu", "nav", "ol", "p",
  "search", "section", "summary", "ul"]

/-- Elements whose end tag closes everything inside them. -/
def closableNames : List String := [
  "address", "article", "aside", "blockquote", "button", "center", "details", "dialog", "dir", "div",
  "dl", "fieldset", "figcaption", "figure", "footer", "header", "hgroup", "listing", "main", "menu",
  "nav", "ol", "pre", "search", "section", "summary", "ul"]

/-- Elements that only change how text looks and are opened again in the next block. -/
def formattingNames : List String := [
  "b", "big", "code", "em", "font", "i", "s", "small", "strike", "strong", "tt", "u"]

/-- Elements that belong into the head of a document. -/
def metadataNames : List String := [
  "base", "basefont", "bgsound", "link", "meta", "noframes", "script", "style", "template", "title"]

/-- The parts of a table that hold rows or columns. -/
def tableGroupNames : List String := ["caption", "col", "colgroup", "tbody", "tfoot", "thead"]

def foreignBreakNames : List String := [
  "b", "big", "blockquote", "body", "br", "center", "code", "dd", "div", "dl", "dt", "em", "embed",
  "h1", "h2", "h3", "h4", "h5", "h6", "head", "hr", "i", "img", "li", "listing", "menu", "meta",
  "nobr", "ol", "p", "pre", "ruby", "s", "small", "span", "strong", "strike", "sub", "sup", "table",
  "tt", "u", "ul", "var"]

end MarkupModule.Markup.Construction
