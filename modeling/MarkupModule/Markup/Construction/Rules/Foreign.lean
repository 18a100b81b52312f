import MarkupModule.Markup.Construction.Rules.Other

/-! The rules for foreign markup: drawings and mathematics. An HTML block in it ends it. -/

namespace MarkupModule.Markup.Construction.Builder

def isCharacters : Event → Bool
  | .blank _ => true
  | .words _ => true
  | .nul => true
  | _ => false

/-- Whether an event is a start tag whose name satisfies a condition. -/
def isStartTag (condition : String → Bool) : Event → Bool
  | .startTag tag => condition tag.name
  | _ => false

/-- Whether an event is read by the rules for foreign markup: the innermost open element is foreign, and
it is not one of those whose contents count as HTML for this event. -/
def readsForeign (b : Builder) (event : Event) : Bool :=
  match b.openElements with
  | [] => false
  | e :: _ =>
    let mathText :=
      isMathTextPoint e.name &&
        (isCharacters event || isStartTag (fun n => n != "mglyph" && n != "malignmark") event)
    let drawing := isDrawingPoint e.name && (isCharacters event || isStartTag (fun _ => true) event)
    let drawingInMath :=
      e.name == ⟨.mathml, "annotation-xml"⟩ && isStartTag (fun n => n == "svg") event
    e.name.space != .html && event != .endOfInput && !mathText && !drawing && !drawingInMath

/-- Whether the innermost open element is foreign; only then are there character data sections. -/
def allowsSections (b : Builder) : Bool :=
  b.currentIs fun name => name.space != .html

def leaveForeign (b : Builder) (event : Event) : Outcome :=
  (b.popTo fun name => name.space == .html || isMathTextPoint name || isDrawingPoint name).byMode event

/-- A foreign element inside a foreign element. -/
def foreignStart (b : Builder) (tag : Tag) : Outcome :=
  match b.openElements with
  | [] => .done b
  | e :: _ =>
    .done (b.openForeign e.name.space
      { tag with name := foreignElementName e.name.space tag.name })

/-- The end tag of a foreign element closes the innermost element of its name; when an HTML element is
met first, the tag is read as HTML. -/
def foreignEnd (b : Builder) (name : String) (innermost : Bool) : List OpenElement → Outcome
  | [] => .done b
  | [_] => .done b
  | e :: around :: rest =>
    if !innermost && e.name.space == .html then b.byMode (.endTag name)
    else if Text.lowerName e.name.name == Text.lowerName name then
      .done { b with openElements := around :: rest }
    else foreignEnd b name false (around :: rest)

def inForeign (b : Builder) (event : Event) : Outcome :=
  match event with
  | .nul => .done (b.addText "\uFFFD")
  | .blank run => .done (b.addText run)
  | .words run => .done (b.forbidFrameset.addText run)
  | .comment content => .done (b.addComment content)
  | .startTag tag =>
    let coloured := tag.attributes.any fun a => ["color", "face", "size"].contains a.1
    if foreignBreakNames.contains tag.name || (tag.name == "font" && coloured) then
      b.leaveForeign event
    else b.foreignStart tag
  | .endTag name =>
    if ["br", "p"].contains name then b.leaveForeign event
    else b.foreignEnd name true b.openElements
  | .endOfInput => .done b

end MarkupModule.Markup.Construction.Builder
