import MarkupModule.Style.Grammar

/-! The properties that are known, each with the grammar of its values, and how they belong together: some
are written behind all others in a fixed order, and some are the sides of a property that sets them all at
once. -/

namespace MarkupModule.Style

open MarkupModule.Text MarkupModule.Style.Grammar

/-- The four sides of a property, each behind a stem. -/
def sidesOf (stem : String) : List String :=
  ["top", "right", "bottom", "left"].map (stem ++ ·)

def colorProperties : List String :=
  ["color", "background-color", "outline-color", "text-decoration-color", "text-emphasis-color"] ++
    ["border-block-start-color", "border-block-end-color", "border-inline-start-color",
      "border-inline-end-color"] ++
    (sidesOf "border-").map (· ++ "-color")

/-- Properties whose values are one length or percentage, or `auto`. -/
def extentProperties : List String :=
  sidesOf "margin-" ++ sidesOf "padding-" ++ sidesOf "" ++ sidesOf "scroll-padding-" ++
    ["margin-block-start", "margin-block-end", "margin-inline-start", "margin-inline-end",
      "padding-block-start", "padding-block-end", "padding-inline-start", "padding-inline-end",
      "inset-block-start", "inset-block-end", "inset-inline-start", "inset-inline-end", "flex-basis"]

def sizeProperties : List String := [
  "width", "min-width", "max-width", "height", "min-height", "max-height", "block-size",
  "min-block-size", "max-block-size", "inline-size", "min-inline-size", "max-inline-size"]

def sizeWords : List String := ["auto", "none", "min-content", "max-content", "fit-content", "contain"]

def flowDirections : List String := ["row", "row-reverse", "column", "column-reverse"]

/-- The words for where a box stands in the one around it, along both directions. -/
def alignments : List String := [
  "normal", "stretch", "center", "start", "end", "flex-start", "flex-end", "baseline", "space-between",
  "space-around", "space-evenly"]

/-- Properties whose values are single words, with the words. -/
def wordProperties : List (String × List String) := [
  ("display", ["none", "contents", "block", "inline", "inline-block", "list-item", "flex", "inline-flex",
    "grid", "inline-grid", "table", "inline-table", "table-row-group", "table-header-group",
    "table-footer-group", "table-row", "table-cell", "table-column-group", "table-column",
    "table-caption", "ruby-base", "ruby-text", "ruby-base-container", "ruby-text-container", "ruby",
    "flow-root", "run-in"]),
  ("visibility", ["visible", "hidden", "collapse"]),
  ("position", ["static", "relative", "absolute", "sticky", "fixed"]),
  ("box-sizing", ["content-box", "border-box"]),
  ("overflow-x", ["visible", "hidden", "clip", "scroll", "auto"]),
  ("overflow-y", ["visible", "hidden", "clip", "scroll", "auto"]),
  ("text-overflow", ["clip", "ellipsis"]),
  ("text-align", ["start", "end", "left", "right", "center", "justify", "match-parent", "justify-all"]),
  ("text-transform", ["none", "uppercase", "lowercase", "capitalize"]),
  ("white-space", ["normal", "pre", "nowrap", "pre-wrap", "break-spaces", "pre-line"]),
  ("word-break", ["normal", "keep-all", "break-all", "break-word"]),
  ("overflow-wrap", ["normal", "anywhere", "break-word"]),
  ("word-wrap", ["normal", "anywhere", "break-word"]),
  ("font-style", ["normal", "italic", "oblique"]),
  ("flex-direction", flowDirections),
  ("flex-wrap", ["nowrap", "wrap", "wrap-reverse"]),
  ("align-items", ["normal", "stretch", "center", "start", "end", "self-start", "self-end", "flex-start",
    "flex-end", "baseline"]),
  ("align-self", ["auto", "normal", "stretch", "center", "start", "end", "self-start", "self-end",
    "flex-start", "flex-end", "baseline"]),
  ("align-content", ["normal", "stretch", "center", "start", "end", "flex-start", "flex-end", "baseline",
    "space-between", "space-around", "space-evenly"]),
  ("justify-content", ["normal", "stretch", "center", "start", "end", "flex-start", "flex-end", "left",
    "right", "space-between", "space-around", "space-evenly"]),
  ("justify-items", ["normal", "stretch", "center", "start", "end", "flex-start", "flex-end", "left",
    "right", "baseline", "legacy"]),
  ("justify-self", ["auto", "normal", "stretch", "center", "start", "end", "flex-start", "flex-end",
    "left", "right", "baseline"]),
  ("cursor", ["auto", "default", "none", "context-menu", "help", "pointer", "progress", "wait", "cell",
    "crosshair", "text", "vertical-text", "alias", "copy", "move", "no-drop", "not-allowed", "grab",
    "grabbing", "e-resize", "n-resize", "ne-resize", "nw-resize", "s-resize", "se-resize", "sw-resize",
    "w-resize", "ew-resize", "ns-resize", "nesw-resize", "nwse-resize", "col-resize", "row-resize",
    "all-scroll", "zoom-in", "zoom-out"]),
  ("resize", ["none", "both", "horizontal", "vertical", "block", "inline"]),
  ("user-select", ["auto", "text", "none", "contain", "all"]),
  ("list-style-position", ["inside", "outside"]),
  ("background-attachment", ["scroll", "fixed", "local"]),
  ("text-decoration-line", ["none", "underline", "overline", "line-through", "blink"]),
  ("text-decoration-style", ["solid", "double", "dotted", "dashed", "wavy"]),
  ("outline-style", "auto" :: lineStyles),
  ("direction", ["ltr", "rtl"]),
  ("unicode-bidi", ["normal", "embed", "isolate", "bidi-override", "isolate-override", "plaintext"]),
  ("fill-rule", ["nonzero", "evenodd"]),
  ("backface-visibility", ["visible", "hidden"])]

/-- Known properties whose values are kept as they are. -/
def unreadProperties : List String := [
  "list-style", "list-style-type", "list-style-image", "transform", "transform-origin",
  "transform-style", "perspective", "perspective-origin", "translate", "rotate", "scale",
  "animation-name", "animation-duration", "animation-timing-function", "animation-iteration-count",
  "animation-direction", "animation-play-state", "animation-delay", "animation-fill-mode",
  "transition-property", "transition-duration", "transition-delay", "transition-timing-function",
  "grid", "grid-template", "grid-template-columns", "grid-template-rows", "grid-template-areas",
  "grid-area", "grid-row", "grid-column", "grid-row-start", "grid-row-end", "grid-column-start",
  "grid-column-end", "grid-auto-rows", "grid-auto-columns", "grid-auto-flow", "filter",
  "backdrop-filter", "clip-path", "mask", "mask-image", "mask-size", "mask-position", "mask-repeat",
  "border-image", "border-image-source", "border-image-slice", "border-image-width",
  "border-image-outset", "border-image-repeat", "border-spacing", "background-position-x",
  "background-position-y", "background-clip", "background-origin", "text-shadow", "text-emphasis",
  "text-indent", "aspect-ratio", "appearance", "container", "container-name", "container-type",
  "color-scheme", "font-stretch", "font-variant-caps", "stroke-dasharray", "scroll-margin",
  "scroll-margin-top", "scroll-margin-right", "scroll-margin-bottom", "scroll-margin-left"]

def shapedProperties : List (String × Shape) := [
  ("margin", sides lengthOrAuto),
  ("padding", sides lengthOrAuto),
  ("inset", sides lengthOrAuto),
  ("scroll-padding", sides lengthOrAuto),
  ("margin-block", twice lengthOrAuto),
  ("margin-inline", twice lengthOrAuto),
  ("padding-block", twice lengthOrAuto),
  ("padding-inline", twice lengthOrAuto),
  ("inset-block", twice lengthOrAuto),
  ("inset-inline", twice lengthOrAuto),
  ("border-color", sides color),
  ("border-style", sides (keyword lineStyles)),
  ("border-width", sides lineWidth),
  ("border-radius", radii),
  ("border-top-left-radius", twice lengthPercentage),
  ("border-top-right-radius", twice lengthPercentage),
  ("border-bottom-right-radius", twice lengthPercentage),
  ("border-bottom-left-radius", twice lengthPercentage),
  ("border", line lineStyles),
  ("border-top", line lineStyles),
  ("border-right", line lineStyles),
  ("border-bottom", line lineStyles),
  ("border-left", line lineStyles),
  ("outline", line ("auto" :: lineStyles)),
  ("outline-width", one lineWidth),
  ("background", backgrounds),
  ("background-image", layers (upTo 1 image)),
  ("background-repeat", layers repetition),
  ("background-position", layers position),
  ("background-size", layers imageSize),
  ("box-shadow", wordOr (keyword ["none"]) (layers shadow)),
  ("opacity", one share),
  ("fill-opacity", one share),
  ("stroke-opacity", one share),
  ("z-index", one (either integer (keyword ["auto"]))),
  ("order", one integer),
  ("flex", flexibility),
  ("flex-flow", fun words => (anyOrder [⟨keyword flowDirections, .word "row"⟩,
    ⟨keyword ["nowrap", "wrap", "wrap-reverse"], .word "nowrap"⟩] (.word "row") words).map ([·])),
  ("place-content", twice (keyword alignments)),
  ("place-items", twice (keyword alignments)),
  ("place-self", twice (keyword alignments)),
  ("flex-grow", one number),
  ("flex-shrink", one number),
  ("overflow", twice (keyword ["visible", "hidden", "clip", "scroll", "auto"])),
  ("gap", twice (either lengthPercentage (keyword ["normal"]))),
  ("row-gap", one (either lengthPercentage (keyword ["normal"]))),
  ("column-gap", one (either lengthPercentage (keyword ["normal"]))),
  ("font", font),
  ("font-family", fontNames),
  ("font-size", one fontSize),
  ("font-weight", one fontWeight),
  ("line-height", one lineHeight),
  ("letter-spacing", one (either length (keyword ["normal"]))),
  ("word-spacing", one (either length (keyword ["normal"]))),
  ("vertical-align", one (either lengthPercentage (keyword ["baseline", "sub", "super", "top", "text-top",
    "middle", "bottom", "text-bottom"]))),
  ("tab-size", one (either number length)),
  ("text-decoration", textLine),
  ("text-decoration-thickness", one (either lengthPercentage (keyword ["auto", "from-font"]))),
  ("transition", layers transition),
  ("animation", layers Grammar.animation),
  ("fill", one (either color (either url (keyword ["none", "context-fill", "context-stroke"])))),
  ("stroke", one (either color (either url (keyword ["none", "context-fill", "context-stroke"])))),
  ("stroke-width", one (either number lengthPercentage)),
  ("caret-color", one (either color (keyword ["auto"]))),
  ("accent-color", one (either color (keyword ["auto"])))]

/-- The grammar of the values of a property that is known. -/
def shapeOf? (property : String) : Option Shape :=
  match shapedProperties.lookup property, wordProperties.lookup property with
  | some shape, _ => some shape
  | none, some words => some (one (keyword words))
  | none, none =>
    if colorProperties.contains property then some (one color)
    else if extentProperties.contains property then some (one lengthOrAuto)
    else if sizeProperties.contains property then
      some (one (either lengthPercentage (keyword sizeWords)))
    else if (sidesOf "border-").any fun side => side ++ "-style" == property then
      some (one (keyword lineStyles))
    else if (sidesOf "border-").any fun side => side ++ "-width" == property then some (one lineWidth)
    else if unreadProperties.contains property then some unread
    else none

/-! ### Properties that belong together -/

/-- A property that sets others at once: the others in the order of its values, how their values make one
of its own, and how its value is taken apart. -/
structure Family where
  shorthand : String
  longhands : List String
  join : List (List Term) → Option (List Term)
  split : List Term → List (List Term)

/-- A family of four sides, each of one term. -/
def Family.ofSides (shorthand : String) (longhands : List String) : Family where
  shorthand := shorthand
  longhands := longhands
  join parts := some (fewSides parts.flatten)
  split terms := (allSides terms).map fun t => [t]

def Family.ofTwo (shorthand first second : String) : Family where
  shorthand := shorthand
  longhands := [first, second]
  join parts := some (fewTwo parts.flatten)
  split terms :=
    match terms with
    | [a] => [[a], [a]]
    | _ => terms.map fun t => [t]

def Family.radii : Family where
  shorthand := "border-radius"
  longhands := ["top-left", "top-right", "bottom-right", "bottom-left"].map ("border-" ++ · ++ "-radius")
  join parts :=
    some (fewRadii (parts.filterMap List.head?) (parts.filterMap List.getLast?))
  split terms :=
    let across := allSides (terms.takeWhile (· != .slash))
    let down := match terms.dropWhile (· != .slash) with
      | [] => across
      | _ :: rest => allSides rest
    List.zipWith (fun a b => fewTwo [a, b]) across down

/-- The direction of a flexible box and whether it is broken into lines. -/
def Family.flow : Family where
  shorthand := "flex-flow"
  longhands := ["flex-direction", "flex-wrap"]
  join parts :=
    match parts with
    | [direction, wrap] =>
      if wrap = [.word "nowrap"] then some direction
      else if direction = [.word "row"] then some wrap
      else some (direction ++ wrap)
    | _ => none
  split terms :=
    let (directions, wraps) := terms.partition fun t => flowDirections.any fun name => t == .word name
    [[directions.headD (.word "row")], [wraps.headD (.word "nowrap")]]

def Family.flexibility : Family where
  shorthand := "flex"
  longhands := ["flex-grow", "flex-shrink", "flex-basis"]
  join parts :=
    match parts with
    | [[.amount grow], [.amount shrink], [basis]] =>
      some (fewFlexibility grow.number shrink.number basis)
    | _ => none
  split terms :=
    match terms with
    | [.word "none"] => [[.amount ⟨.ofNat 0, .none⟩], [.amount ⟨.ofNat 0, .none⟩], [.word "auto"]]
    | _ =>
      let isNumber (t : Term) : Bool :=
        match t with
        | .amount a => a.isNumber
        | _ => false
      let numbers := terms.takeWhile isNumber
      let one : Term := .amount ⟨.ofNat 1, .none⟩
      let basis := (terms.dropWhile isNumber).headD (.amount ⟨.ofNat 0, .percent⟩)
      [[numbers.headD one], [(numbers.drop 1).headD one], [basis]]

def families : List Family := [
  .ofSides "margin" (sidesOf "margin-"),
  .ofSides "padding" (sidesOf "padding-"),
  .ofSides "inset" (sidesOf ""),
  .ofSides "scroll-padding" (sidesOf "scroll-padding-"),
  .ofSides "border-color" ((sidesOf "border-").map (· ++ "-color")),
  .ofSides "border-style" ((sidesOf "border-").map (· ++ "-style")),
  .ofSides "border-width" ((sidesOf "border-").map (· ++ "-width")),
  .radii,
  .ofTwo "overflow" "overflow-x" "overflow-y",
  .ofTwo "gap" "row-gap" "column-gap",
  .ofTwo "place-content" "align-content" "justify-content",
  .ofTwo "place-items" "align-items" "justify-items",
  .ofTwo "place-self" "align-self" "justify-self",
  .ofTwo "margin-block" "margin-block-start" "margin-block-end",
  .ofTwo "margin-inline" "margin-inline-start" "margin-inline-end",
  .ofTwo "padding-block" "padding-block-start" "padding-block-end",
  .ofTwo "padding-inline" "padding-inline-start" "padding-inline-end",
  .flow,
  .flexibility]

/-- A property with its four sides, in the order in which single sides are written. -/
def withSides (stem : String) : List String :=
  [stem, stem ++ "-top", stem ++ "-bottom", stem ++ "-left", stem ++ "-right"]

/-- The aspects of the four sides of a border. -/
def borderAspects (aspect : String) : List String :=
  ("border-" ++ aspect) ::
    ["top", "bottom", "left", "right"].map fun side => "border-" ++ side ++ "-" ++ aspect

/-- The properties that are written behind all others, in groups, in the order of writing. -/
def lateGroups : List (List String) := [
  ["direction"],
  ["unicode-bidi"],
  ["background", "background-color", "background-image", "background-position",
    "background-position-x", "background-position-y", "background-repeat", "background-size",
    "background-attachment", "background-origin", "background-clip"],
  ["border", "border-top", "border-bottom", "border-left", "border-right"] ++ borderAspects "color" ++
    borderAspects "style" ++ borderAspects "width",
  ["border-image", "border-image-source", "border-image-slice", "border-image-width",
    "border-image-outset", "border-image-repeat"],
  ["border-radius", "border-top-left-radius", "border-top-right-radius", "border-bottom-left-radius",
    "border-bottom-right-radius"],
  ["outline", "outline-width", "outline-style", "outline-color"],
  ["flex-flow", "flex-direction", "flex-wrap", "flex", "flex-grow", "flex-shrink", "flex-basis",
    "order"],
  ["grid", "grid-template", "grid-template-areas", "grid-template-rows", "grid-template-columns",
    "grid-auto-rows", "grid-auto-columns", "grid-auto-flow", "grid-area", "grid-row", "grid-row-start",
    "grid-row-end", "grid-column", "grid-column-start", "grid-column-end"],
  ["place-content", "align-content", "justify-content", "place-self", "align-self", "justify-self",
    "place-items", "align-items", "justify-items", "gap", "row-gap", "column-gap"],
  sizeProperties,
  withSides "margin" ++ ["margin-block", "margin-block-start", "margin-block-end", "margin-inline",
    "margin-inline-start", "margin-inline-end"],
  withSides "padding" ++ ["padding-block", "padding-block-start", "padding-block-end", "padding-inline",
    "padding-inline-start", "padding-inline-end"],
  withSides "scroll-margin",
  withSides "scroll-padding",
  ["font", "font-family", "font-size", "font-style", "font-variant-caps", "font-weight", "font-stretch",
    "line-height"],
  ["text-decoration", "text-decoration-line", "text-decoration-thickness", "text-decoration-style",
    "text-decoration-color", "text-emphasis"],
  ["list-style", "list-style-type", "list-style-image", "list-style-position"],
  ["transition", "transition-property", "transition-duration", "transition-delay",
    "transition-timing-function"],
  ["animation", "animation-name", "animation-duration", "animation-timing-function",
    "animation-iteration-count", "animation-direction", "animation-play-state", "animation-delay",
    "animation-fill-mode"],
  ["display"],
  ["position"],
  ["inset", "top", "bottom", "left", "right", "inset-block", "inset-inline"],
  ["overflow", "overflow-x", "overflow-y"],
  ["transform", "translate", "rotate", "scale"],
  ["box-shadow"],
  ["mask", "mask-image", "mask-position", "mask-size", "mask-repeat"],
  ["container", "container-name", "container-type"],
  ["color-scheme"]]

/-- The properties that are written behind all others, in order. -/
def lateProperties : List String := lateGroups.flatten

end MarkupModule.Style
