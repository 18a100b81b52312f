import MarkupModule.Style.Rule

/-! Making a list of rules shorter without changing what it says. Rules without effect are dropped; a rule
joins the one before it when they are for the same elements or say the same; and a rule is dropped when a
later one for the same elements sets the same properties. -/

namespace MarkupModule.Style

namespace Rule

/-- The rule that two consecutive style rules make together, if they can be joined. -/
def join? : Rule → Rule → Option Rule
  | style selectors block [], style selectors' block' [] =>
    if Part.allCommon selectors && Part.allCommon selectors' then
      if selectors == selectors' then some (style selectors (block.append block').arranged [])
      else if block == block' then some (style (selectors ++ selectors') block [])
      else none
    else none
  | _, _ => none

/-- Puts a style rule behind others, which are given last first. -/
def land (rule : Rule) : List Rule → List Rule
  | [] => [rule]
  | last :: before =>
    match join? last rule with
    | some joined => land joined before
    | none => rule :: last :: before

/-- The properties that a block sets, in order. -/
def properties (block : Block) : List String :=
  (block.normal ++ block.important).map (·.property)

/-- Whether a style rule sets the same properties for the same elements as another. -/
def isOverridden (selectors : List Selector) (block : Block) : Rule → Bool
  | style selectors' block' [] => selectors == selectors' && properties block == properties block'
  | _ => false

/-- Puts a style rule behind others, which are given last first. -/
def placeStyle (selectors : List Selector) (block : Block) (inner : List Rule) (before : List Rule) :
    List Rule :=
  let rule := style selectors block inner
  if block.isEmpty && inner.isEmpty then before
  else
    match before with
    | last :: _ =>
      if (join? last rule).isSome then land rule before
      else if inner.isEmpty then rule :: before.filter (!isOverridden selectors block ·)
      else rule :: before
    | [] => [rule]

mutual

/-- Puts a rule behind others, which are given last first. -/
def push (before : List Rule) : Rule → List Rule
  | style selectors block inner => placeStyle selectors block inner before
  | loose block => if block.isEmpty then before else loose block :: before
  | media queries rules =>
    if rules.isEmpty || (!queries.isEmpty && queries.all MediaQuery.isVoid) then before
    else
      match before with
      | media queries' rules' :: more =>
        if queries == queries' then media queries (pushAll rules'.reverse rules).reverse :: more
        else media queries rules :: before
      | _ => media queries rules :: before
  | grouped name condition rules =>
    if rules.isEmpty && name != "layer" then before
    else
      match before with
      | grouped name' condition' rules' :: more =>
        if name == name' && condition == condition' then
          grouped name condition (pushAll rules'.reverse rules).reverse :: more
        else grouped name condition rules :: before
      | _ => grouped name condition rules :: before
  | rule => rule :: before

/-- Puts rules behind others, which are given last first. -/
def pushAll (before : List Rule) : List Rule → List Rule
  | [] => before
  | rule :: rest => pushAll (push before rule) rest

end

mutual

def reduced : Rule → Rule
  | style selectors block inner => style selectors block.arranged (pushAll [] (reducedAll inner)).reverse
  | loose block => loose block.arranged
  | media queries rules => media queries (pushAll [] (reducedAll rules)).reverse
  | grouped name condition rules => grouped name condition (pushAll [] (reducedAll rules)).reverse
  | animation name label frames =>
    animation name label (frames.map fun f => { f with block := f.block.arranged })
  | rule => rule

def reducedAll : List Rule → List Rule
  | [] => []
  | rule :: rest => rule.reduced :: reducedAll rest

end

def reduce (rules : List Rule) : List Rule :=
  (pushAll [] (reducedAll rules)).reverse

end Rule

def Sheet.reduced (s : Sheet) : Sheet := { s with rules := Rule.reduce s.rules }

end MarkupModule.Style
