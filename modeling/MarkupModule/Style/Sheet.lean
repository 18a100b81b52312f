import MarkupModule.Style.Rule
import MarkupModule.Style.Selector.Reader

/-! Reading rules. A block of rules and declarations is read from left to right; within a rule for elements
a name begins a declaration, or else a rule of its own. -/

namespace MarkupModule.Style

open MarkupModule.Text

/-- Whether a component ends what stands before the body of a rule. -/
def endsHead (c : Component) : Bool :=
  c.isToken .semicolon || c.isCurly

/-- Whether a component ends what stands before the body of a rule for elements. A semicolon does so only
within another rule. -/
def endsSelectors (nested : Bool) (c : Component) : Bool :=
  c.isCurly || (nested && c.isToken .semicolon)

def isSemicolon (c : Component) : Bool := c.isToken .semicolon

/-- What separates the parts of a block and means nothing else. -/
def isFiller (c : Component) : Bool :=
  c.isSpace || c.isToken .semicolon || c.isToken (.closing .curly)

/-- Selectors within a rule. They speak of the elements of that rule, unless they say so themselves below
the elements of that rule. -/
def nestedSelector (selector : Selector) : Selector :=
  if Part.rowNesting selector then selector else .nesting :: .combinator .descendant :: selector

def readSelectors (nested : Bool) (s : Stretch) : Except Problem (List Selector) :=
  (readCompound nested s.stop .initial s.items).map fun selectors =>
    if nested then selectors.map nestedSelector else selectors

/-- A block and rules, last first, with one more declaration: in the block as long as there are no rules,
and behind the rules after that. -/
def addDeclaration (isImportant : Bool) (d : Declaration) (block : Block) (rules : List Rule) :
    Block × List Rule :=
  match rules with
  | [] => (block.add isImportant d, [])
  | .loose last :: more => (block, .loose (last.add isImportant d) :: more)
  | _ => (block, .loose (Block.empty.add isImportant d) :: rules)

/-- Declarations that stand before rules, as a rule of their own if there are any. -/
def withLoose (block : Block) (rules : List Rule) : List Rule :=
  if block.isEmpty then rules else .loose block :: rules

/-- Reads declarations and nothing else. `refused` says which problem a rule among them is. -/
def readDeclarations (stop : Nat) (block : Block) : List Component → Except Problem Block
  | [] => .ok block
  | c :: rest =>
    if isFiller c then readDeclarations stop block rest
    else
      match c.first with
      | .atKeyword name => .error ⟨.unknownRule name, (Stretch.mk rest stop).here⟩
      | .ident name =>
        match Declaration.read name ((Stretch.mk rest stop).before isSemicolon) with
        | .ok (isImportant, d) =>
          readDeclarations stop (block.add isImportant d) (rest.dropWhile (!isSemicolon ·))
        | .error problem => .error problem
      | t => .error ⟨.unexpected t, c.left⟩
termination_by items => sizeOf items
decreasing_by
  · simp only [List.cons.sizeOf_spec]
    omega
  · have := Component.sizeOf_dropWhile_le (!isSemicolon ·) rest
    simp only [List.cons.sizeOf_spec]
    omega

/-- The moment of a step of an animation in its shorter form. -/
def moment? (s : Stretch) : Option (List Char) :=
  match s.words with
  | [c] =>
    match Grammar.ident? c, Amount.ofToken? c.first with
    | some "from", _ => some "0%".toList
    | some "to", _ => some "to".toList
    | _, some a =>
      if a.isPercentage then some (if a.number == .ofNat 100 then "to".toList else a.text) else none
    | _, none => none
  | _ => none

def readFrames (stop : Nat) : List Component → Except Problem (List Frame)
  | [] => .ok []
  | c :: rest =>
    if isFiller c then readFrames stop rest
    else
      let head := (Stretch.mk (c :: rest) stop).before Component.isCurly
      match h : (c :: rest).dropWhile (!Component.isCurly ·) with
      | .block _ _ inner close :: more =>
        have := Component.sizeOf_lt_of_dropWhile_eq_cons h
        match head.splitOnComma.mapM moment? with
        | none => .error ⟨.unexpected c.first, c.left⟩
        | some moments => do
          let block ← readDeclarations close .empty inner
          let frames ← readFrames stop more
          .ok (⟨moments, block⟩ :: frames)
      | _ => .error ⟨.endOfInput, stop⟩
termination_by items => sizeOf items
decreasing_by
  · simp only [List.cons.sizeOf_spec]
    omega
  · assumption

/-- What stands in a block is less than all components that the block is among. -/
theorem sizeOf_inner_lt {test : Component → Bool} {items rest inner : List Component}
    {left close : Nat} {opening : Opening}
    (h : items.dropWhile test = .block left opening inner close :: rest) :
    sizeOf inner < sizeOf items := by
  have := Component.sizeOf_dropWhile_le test items
  rw [h, List.cons.sizeOf_spec, Component.block.sizeOf_spec] at this
  omega

/-- A rule with a name that nothing is known about, or that has no body. -/
def readOther (name : String) (head : Stretch) (body : Option Stretch) : Except Problem Rule := do
  let pieces ← Piece.ofStretch head.skipSpace
  match body with
  | none => .ok (.other name pieces none)
  | some inner => .ok (.other name pieces (some (← Piece.ofStretch inner)))

/-- Pieces without space inside of round brackets and around colons. -/
def tightenPieces : List Piece → List Piece
  | [] => []
  | p :: rest =>
    let more := tightenPieces rest
    if p == .plain (.opening .round) || p == .plain .colon then
      p :: (if more.head?.any (· == .plain .space) then more.drop 1 else more)
    else if p == .plain .space && more.head?.any fun q =>
        q == .plain (.closing .round) || q == .plain .colon then more
    else p :: more

/-- Names of rules that hold rules under a condition. -/
def groupNames : List String := ["supports", "layer", "container", "scope", "starting-style"]

/-- Names of rules that hold declarations and nothing else. -/
def describedNames : List String := ["font-face", "page", "counter-style", "property"]

/-- Pieces without the space that parts the address of a font from what describes it. -/
def joinedPieces : List Piece → List Piece
  | .url address :: .plain .space :: rest => .url address :: joinedPieces rest
  | p :: rest => p :: joinedPieces rest
  | [] => []

/-- Declarations of a font, the addresses of its sources joined with their descriptions. -/
def joinSources (block : Block) : Block :=
  { block with normal := block.normal.map fun d =>
      match d.value with
      | .raw pieces => if d.property == "src" then { d with value := .raw (joinedPieces pieces) } else d
      | .typed _ => d }

/-- A rule that ends without a body; `behind` is the place behind it. -/
def readBare (name : String) (head : Stretch) (behind : Nat) : Except Problem Rule :=
  let known := lowerName name
  if known == "media" then do
    let _ ← MediaQuery.list head
    .error ⟨.unexpected .semicolon, behind⟩
  else if ["supports", "keyframes"].contains known || describedNames.contains known then
    .error ⟨.unexpected .semicolon, behind⟩
  else readOther name head none

/-- The declaration that a component begins, if it can begin one within a rule for elements. -/
def declarationAt (nested : Bool) (stop : Nat) (c : Component) (rest : List Component) :
    Option (Except Problem (Bool × Declaration)) :=
  match c.first with
  | .ident name =>
    if nested then some (Declaration.read name ((Stretch.mk rest stop).before isSemicolon)) else none
  | _ => none

/-- The problem with a declaration that is none, or else a problem found later at the same place. -/
def firstProblem (declared : Option (Except Problem (Bool × Declaration))) (later : Problem) : Problem :=
  match declared with
  | some (.error problem) => problem
  | _ => later

mutual

/-- Reads declarations and rules. `nested` says that they stand within a rule for elements; `rules` are
those read so far, last first. A name that begins no declaration may begin a rule. -/
def readBlock (nested : Bool) (stop : Nat) (block : Block) (rules : List Rule) :
    List Component → Except Problem (Block × List Rule)
  | [] => .ok (block, rules.reverse)
  | c :: rest =>
    if isFiller c then readBlock nested stop block rules rest
    else
      match c.first with
      | .atKeyword name =>
        let head := (Stretch.mk rest stop).before endsHead
        match h : rest.dropWhile (!endsHead ·) with
        | .block _ _ inner close :: more =>
          have := sizeOf_inner_lt h
          have := Component.sizeOf_lt_of_dropWhile_eq_cons h
          match readBody nested name head inner close with
          | .error problem => .error problem
          | .ok rule => readBlock nested stop block (rule :: rules) more
        | .token _ _ :: more =>
          have := Component.sizeOf_lt_of_dropWhile_eq_cons h
          match readBare name head (Stretch.mk more stop).here with
          | .error problem => .error problem
          | .ok rule => readBlock nested stop block (rule :: rules) more
        | [] => (readBare name head stop).map fun rule => (block, (rule :: rules).reverse)
      | _ =>
        match declarationAt nested stop c rest with
        | some (.ok (isImportant, d)) =>
          let added := addDeclaration isImportant d block rules
          have := Component.sizeOf_dropWhile_le (!isSemicolon ·) rest
          readBlock nested stop added.1 added.2 (rest.dropWhile (!isSemicolon ·))
        | declared =>
          let head := (Stretch.mk (c :: rest) stop).before (endsSelectors nested)
          match h : (c :: rest).dropWhile (!endsSelectors nested ·) with
          | .block _ _ inner close :: more =>
            have := sizeOf_inner_lt h
            have := Component.sizeOf_lt_of_dropWhile_eq_cons h
            match readStyle nested head inner close with
            | .error problem => .error (firstProblem declared problem)
            | .ok rule => readBlock nested stop block (rule :: rules) more
          | .token left content :: _ => .error (firstProblem declared ⟨.unexpected content, left⟩)
          | [] => .error (firstProblem declared ⟨.endOfInput, stop⟩)
termination_by items => (sizeOf items, 0)

/-- A rule for elements, from its selectors and its body. -/
def readStyle (nested : Bool) (head : Stretch) (inner : List Component) (close : Nat) :
    Except Problem Rule :=
  match readSelectors nested head with
  | .error problem => .error problem
  | .ok selectors =>
    (readBlock true close .empty [] inner).map fun (own, below) => .style selectors own below
termination_by (sizeOf inner, 1)

/-- A rule with a name, from what stands before its body and from the body. -/
def readBody (nested : Bool) (name : String) (head : Stretch) (inner : List Component) (close : Nat) :
    Except Problem Rule :=
  let known := lowerName name
  if known == "media" then
    match MediaQuery.list head with
    | .error problem => .error problem
    | .ok queries =>
      (readBlock nested close .empty [] inner).map fun (own, rules) =>
        .media queries (withLoose own rules)
  else if groupNames.contains known then
    match Piece.ofStretch head.skipSpace with
    | .error problem => .error problem
    | .ok condition =>
      (readBlock nested close .empty [] inner).map fun (own, rules) =>
        .grouped known (tightenPieces condition) (withLoose own rules)
  else if known == "keyframes" || known == "-webkit-keyframes" then do
    let label ← Piece.ofStretch head.skipSpace
    let frames ← readFrames close inner
    .ok (.animation known label frames)
  else if describedNames.contains known then do
    let label ← Piece.ofStretch head.skipSpace
    let own ← readDeclarations close .empty inner
    .ok (.described known label (if known == "font-face" then joinSources own else own))
  else readOther name head (some ⟨inner, close⟩)
termination_by (sizeOf inner, 1)

end

/-! ### The rules at the head of a sheet -/

/-- How far a sheet has come. Rules that refer to other sheets come before those for elements. -/
inductive Stage
  | start
  | layers
  | imports
  | namespaces
  | body
  deriving DecidableEq, Repr, Inhabited

/-- Reads what names another sheet: its address, and for which devices it holds. -/
def readImport (head : Stretch) : Except Problem Rule := do
  let c ← head.require
  let address ← match c with
    | .token _ (.text content) | .token _ (.url content) => .ok content
    | .block _ (.function name) inner close =>
      if sameIgnoringCase name "url" then
        match quotedAddress? inner with
        | some address => .ok address
        | none => do
          let d ← (Stretch.mk inner close).require
          .error ((Stretch.mk inner close).unexpected d)
      else .error (head.unexpected c)
    | _ => .error (head.unexpected c)
  let isModifier (d : Component) : Bool :=
    match d.first with
    | .ident name | .function name => ["layer", "supports"].contains (lowerName name)
    | t => t.isSpace
  let tail := head.skipSpace.rest
  let modifiers ← Piece.ofStretch (tail.before (!isModifier ·)).skipSpace
  let queries ← MediaQuery.list (tail.onward (!isModifier ·))
  .ok (.sheet address (if modifiers == [.plain .space] then [] else modifiers) queries)

/-- The stage that a rule which ends without a body leads to. -/
def Stage.behindBare (stage : Stage) (known : String) : Stage :=
  if known == "import" then .imports
  else if known == "namespace" then .namespaces
  else if known == "layer" then if stage = .start || stage = .layers then .layers else .body
  else stage

/-- What stands between the rules of a sheet and means nothing. -/
def isSheetFiller (c : Component) : Bool :=
  c.isSpace || c.isToken .commentOpen || c.isToken .commentClose

/-- A rule of a sheet before it is read: its name behind an at sign if it has one, what stands before its
end or body, the component that ends it, and the place behind that. -/
structure Outline where
  name : Option String
  head : Stretch
  last : Option Component
  behind : Nat
  deriving Inhabited

/-- The rules of a sheet before they are read. -/
def outlines (stop : Nat) : List Component → List Outline
  | [] => []
  | c :: rest =>
    if isSheetFiller c then outlines stop rest
    else
      match c.first with
      | .atKeyword name =>
        let head := (Stretch.mk rest stop).before endsHead
        match h : rest.dropWhile (!endsHead ·) with
        | [] => [⟨some name, head, none, stop⟩]
        | last :: more =>
          have := Component.sizeOf_lt_of_dropWhile_eq_cons h
          ⟨some name, head, some last, (Stretch.mk more stop).here⟩ :: outlines stop more
      | _ =>
        let head := (Stretch.mk (c :: rest) stop).before Component.isCurly
        match h : (c :: rest).dropWhile (!Component.isCurly ·) with
        | [] => [⟨none, head, none, stop⟩]
        | last :: more =>
          have := Component.sizeOf_lt_of_dropWhile_eq_cons h
          ⟨none, head, some last, (Stretch.mk more stop).here⟩ :: outlines stop more
termination_by items => sizeOf items

def Outline.readStyle (o : Outline) : Except Problem Rule :=
  match o.last with
  | some (.block _ _ inner close) => Style.readStyle false o.head inner close
  | some c => .error ⟨.unexpected c.first, c.left⟩
  | none => .error ⟨.endOfInput, o.behind⟩

/-- A rule with a name, and the stage that it leads to. Some rules have their place at the head of a sheet,
and a rule that names the encoding means nothing. -/
def Outline.readNamed (stage : Stage) (name : String) (o : Outline) :
    Except Problem (Stage × List Rule) :=
  let known := lowerName name
  if known == "import" then
    if stage = .namespaces || stage = .body then .error ⟨.lateImport, o.head.here⟩
    else
      match readImport o.head, o.last with
      | .ok _, some (.block _ _ inner close) => .error ⟨.badBody, (Stretch.mk inner close).here⟩
      | read, _ => read.map fun rule => (.imports, [rule])
  else if known == "namespace" && stage = .body then .error ⟨.lateNamespace, o.head.here⟩
  else if known == "charset" then do
    let c ← o.head.require
    match c.first with
    | .text _ => .ok (stage, [])
    | _ => .error (o.head.unexpected c)
  else
    match o.last with
    | some (.block _ _ inner close) =>
      (readBody false name o.head inner close).map fun rule => (.body, [rule])
    | _ => (readBare name o.head o.behind).map fun rule => (stage.behindBare known, [rule])

/-- Reads the rules of a sheet. A rule that names the encoding is skipped, whatever it says, where it is
the first. -/
def readOutlines (stage : Stage) : List Outline → Except Problem (List Rule)
  | [] => .ok []
  | o :: rest =>
    match o.name with
    | some name => do
      let (next, rules) ← o.readNamed stage name
      .ok (rules ++ (← readOutlines next rest))
    | none => do
      let rule ← o.readStyle
      .ok (rule :: (← readOutlines .body rest))

/-- The rules of a sheet without one that names the encoding at its start. -/
def behindEncoding : List Outline → List Outline
  | [] => []
  | o :: rest => if o.name.any (sameIgnoringCase · "charset") then rest else o :: rest

/-- The notices at the head of a sheet: the comments that begin with an exclamation mark. -/
def noticesOf : List Component → List String
  | [] => []
  | .token _ (.comment content) :: rest =>
    if startsWith ['!'] content.toList then content :: noticesOf rest else []
  | c :: rest => if c.isSpace then noticesOf rest else []

def Sheet.read (css : List Char) : Except Problem Sheet :=
  let s := Stretch.ofText css
  (readOutlines .start (behindEncoding (outlines s.stop s.items))).map fun rules =>
    ⟨noticesOf s.items, rules⟩

end MarkupModule.Style
