import MarkupModule.Markup.Construction.Builder

/-! Formatting across blocks. An element such as `b` that is still open where a block ends is opened
again in the next block, and an end tag that does not match the nesting moves parts of the tree so that
what it closes and what stays open are properly nested. -/

namespace MarkupModule.Markup.Construction.Builder

def serialOf : Formatting → Option Nat
  | .mark => none
  | .element serial _ => some serial

def recentFormatting (b : Builder) : List Formatting :=
  b.formatting.takeWhile (· != .mark)

/-- Removes the formatting since the latest mark, and the mark. -/
def dropRecentFormatting (b : Builder) : Builder :=
  { b with formatting := (b.formatting.dropWhile (· != .mark)).drop 1 }

/-- Marks the point that formatting is not taken up across. -/
def markFormatting (b : Builder) : Builder :=
  { b with formatting := .mark :: b.formatting }

def forgetFormatting (b : Builder) (serial : Nat) : Builder :=
  { b with formatting := b.formatting.filter fun f => serialOf f != some serial }

/-- Whether an entry needs no opening: it is a mark or its element is still open. -/
def isMarkOrOpen (b : Builder) : Formatting → Bool
  | .mark => true
  | .element serial _ => b.openElements.any fun e => e.serial == serial

/-- Opens the formatting of a list again, earliest first, and gives the entries that replace it, latest
first. -/
def reopen : List Formatting → Builder → Builder × List Formatting
  | [], b => (b, [])
  | .mark :: rest, b =>
    let (b', entries) := reopen rest b
    (b', .mark :: entries)
  | .element _ tag :: rest, b =>
    let (b', entries) := reopen rest b
    (b'.insertTag tag, .element b'.nextSerial tag :: entries)

/-- Opens again the formatting that was closed by the end of a block. -/
def reopenFormatting (b : Builder) : Builder :=
  let closed := b.formatting.takeWhile fun f => !b.isMarkOrOpen f
  let (b', entries) := reopen closed b
  { b' with formatting := entries ++ b.formatting.drop closed.length }

/-- Tags that open the same formatting: the order of their attributes does not matter. -/
def sameFormatting (s t : Tag) : Bool :=
  s.name == t.name && s.attributes.length == t.attributes.length &&
    s.attributes.all t.attributes.contains

/-- The entries without the earliest of those that open the same formatting, if there are three. -/
def limitRepeats (b : Builder) (tag : Tag) : List Formatting :=
  let same := b.recentFormatting.filter fun
    | .mark => false
    | .element _ t => sameFormatting tag t
  match same.getLast? with
  | some earliest => if 3 ≤ same.length then b.formatting.erase earliest else b.formatting
  | none => b.formatting

/-- Inserts a formatting element and leaves it open. -/
def insertFormatting (b : Builder) (tag : Tag) : Builder :=
  let kept := b.limitRepeats tag
  { b.insertTag tag with formatting := .element b.nextSerial tag :: kept }

/-- Closes an element by an end tag that no rule speaks of: everything inside an open element of that
name is closed, unless a part of the page structure is in between. -/
def closeByName (b : Builder) (name : String) : Builder :=
  let outer := b.openElements.dropWhile fun e => !isHtml name e.name && !isSpecial e.name
  match outer with
  | e :: _ =>
    if isHtml name e.name then
      let closed := b.closeImpliedExcept name
      { closed with openElements := outer.drop 1 }
    else b
  | [] => b

/-- What has become of the elements between a formatting element and a block inside it. -/
structure Rebuilt where
  builder : Builder
  moved : Branch
  kept : List OpenElement
  bookmark : Option Nat

/-- Wraps a branch in copies of the formatting elements between a block and the formatting element that
is closed, given innermost first; the others between them are closed. Only the three innermost are
looked at as formatting. The bookmark is the innermost copy. -/
def rebuild : List OpenElement → Nat → Rebuilt → Rebuilt
  | [], _, r => r
  | e :: rest, count, r =>
    let entry := r.builder.formatting.find? fun f => serialOf f == some e.serial
    match entry with
    | some (.element _ tag) =>
      if count < 3 then
        let serial := r.builder.nextSerial
        rebuild rest (count + 1)
          { builder :=
              { r.builder with
                nextSerial := serial + 1
                formatting := r.builder.formatting.map fun f =>
                  if serialOf f == some e.serial then .element serial tag else f }
            moved := .element serial ⟨.html, tag.name⟩
              (tag.attributes.map Attribute.ofPair) [r.moved]
            kept := r.kept ++ [⟨serial, ⟨.html, tag.name⟩⟩]
            bookmark := r.bookmark.or (some serial) }
      else rebuild rest (count + 1) { r with builder := r.builder.forgetFormatting e.serial }
    | _ => rebuild rest (count + 1) r

/-- The formatting with an entry put in front of a bookmark, or in place of the closed element when there
is no bookmark; the closed element is removed. -/
def placeFormatting (new : Formatting) (bookmark : Option Nat) (closed : Nat)
    (entries : List Formatting) : List Formatting :=
  match bookmark with
  | none => entries.map fun f => if serialOf f == some closed then new else f
  | some serial =>
    (entries.flatMap fun f => if serialOf f == some serial then [new, f] else [f]).filter fun f =>
      serialOf f != some closed

/-- One round of closing a formatting element that has a block open inside it. `inner` lists the open
elements inside the block, `between` those between the block and the formatting element, and `outer`
those around the formatting element. -/
def restructure (b : Builder) (closed : Nat) (tag : Tag) (inner : List OpenElement)
    (block : OpenElement) (between : List OpenElement) (ancestor : OpenElement)
    (outer : List OpenElement) : Builder :=
  match Branch.findAny? block.serial b.branches with
  | none => b
  | some branch =>
    let detached := { b with branches := Branch.removeFrom block.serial b.branches }
    let r := rebuild between 0 ⟨detached, branch, [], none⟩
    let placed := r.builder.insertAt r.moved (r.builder.placeFor ancestor)
    let serial := placed.nextSerial
    let attributes := tag.attributes.map Attribute.ofPair
    { placed with
      nextSerial := serial + 1
      branches := Branch.adjustAll block.serial
        (fun children => [.element serial ⟨.html, tag.name⟩ attributes children]) placed.branches
      formatting := placeFormatting (.element serial tag) r.bookmark closed placed.formatting
      openElements :=
        inner ++ ⟨serial, ⟨.html, tag.name⟩⟩ :: block :: (r.kept ++ ancestor :: outer) }

/-- Closes a formatting element by its end tag, in at most so many rounds. -/
def closeFormattingWithin : Nat → Builder → String → Builder
  | 0, b, _ => b
  | rounds + 1, b, name =>
    let found := b.recentFormatting.find? fun
      | .mark => false
      | .element _ tag => tag.name == name
    match found with
    | some (.element closed tag) =>
      let inside := b.openElements.takeWhile fun e => e.serial != closed
      match b.openElements.drop inside.length with
      | [] => b.forgetFormatting closed
      | _ :: outer =>
        if !reaches endsScope (fun e => e.serial == closed) b.openElements then b
        else
          let between := inside.reverse.takeWhile fun e => !isSpecial e.name
          match inside.reverse.drop between.length, outer with
          | block :: inner, ancestor :: further =>
            closeFormattingWithin rounds
              (b.restructure closed tag inner.reverse block between.reverse ancestor further) name
          | _, _ => { b with openElements := outer }.forgetFormatting closed
    | _ => b.closeByName name

/-- Closes a formatting element by its end tag. -/
def closeFormatting (b : Builder) (name : String) : Builder :=
  match b.openElements with
  | e :: _ =>
    if isHtml name e.name && !b.formatting.any fun f => serialOf f == some e.serial then b.pop
    else closeFormattingWithin 8 b name
  | [] => closeFormattingWithin 8 b name

/-- Closes an anchor that is open where another one begins. -/
def closeOpenAnchor (b : Builder) : Builder :=
  let found := b.recentFormatting.find? fun
    | .mark => false
    | .element _ tag => tag.name == "a"
  match found with
  | some (.element serial _) =>
    ((b.closeFormatting "a").forgetFormatting serial).forgetOpen serial
  | _ => b

end MarkupModule.Markup.Construction.Builder
