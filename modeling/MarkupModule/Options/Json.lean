import MarkupModule.Failure
import MarkupModule.Json.Skip
import MarkupModule.Options
import MarkupModule.Text.Blank
import MarkupModule.Text.Debug

/-! Options as JSON. They are an object with the fields by name, or a list with the fields in order; what
is left out has its default, and members of other names are skipped. Blank text and `null` are the
defaults. -/

namespace MarkupModule.Options

open Json

/-- The fields of the options. -/
inductive Field where
  | ignoredLinks
  | ignoredFragments
  | keptFragments
  | registerHelper
  deriving DecidableEq, Repr, Inhabited

namespace Field

/-- All fields in the order of the list form. -/
def all : List Field := [ignoredLinks, ignoredFragments, keptFragments, registerHelper]

def name : Field → String
  | ignoredLinks => "ignoreLinks"
  | ignoredFragments => "ignoreLinksFromPartialMatches"
  | keptFragments => "ignorePathReWrite"
  | registerHelper => "registerHelper"

def ofName? (name : String) : Option Field :=
  all.find? fun field => field.name == name

end Field

/-- Reports that something else was expected than what stands at the cursor, which is read to tell what
it is. A list or an object is reported where it begins, all else where it ends. -/
def unexpected {α : Type} (expected : String) (cursor : Cursor) : Except Problem α := do
  match cursor.peek? with
  | none => cursor.failAtNext .expectedValue
  | some c =>
    if c = 'n' then
      (← word "ull".toList cursor.advance).fail (.invalidType "null" expected)
    else if c = 't' then
      (← word "rue".toList cursor.advance).fail (.invalidType "boolean \x60true\x60" expected)
    else if c = 'f' then
      (← word "alse".toList cursor.advance).fail (.invalidType "boolean \x60false\x60" expected)
    else if c = '-' then
      let (n, next) ← number true cursor.advance
      next.fail (.invalidType n.found expected)
    else if c.isDigit then
      let (n, next) ← number false cursor
      next.fail (.invalidType n.found expected)
    else if c = '"' then
      let (s, next) ← literal cursor.advance
      next.fail (.invalidType ("string " ++ Text.shown s) expected)
    else if c = '[' then cursor.fail (.invalidType "sequence" expected)
    else if c = '\x7b' then cursor.fail (.invalidType "map" expected)
    else cursor.failAtNext .expectedValue

def readString (cursor : Cursor) : Except Problem (String × Cursor) :=
  let start := cursor.skipSpace
  match start.peek? with
  | none => start.fail .endInValue
  | some '"' => literal start.advance
  | some _ => unexpected "a string" start

/-- Whether a list has one more item: the cursor in front of it, or nothing where the list ends, which is
not consumed. -/
def nextItem (isFirst : Bool) (cursor : Cursor) : Except Problem (Option Cursor) :=
  let start := cursor.skipSpace
  match start.peek? with
  | none => start.fail .endInList
  | some c =>
    if c = ']' then .ok none
    else if isFirst then .ok (some start)
    else if c = ',' then
      let next := start.advance.skipSpace
      match next.peek? with
      | none => next.fail .endInValue
      | some d => if d = ']' then next.failAtNext .trailingComma else .ok (some next)
    else start.failAtNext .expectedListCommaOrEnd

/-- The items of a list of strings and the cursor in front of its end, with a bound on their number. -/
def readStringsWithin : Nat → Bool → Cursor → Except Problem (List String × Cursor)
  | 0, _, cursor => cursor.fail .endInList
  | n + 1, isFirst, cursor => do
    match ← nextItem isFirst cursor with
    | none => .ok ([], cursor)
    | some next =>
      let (item, behind) ← readString next
      let (items, last) ← readStringsWithin n false behind
      .ok (item :: items, last)

def endList (cursor : Cursor) : Except Problem Cursor :=
  let start := cursor.skipSpace
  match start.peek? with
  | none => start.fail .endInList
  | some c =>
    if c = ']' then .ok start.advance
    else if c = ',' then
      let next := start.advance.skipSpace
      if next.peek? == some ']' then next.failAtNext .trailingComma
      else next.failAtNext .trailingCharacters
    else start.failAtNext .trailingCharacters

def readStrings (cursor : Cursor) : Except Problem (List String × Cursor) :=
  let start := cursor.skipSpace
  match start.peek? with
  | none => start.fail .endInValue
  | some '[' => do
    let (items, next) ← readStringsWithin (start.rest.length + 1) true start.advance
    .ok (items, ← endList next)
  | some _ => unexpected "a sequence" start

/-- Reads the value of a field into the options. -/
def readField (options : Options) (cursor : Cursor) : Field → Except Problem (Options × Cursor)
  | .ignoredLinks => do
    let (value, next) ← readStrings cursor
    .ok ({ options with ignoredLinks := value }, next)
  | .ignoredFragments => do
    let (value, next) ← readStrings cursor
    .ok ({ options with ignoredFragments := value }, next)
  | .keptFragments => do
    let (value, next) ← readStrings cursor
    .ok ({ options with keptFragments := value }, next)
  | .registerHelper => do
    let (value, next) ← readString cursor
    .ok ({ options with registerHelper := value }, next)

/-- Reads fields in order, as far as the list goes. -/
def readFields (isFirst : Bool) (options : Options) (cursor : Cursor) :
    List Field → Except Problem (Options × Cursor)
  | [] => .ok (options, cursor)
  | field :: rest => do
    match ← nextItem isFirst cursor with
    | none => .ok (options, cursor)
    | some next =>
      let (options', behind) ← readField options next field
      readFields false options' behind rest

/-- Whether an object has one more member: the cursor in front of its name, or nothing where the object
ends, which is not consumed. -/
def nextMember (isFirst : Bool) (cursor : Cursor) : Except Problem (Option Cursor) :=
  let start := cursor.skipSpace
  match start.peek? with
  | none => start.fail .endInObject
  | some c =>
    if c = '\x7d' then .ok none
    else if isFirst then
      if c = '"' then .ok (some start) else start.failAtNext .keyNoString
    else if c = ',' then
      let next := start.advance.skipSpace
      match next.peek? with
      | none => next.fail .endInValue
      | some d =>
        if d = '"' then .ok (some next)
        else if d = '\x7d' then next.failAtNext .trailingComma
        else next.failAtNext .keyNoString
    else start.failAtNext .expectedObjectCommaOrEnd

def colon (cursor : Cursor) : Except Problem Cursor :=
  let start := cursor.skipSpace
  match start.peek? with
  | none => start.fail .endInObject
  | some ':' => .ok start.advance
  | some _ => start.failAtNext .expectedColon

/-- Where the report about a field that is given twice stands: behind white space, and behind the end of
the object if that comes next. -/
def duplicatePosition (cursor : Cursor) : Cursor :=
  let start := cursor.skipSpace
  if start.peek? == some '\x7d' then start.advance else start

/-- The members of the options and the cursor in front of the end of the object, with a bound on their
number; `seen` lists the fields read so far. -/
def readMembersWithin : Nat → Bool → List Field → Options → Cursor → Except Problem (Options × Cursor)
  | 0, _, _, _, cursor => cursor.fail .endInObject
  | n + 1, isFirst, seen, options, cursor => do
    match ← nextMember isFirst cursor with
    | none => .ok (options, cursor)
    | some start =>
      let (name, behind) ← literal start.advance
      match Field.ofName? name with
      | some field =>
        if seen.contains field then
          (duplicatePosition behind).fail (.duplicateField field.name)
        else
          let (options', next) ← readField options (← colon behind) field
          readMembersWithin n false (field :: seen) options' next
      | none =>
        let next ← skipValue (← colon behind)
        readMembersWithin n false seen options next

def readOptions (cursor : Cursor) : Except Problem (Options × Cursor) :=
  let start := cursor.skipSpace
  match start.peek? with
  | none => start.fail .endInValue
  | some c =>
    if c = 'n' then do .ok ({}, ← word "ull".toList start.advance)
    else if c = '[' then do
      let (options, next) ← readFields true {} start.advance Field.all
      .ok (options, ← endList next)
    else if c = '\x7b' then do
      let (options, next) ← readMembersWithin (start.rest.length + 1) true [] {} start.advance
      .ok (options, next.skipSpace.advance)
    else unexpected "struct Options" start

/-- The options in a text, behind which nothing else may stand. -/
def readDocument (cursor : Cursor) : Except Problem Options := do
  let (options, next) ← readOptions cursor
  let last := next.skipSpace
  if last.rest.isEmpty then .ok options else last.failAtNext .trailingCharacters

def ofJson (json : String) : Except Failure Options :=
  if Text.isBlank json.toList then .ok {}
  else
    match readDocument (Cursor.ofString json) with
    | .ok options => .ok options
    | .error problem => .error ⟨.options, "", "parse options", some problem.message⟩

end MarkupModule.Options
