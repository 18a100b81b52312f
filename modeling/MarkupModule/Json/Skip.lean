import MarkupModule.Json.Literal
import MarkupModule.Json.Number

/-! Values that are skipped. Only their form is checked. -/

namespace MarkupModule.Json

def word (rest : List Char) (cursor : Cursor) : Except Problem Cursor :=
  match rest with
  | [] => .ok cursor
  | expected :: more =>
    match cursor.rest with
    | [] => cursor.fail .endInValue
    | c :: _ => if c = expected then word more cursor.advance else cursor.failAtNext .expectedWord

/-- What is expected where the skipping of a value stands: a value, or in a list or object that is open
its first part or its end, or a comma or its end. -/
inductive Skipping where
  | value
  | firstPart
  | separator
  deriving DecidableEq, Repr

/-- Whether an open list or object is an object. -/
abbrev IsObject := Bool

/-- The cursor behind the name of a member and its colon. -/
def skipName (cursor : Cursor) : Except Problem Cursor :=
  let start := cursor.skipSpace
  match start.peek? with
  | none => start.fail .endInObject
  | some '"' => do
    let behind := (← skipLiteral start.advance).skipSpace
    match behind.peek? with
    | none => behind.fail .endInObject
    | some ':' => .ok behind.advance
    | some _ => behind.failAtNext .expectedColon
  | some _ => start.failAtNext .keyNoString

/-- The cursor behind a value without parts, or nothing where a list or object begins. -/
def skipScalar (cursor : Cursor) : Except Problem (Option Cursor) :=
  match cursor.peek? with
  | none => cursor.fail .endInValue
  | some c =>
    if c = 'n' then (word "ull".toList cursor.advance).map some
    else if c = 't' then (word "rue".toList cursor.advance).map some
    else if c = 'f' then (word "alse".toList cursor.advance).map some
    else if c = '-' then (skipNumber cursor.advance).map some
    else if c.isDigit then (skipNumber cursor).map some
    else if c = '"' then (skipLiteral cursor.advance).map some
    else if c = '[' || c = '\x7b' then .ok none
    else cursor.failAtNext .expectedValue

/-- The cursor behind a value and the lists and objects around it that are still open, innermost first.
Each step but the last consumes a character; the first argument bounds the number of steps. -/
def skipWithin : Nat → Skipping → List IsObject → Cursor → Except Problem Cursor
  | 0, _, _, cursor => cursor.fail .endInValue
  | n + 1, .value, frames, cursor => do
    let start := cursor.skipSpace
    match ← skipScalar start with
    | some behind => skipWithin n .separator frames behind
    | none => skipWithin n .firstPart ((start.peek? == some '\x7b') :: frames) start.advance
  | _ + 1, .separator, [], cursor => .ok cursor
  | n + 1, state, frames, cursor =>
    match frames with
    | [] => .ok cursor
    | isObject :: outer =>
      let start := cursor.skipSpace
      match start.peek? with
      | none => start.fail (if isObject then .endInObject else .endInList)
      | some c =>
        if c = (if isObject then '\x7d' else ']') then
          skipWithin n .separator outer start.advance
        else if state = .separator && c != ',' then
          start.failAtNext (if isObject then .expectedObjectCommaOrEnd else .expectedListCommaOrEnd)
        else do
          let next := if state = .separator then start.advance else start
          let part ← if isObject then skipName next else .ok next
          skipWithin n .value frames part

def skipValue (cursor : Cursor) : Except Problem Cursor :=
  skipWithin (2 * cursor.rest.length + 2) .value [] cursor

end MarkupModule.Json
