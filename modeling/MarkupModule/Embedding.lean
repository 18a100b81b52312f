import MarkupModule.Loader

/-! The transformation as it is embedded in a program of another kind: arguments are stretches of memory,
the result is a status and a call back, and an empty text is handed over as none. What is called back is
kept in a completion, which delivers one outcome at most. -/

namespace MarkupModule.Embedding

open Markup

def version : Nat := 1

/-- An argument: bytes, or no address with a length that should be zero. -/
inductive Memory where
  | bytes (content : List UInt8)
  | missing (length : Nat)
  deriving DecidableEq, Repr, Inhabited

/-- The status of a transformation; `internal` stands for a transformation that delivers nothing. -/
inductive Status where
  | success
  | parse
  | minify
  | invalid
  | io
  | internal
  deriving DecidableEq, Repr, Inhabited

def Status.code : Status → Nat
  | success => 0
  | parse => 1
  | minify => 2
  | invalid => 3
  | io => 4
  | internal => 255

def Status.ofKind : FailureKind → Status
  | .parse => parse
  | .minify => minify
  | .options => invalid
  | .io => io

/-- What a call back is given: an error unless all went well, the module and its source map. -/
structure Call where
  error : Option (Status × String)
  source : String
  sourceMap : String
  deriving DecidableEq, Repr

/-- The status that a call back tells. -/
def Call.status (call : Call) : Status :=
  (call.error.map Prod.fst).getD .success

/-- What a host makes of a call back: a module, or a status with a message. -/
inductive Delivery where
  | completed (source sourceMap : String)
  | failed (status : Status) (message : String)
  deriving DecidableEq, Repr

def Delivery.ofCall (call : Call) : Delivery :=
  match call.error with
  | none => completed call.source call.sourceMap
  | some (status, message) => failed status message

/-- What a transformation has called back so far, with the status that it has delivered. -/
structure Completion where
  status : Option Status := none
  calls : List Call := []
  deriving DecidableEq, Repr

namespace Completion

/-- Delivers an outcome unless one was delivered before. -/
def complete (c : Completion) (status : Status) (message source sourceMap : String) : Completion :=
  if c.status.isSome then c
  else
    let error := if status = .success then none else some (status, message)
    { status := some status, calls := c.calls ++ [⟨error, source, sourceMap⟩] }

/-- Takes an answer of the loader. -/
def receive (c : Completion) : Answer → Completion
  | .done source sourceMap => c.complete .success "" source sourceMap
  | .failed failure => c.complete (Status.ofKind failure.kind) failure.message "" ""

end Completion

/-- The text of an argument; `what` names it in a message. -/
def readText (what : String) : Memory → Except String String
  | .bytes content =>
    match Encoding.Utf8.decode? content with
    | some s => .ok (String.ofList s)
    | none => .error (what ++ " is not valid UTF-8")
  | .missing 0 => .ok ""
  | .missing _ => .error (what ++ " is null")

/-- The texts of the arguments beside the source, the resource and the options. -/
def readTexts (resource options : Memory) : Except String (String × String) := do
  let path ← readText "resource path" resource
  let json ← readText "options" options
  .ok (path, json)

/-- The bytes of the source. -/
def readBytes : Memory → Except String (List UInt8)
  | .bytes content => .ok content
  | .missing 0 => .ok []
  | .missing _ => .error "content is null"

/-- Transforms the source and takes all answers that come. -/
def deliver (engine : StyleEngine) (resource options : String) (content : List UInt8)
    (compiler : Link.FragmentCompiler := {}) : Completion :=
  match decodeSource content with
  | .ok text =>
    ((Host.mk resource (Options.ofJson options)).run engine text compiler).foldl Completion.receive {}
  | .error failure => Completion.receive {} (.failed (failure.withResource resource))

/-- What a transformation returns and what it calls back. -/
structure Result where
  status : Status
  calledBack : List Call
  deriving DecidableEq, Repr

def Result.calls (result : Result) : List Delivery :=
  result.calledBack.map Delivery.ofCall

/-- The result for an argument that cannot be read. -/
def refuse (message : String) : Result :=
  ⟨.invalid, (Completion.complete {} .invalid message "" "").calls⟩

/-- The transformation. Without a call back nothing is done. -/
def transform (engine : StyleEngine) (content resource options : Memory) (hasCallback : Bool)
    (compiler : Link.FragmentCompiler := {}) : Result :=
  if !hasCallback then ⟨.invalid, []⟩
  else
    match readTexts resource options with
    | .error message => refuse message
    | .ok (path, json) =>
      match readBytes content with
      | .error message => refuse message
      | .ok bytes =>
        let completion := deliver engine path json bytes compiler
        ⟨completion.status.getD .internal, completion.calls⟩

end MarkupModule.Embedding
