import MarkupModule.Embedding
import MarkupModule.Proofs.Encoding.Utf8

/-! What an embedded transformation owes its host. The arguments are read in a fixed order, the source is
decoded before the options are looked at, and the first step that fails decides what the host is told. The
host is called back once, whatever the arguments are, and the status returned is the one of that call. -/

namespace MarkupModule

theorem Failure.kind_withResource (failure : Failure) (resource : String) :
    (failure.withResource resource).kind = failure.kind := by
  rw [withResource]
  split <;> rfl

namespace Embedding

open Markup

namespace Memory

/-- The text of an argument: its bytes are the encoding of the text, or there are none. -/
inductive Gives : Memory → String → Prop
  | bytes (text : String) : Gives (.bytes (Encoding.Utf8.encode text.toList)) text
  | missing : Gives (.missing 0) ""

/-- An argument that gives no text. -/
def Unreadable (m : Memory) : Prop :=
  ∀ text, ¬m.Gives text

/-- What is said of an argument that gives no text. -/
def complaint : Memory → String
  | .bytes _ => " is not valid UTF-8"
  | .missing _ => " is null"

/-- The bytes of an argument. -/
inductive Holds : Memory → List UInt8 → Prop
  | bytes (content : List UInt8) : Holds (.bytes content) content
  | missing : Holds (.missing 0) []

variable {m : Memory} {what text message : String} {content : List UInt8}

theorem readText_eq_ok_iff : readText what m = .ok text ↔ m.Gives text := by
  constructor
  · intro h
    cases m with
    | bytes content =>
        rw [readText] at h
        split at h
        · rename_i s hdecode
          obtain rfl := Except.ok.inj h
          obtain rfl := Encoding.Utf8.decode?_eq_some_iff.mp hdecode
          simpa using Gives.bytes (String.ofList s)
        · cases h
    | missing length =>
        cases length with
        | zero =>
            obtain rfl := Except.ok.inj h
            exact Gives.missing
        | succ n => cases h
  · rintro (_ | _)
    · rw [readText, Encoding.Utf8.decode?_encode]
      exact congrArg Except.ok String.ofList_toList
    · rfl

/-- An argument that cannot be read is reported by its name. -/
theorem readText_of_unreadable (h : m.Unreadable) : readText what m = .error (what ++ m.complaint) := by
  cases m with
  | bytes content =>
      rw [readText]
      split
      · rename_i s hdecode
        have hread : readText what (bytes content) = .ok (String.ofList s) := by rw [readText, hdecode]
        exact absurd (readText_eq_ok_iff.mp hread) (h _)
      · rfl
  | missing length =>
      cases length with
      | zero => exact absurd Gives.missing (h "")
      | succ n => rfl

theorem unreadable_or_gives (m : Memory) : m.Unreadable ∨ ∃ text, m.Gives text := by
  by_cases h : ∃ text, m.Gives text
  · exact Or.inr h
  · exact Or.inl fun text htext => h ⟨text, htext⟩

theorem readBytes_of_holds (h : m.Holds content) : readBytes m = .ok content := by
  cases h <;> rfl

theorem missing_or_holds (m : Memory) : (∃ n, m = .missing (n + 1)) ∨ ∃ content, m.Holds content := by
  cases m with
  | bytes content => exact Or.inr ⟨content, Holds.bytes content⟩
  | missing length =>
      cases length with
      | zero => exact Or.inr ⟨[], Holds.missing⟩
      | succ n => exact Or.inl ⟨n, rfl⟩

end Memory

namespace Call

def completed (source sourceMap : String) : Call :=
  ⟨none, source, sourceMap⟩

def failed (status : Status) (message : String) : Call :=
  ⟨some (status, message), "", ""⟩

/-- The call that an answer of the loader leads to. -/
def ofAnswer : Answer → Call
  | .done source sourceMap => completed source sourceMap
  | .failed failure => failed (Status.ofKind failure.kind) failure.message

end Call

/-- What the arguments hold when all of them can be read. -/
structure Read (content resource options : Memory) (path json : String) (bytes : List UInt8) : Prop where
  resource_gives : resource.Gives path
  options_gives : options.Gives json
  content_holds : content.Holds bytes

/-- The calls that a transformation with a call back owes, by the first step that fails. -/
inductive Owed (engine : StyleEngine) (compiler : Link.FragmentCompiler)
    (content resource options : Memory) : Call → Prop
  /-- The resource comes first. -/
  | resource : resource.Unreadable →
      Owed engine compiler content resource options
        (.failed .invalid ("resource path" ++ resource.complaint))
  | options {path : String} : resource.Gives path → options.Unreadable →
      Owed engine compiler content resource options (.failed .invalid ("options" ++ options.complaint))
  | content {path json : String} {n : Nat} : resource.Gives path → options.Gives json →
      content = .missing (n + 1) →
      Owed engine compiler content resource options (.failed .invalid "content is null")
  /-- A source that cannot be decoded is reported whatever the options say. -/
  | source {path json : String} {bytes : List UInt8} {failure : Failure} :
      Read content resource options path json bytes → decodeSource bytes = .error failure →
      Owed engine compiler content resource options (.failed .parse (failure.withResource path).message)
  | settings {path json text : String} {bytes : List UInt8} {failure : Failure} :
      Read content resource options path json bytes → decodeSource bytes = .ok text →
      Options.ofJson json = .error failure →
      Owed engine compiler content resource options
        (.failed (Status.ofKind failure.kind) (failure.withResource path).message)
  /-- The rules that the options set may fail to compile. -/
  | rules {path json text : String} {bytes : List UInt8} {settings : Options} {failure : Failure} :
      Read content resource options path json bytes → decodeSource bytes = .ok text →
      Options.ofJson json = .ok settings →
      Loader.ofOptions compiler engine settings = .error failure →
      Owed engine compiler content resource options
        (.failed (Status.ofKind failure.kind) (failure.withResource path).message)
  | process {path json text : String} {bytes : List UInt8} {settings : Options} {loader : Loader}
      {failure : Failure} :
      Read content resource options path json bytes → decodeSource bytes = .ok text →
      Options.ofJson json = .ok settings → Loader.ofOptions compiler engine settings = .ok loader →
      loader.process text path = .error failure →
      Owed engine compiler content resource options
        (.failed (Status.ofKind failure.kind) (failure.withResource path).message)
  | module {path json text : String} {bytes : List UInt8} {settings : Options} {loader : Loader}
      {module : ModuleText} :
      Read content resource options path json bytes → decodeSource bytes = .ok text →
      Options.ofJson json = .ok settings → Loader.ofOptions compiler engine settings = .ok loader →
      loader.process text path = .ok module →
      Owed engine compiler content resource options (.completed module.source module.sourceMap)

/-! ### What is called back -/

/-- Success is the status with code zero. -/
theorem Status.code_eq_zero_iff {status : Status} : status.code = 0 ↔ status = .success := by
  cases status <;> decide

theorem Status.ofKind_ne_success (kind : FailureKind) : Status.ofKind kind ≠ .success := by
  cases kind <;> decide

namespace Completion

variable {c : Completion}

theorem receive_of_isSome (h : c.status.isSome = true) (answer : Answer) : c.receive answer = c := by
  cases answer <;> rw [receive, complete, if_pos h]

theorem isSome_receive (c : Completion) (answer : Answer) : (c.receive answer).status.isSome = true := by
  cases answer <;>
  · rw [receive, complete]
    split
    · assumption
    · rfl

theorem foldl_receive_of_isSome (h : c.status.isSome = true) (answers : List Answer) :
    answers.foldl receive c = c := by
  induction answers with
  | nil => rfl
  | cons answer rest ih => rw [List.foldl_cons, receive_of_isSome h, ih]

/-- Of several answers only the first one is delivered. -/
theorem foldl_receive_cons (c : Completion) (answer : Answer) (rest : List Answer) :
    (answer :: rest).foldl receive c = c.receive answer := by
  rw [List.foldl_cons, foldl_receive_of_isSome (isSome_receive c answer)]

theorem receive_empty (answer : Answer) :
    receive {} answer = ⟨some (Call.ofAnswer answer).status, [Call.ofAnswer answer]⟩ := by
  cases answer with
  | done source sourceMap => rfl
  | failed failure =>
      rw [receive, complete, if_neg (by decide), if_neg (Status.ofKind_ne_success failure.kind)]
      rfl

end Completion

section Runs

variable {engine : StyleEngine} {compiler : Link.FragmentCompiler} {content resource options : Memory}
  {path json text : String} {bytes : List UInt8} {settings : Options} {loader : Loader}
  {failure : Failure} {module : ModuleText} {call : Call}

/-- What is delivered is the answer to the source, or else the failure to decode it. -/
theorem deliver_of_decode_error (h : decodeSource bytes = .error failure) :
    deliver engine path json bytes compiler =
      Completion.receive {} (.failed (failure.withResource path)) := by
  rw [deliver, h]

theorem deliver_of_outcome_error (h : decodeSource bytes = .ok text)
    (hfails : (Host.mk path (Options.ofJson json)).outcome engine text compiler = .error failure) :
    deliver engine path json bytes compiler =
      Completion.receive {} (.failed (failure.withResource path)) := by
  rw [deliver, h]
  dsimp only
  rw [Host.run, hfails]
  exact Completion.foldl_receive_cons _ _ _

theorem deliver_of_outcome_ok (h : decodeSource bytes = .ok text)
    (hok : (Host.mk path (Options.ofJson json)).outcome engine text compiler = .ok module) :
    deliver engine path json bytes compiler =
      Completion.receive {} (.done module.source module.sourceMap) := by
  rw [deliver, h]
  dsimp only
  rw [Host.run, hok]
  exact Completion.foldl_receive_cons _ _ _

theorem outcome_of_options_eq_error (h : Options.ofJson json = .error failure) :
    (Host.mk path (Options.ofJson json)).outcome engine text compiler = .error failure := by
  rw [Host.outcome, h]
  rfl

theorem outcome_of_rules_eq_error (h : Options.ofJson json = .ok settings)
    (hrules : Loader.ofOptions compiler engine settings = .error failure) :
    (Host.mk path (Options.ofJson json)).outcome engine text compiler = .error failure := by
  rw [Host.outcome, h]
  change (Loader.ofOptions compiler engine settings >>= _) = _
  rw [hrules]
  rfl

theorem outcome_of_rules_eq_ok (h : Options.ofJson json = .ok settings)
    (hrules : Loader.ofOptions compiler engine settings = .ok loader) :
    (Host.mk path (Options.ofJson json)).outcome engine text compiler = loader.process text path := by
  rw [Host.outcome, h]
  change (Loader.ofOptions compiler engine settings >>= _) = _
  rw [hrules]
  rfl

theorem readTexts_of_gives (hpath : resource.Gives path) (hjson : options.Gives json) :
    readTexts resource options = .ok (path, json) := by
  rw [readTexts, Memory.readText_eq_ok_iff.mpr hpath, Memory.readText_eq_ok_iff.mpr hjson]
  rfl

/-- When all arguments can be read, the transformation calls back what its completion holds. -/
theorem transform_of_deliver {answer : Answer} (hread : Read content resource options path json bytes)
    (h : deliver engine path json bytes compiler = Completion.receive {} answer) :
    transform engine content resource options true compiler =
      ⟨(Call.ofAnswer answer).status, [Call.ofAnswer answer]⟩ := by
  rw [transform, if_neg (by decide), readTexts_of_gives hread.resource_gives hread.options_gives]
  dsimp only
  rw [Memory.readBytes_of_holds hread.content_holds]
  dsimp only
  rw [h, Completion.receive_empty]
  rfl

theorem kind_of_decodeSource_eq_error (h : decodeSource bytes = .error failure) :
    failure.kind = .parse := by
  rw [decodeSource] at h
  dsimp only at h
  split at h
  · cases h
  · obtain rfl := Except.error.inj h
    rfl

/-- A transformation calls back what it owes, once, and returns its status. -/
theorem transform_of_owed (h : Owed engine compiler content resource options call) :
    transform engine content resource options true compiler = ⟨call.status, [call]⟩ := by
  cases h with
  | resource hpath =>
      rw [transform, if_neg (by decide), readTexts, Memory.readText_of_unreadable hpath]
      rfl
  | options hpath hjson =>
      rw [transform, if_neg (by decide), readTexts, Memory.readText_eq_ok_iff.mpr hpath,
        Memory.readText_of_unreadable hjson]
      rfl
  | content hpath hjson hcontent =>
      rw [transform, if_neg (by decide), readTexts_of_gives hpath hjson, hcontent]
      rfl
  | source hread hdecode =>
      rw [transform_of_deliver hread (deliver_of_decode_error hdecode), Call.ofAnswer,
        Failure.kind_withResource, kind_of_decodeSource_eq_error hdecode]
      rfl
  | settings hread hdecode hsettings =>
      rw [transform_of_deliver hread
        (deliver_of_outcome_error hdecode (outcome_of_options_eq_error hsettings)), Call.ofAnswer,
        Failure.kind_withResource]
  | rules hread hdecode hsettings hrules =>
      rw [transform_of_deliver hread
        (deliver_of_outcome_error hdecode (outcome_of_rules_eq_error hsettings hrules)), Call.ofAnswer,
        Failure.kind_withResource]
  | process hread hdecode hsettings hrules hprocess =>
      rw [← outcome_of_rules_eq_ok hsettings hrules] at hprocess
      rw [transform_of_deliver hread (deliver_of_outcome_error hdecode hprocess),
        Call.ofAnswer, Failure.kind_withResource]
  | module hread hdecode hsettings hrules hprocess =>
      rw [← outcome_of_rules_eq_ok hsettings hrules] at hprocess
      rw [transform_of_deliver hread (deliver_of_outcome_ok hdecode hprocess), Call.ofAnswer]

/-- Whatever the arguments are, a call is owed. -/
theorem exists_owed (engine : StyleEngine) (compiler : Link.FragmentCompiler)
    (content resource options : Memory) : ∃ call, Owed engine compiler content resource options call := by
  obtain hpath | ⟨path, hpath⟩ := resource.unreadable_or_gives
  · exact ⟨_, .resource hpath⟩
  obtain hjson | ⟨json, hjson⟩ := options.unreadable_or_gives
  · exact ⟨_, .options hpath hjson⟩
  obtain ⟨n, hcontent⟩ | ⟨bytes, hbytes⟩ := content.missing_or_holds
  · exact ⟨_, .content hpath hjson hcontent⟩
  have hread : Read content resource options path json bytes := ⟨hpath, hjson, hbytes⟩
  cases hdecode : decodeSource bytes with
  | error failure => exact ⟨_, .source hread hdecode⟩
  | ok text =>
      cases hsettings : Options.ofJson json with
      | error failure => exact ⟨_, .settings hread hdecode hsettings⟩
      | ok settings =>
          cases hrules : Loader.ofOptions compiler engine settings with
          | error failure => exact ⟨_, .rules hread hdecode hsettings hrules⟩
          | ok loader =>
              cases hprocess : loader.process text path with
              | error failure => exact ⟨_, .process hread hdecode hsettings hrules hprocess⟩
              | ok module => exact ⟨_, .module hread hdecode hsettings hrules hprocess⟩

/-- No two calls are owed, as the transformation makes one only. -/
theorem Owed.unique {other : Call} (h : Owed engine compiler content resource options call)
    (hother : Owed engine compiler content resource options other) : other = call := by
  have hcalls := congrArg Result.calledBack ((transform_of_owed hother).symm.trans (transform_of_owed h))
  exact (List.cons.inj hcalls).1

/-- A call that is owed tells a status other than success, or hands over a module. -/
theorem Owed.cases_status (h : Owed engine compiler content resource options call) :
    (∃ source sourceMap, call = .completed source sourceMap) ∨
      ∃ status message, status ≠ .success ∧ call = .failed status message := by
  cases h with
  | module => exact Or.inl ⟨_, _, rfl⟩
  | settings | rules | process => exact Or.inr ⟨_, _, Status.ofKind_ne_success _, rfl⟩
  | resource | options | content | source => exact Or.inr ⟨_, _, by decide, rfl⟩

end Runs

/-- Without a call back a transformation does nothing and returns code 3. With one it makes exactly the
call that it owes and returns the status that the call tells, whose code is zero when there is no error,
and it hands over a module with that code only. -/
theorem transform_owed (engine : StyleEngine) (compiler : Link.FragmentCompiler)
    (content resource options : Memory) :
    ((transform engine content resource options false compiler).status.code = 3 ∧
      (transform engine content resource options false compiler).calledBack = []) ∧
    ∃ call, (∀ other, Owed engine compiler content resource options other ↔ other = call) ∧
      transform engine content resource options true compiler = ⟨call.status, [call]⟩ ∧
      (call.status.code = 0 ↔ call.error = none) ∧
      (call.status.code ≠ 0 → call.source = "" ∧ call.sourceMap = "") := by
  obtain ⟨call, hcall⟩ := exists_owed engine compiler content resource options
  refine ⟨⟨rfl, rfl⟩, call, fun other => ⟨hcall.unique, ?_⟩, transform_of_owed hcall, ?_⟩
  · rintro rfl
    exact hcall
  · rw [ne_eq, Status.code_eq_zero_iff]
    obtain ⟨source, sourceMap, rfl⟩ | ⟨status, message, hstatus, rfl⟩ := hcall.cases_status
    · exact ⟨⟨fun _ => rfl, fun _ => rfl⟩, fun h => absurd rfl h⟩
    · exact ⟨⟨fun h => absurd h hstatus, fun h => nomatch h⟩, fun _ => ⟨rfl, rfl⟩⟩

/-- A source with the byte order mark of UTF-16 and one byte more. -/
def oddSource : Memory := .bytes [0xFF, 0xFE, 0x00]

def oddSourceCall : Call :=
  .failed .parse "html-module-loader: decode source x.html: parse error: input is not valid UTF-16LE"

/-- The options here are an object that is not closed, which is not reported. -/
theorem transform_owed_oddSource :
    transform ⟨.ok, .ok⟩ oddSource (.bytes (Encoding.Utf8.encode "x.html".toList)) (.bytes [0x7B]) true =
      ⟨.parse, [oddSourceCall]⟩ ∧
    Owed ⟨.ok, .ok⟩ {} oddSource (.bytes (Encoding.Utf8.encode "x.html".toList)) (.bytes [0x7B])
      oddSourceCall := by
  have hcalls : transform ⟨.ok, .ok⟩ oddSource (.bytes (Encoding.Utf8.encode "x.html".toList))
      (.bytes [0x7B]) true = ⟨.parse, [oddSourceCall]⟩ := by
    decide +kernel
  obtain ⟨-, call, howed, htransform, -⟩ := transform_owed ⟨.ok, .ok⟩ {} oddSource
    (.bytes (Encoding.Utf8.encode "x.html".toList)) (.bytes [0x7B])
  rw [hcalls] at htransform
  exact ⟨hcalls, (howed _).mpr (List.cons.inj (congrArg Result.calledBack htransform)).1⟩

end Embedding

end MarkupModule
