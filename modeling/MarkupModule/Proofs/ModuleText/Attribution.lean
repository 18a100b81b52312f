import MarkupModule.Proofs.ModuleText.Failures

/-! Which resource a failure is put down to. Whatever fails below the loader does not know the resource, so
that the resource of a transformation shows in its failure and nowhere else. A failure keeps the first
resource that it is given, and a host is told of one outcome, by one call. -/

namespace MarkupModule

open Markup

theorem bind_eq_error_iff {ε α β : Type} {x : Except ε α} {f : α → Except ε β} {e : ε} :
    (x >>= f) = .error e ↔ x = .error e ∨ ∃ a, x = .ok a ∧ f a = .error e := by
  cases x <;> simp [Bind.bind, Except.bind]

namespace Failure

/-- The first resource that is named among those that a failure is offered. -/
def firstNamed (resources : List String) : String :=
  (resources.find? fun resource => !resource.isEmpty).getD ""

theorem firstNamed_cons (resource : String) (rest : List String) :
    firstNamed (resource :: rest) = if resource.isEmpty then firstNamed rest else resource := by
  rw [firstNamed, List.find?_cons]
  cases resource.isEmpty <;> rfl

theorem withResource_eq (failure : Failure) (resource : String) :
    failure.withResource resource = { failure with resource := firstNamed [failure.resource, resource] } := by
  rw [withResource, firstNamed_cons, firstNamed_cons]
  cases hfailure : failure.resource.isEmpty with
  | false => rfl
  | true =>
      cases hresource : resource.isEmpty with
      | false => rfl
      | true =>
          rw [String.isEmpty_iff] at hresource
          rw [hresource]
          rfl

/-- Of the resources that are offered one after the other the first one that is named stays. -/
theorem foldl_withResource (failure : Failure) (resources : List String) :
    resources.foldl withResource failure =
      { failure with resource := firstNamed (failure.resource :: resources) } := by
  induction resources generalizing failure with
  | nil =>
      rw [List.foldl_nil, firstNamed_cons]
      cases hempty : failure.resource.isEmpty with
      | false => rfl
      | true =>
          rw [String.isEmpty_iff] at hempty
          cases failure
          simp_all [firstNamed]
  | cons resource rest ih =>
      have hjoin : firstNamed (firstNamed [failure.resource, resource] :: rest) =
          firstNamed (failure.resource :: resource :: rest) := by
        simp only [firstNamed_cons]
        cases hfailure : failure.resource.isEmpty with
        | false => simp [hfailure]
        | true => cases hresource : resource.isEmpty <;> simp [firstNamed, hresource]
      rw [List.foldl_cons, ih, withResource_eq, hjoin]

theorem withResource_of_unnamed {failure : Failure} (h : failure.resource = "") (resource : String) :
    failure.withResource resource = { failure with resource } := by
  rw [withResource, h]
  rfl

end Failure

/-! ### Transformations -/

/-- What it means that a transformation depends on the resource in the resource of its failures only. -/
structure Attributed (run : String → Except Failure ModuleText) : Prop where
  ok_iff : ∀ first second module, run first = .ok module ↔ run second = .ok module
  /-- A failure names the resource; for another resource it is the same failure with that one's name. -/
  error_iff : ∀ first second failure, run first = .error failure ↔
    failure.resource = first ∧ run second = .error { failure with resource := second }

theorem attributed_mapError {x : Except Failure ModuleText}
    (h : ∀ failure, x = .error failure → failure.resource = "") :
    Attributed fun resource => x.mapError (·.withResource resource) := by
  cases x with
  | ok module => exact ⟨fun _ _ _ => Iff.rfl, fun _ _ _ => ⟨nofun, nofun⟩⟩
  | error cause =>
      have hcause := Failure.withResource_of_unnamed (h cause rfl)
      refine ⟨fun _ _ _ => ⟨nofun, nofun⟩, fun first second failure => ?_⟩
      simp only [Except.mapError, hcause, Except.error.injEq]
      constructor
      · rintro rfl
        exact ⟨rfl, rfl⟩
      · rintro ⟨rfl, hsame⟩
        cases failure
        cases cause
        simp_all

namespace Generator

/-- What fails below the loader names no resource. -/
theorem resource_of_generate_eq_error {g : Generator} {p : Partition} {failure : Failure}
    (h : g.generate p = .error failure) : failure.resource = "" := by
  rw [← failure?_eq_some_iff, generate, failure?_map, failure?_statements,
    findSome?_failure?_eq_some_iff] at h
  obtain ⟨node, hfails⟩ := h
  obtain ⟨style, hstyle⟩ := Writer.write_eq_error_iff.mp hfails.run_eq
  obtain ⟨-, operation, cause, rfl⟩ := StyleEngine.of_minify_eq_error hstyle.run_eq
  rfl

end Generator

theorem resource_of_decodeSource_eq_error {bytes : List UInt8} {failure : Failure}
    (h : decodeSource bytes = .error failure) : failure.resource = "" := by
  rw [decodeSource] at h
  dsimp only at h
  split at h
  · cases h
  · obtain rfl := Except.error.inj h
    rfl

namespace Loader

theorem attributed_process (loader : Loader) (content : String) : Attributed (loader.process content) :=
  attributed_mapError fun _ => Generator.resource_of_generate_eq_error

theorem attributed_processBytes (loader : Loader) (bytes : List UInt8) :
    Attributed (loader.processBytes bytes) := by
  cases hdecode : decodeSource bytes with
  | ok content =>
      have hrun : loader.processBytes bytes = loader.process content := by
        funext resource
        rw [processBytes, hdecode]
      rw [hrun]
      exact loader.attributed_process content
  | error failure =>
      have hrun : loader.processBytes bytes =
          fun resource => (Except.error failure).mapError (·.withResource resource) := by
        funext resource
        rw [processBytes, hdecode]
        rfl
      rw [hrun]
      refine attributed_mapError fun cause hcause => ?_
      obtain rfl := Except.error.inj hcause
      exact resource_of_decodeSource_eq_error hdecode

end Loader

/-! ### Hosts -/

/-- What a call back of a host is given: an error, a source and a source map. -/
abbrev Notice := Option Failure × Option String × Option String

def Answer.notice : Answer → Notice
  | .failed failure => (some failure, none, none)
  | .done source sourceMap => (none, some source, some sourceMap)

namespace Host

/-- Why a host is told of a failure: it gives no options, or their rules are not compiled, or the
transformation fails. -/
inductive FailsWith (host : Host) (engine : StyleEngine) (content : String)
    (compiler : Link.FragmentCompiler) : Failure → Prop
  | options {cause : Failure} : host.options = .error cause → FailsWith host engine content compiler cause
  | rules {options : Options} {cause : Failure} : host.options = .ok options →
      Loader.ofOptions compiler engine options = .error cause → FailsWith host engine content compiler cause
  | process {options : Options} {loader : Loader} {cause : Failure} : host.options = .ok options →
      Loader.ofOptions compiler engine options = .ok loader →
      loader.process content host.resource = .error cause → FailsWith host engine content compiler cause

/-- The notice that a host is owed. -/
inductive Owed (host : Host) (engine : StyleEngine) (content : String)
    (compiler : Link.FragmentCompiler) : Notice → Prop
  | module {options : Options} {loader : Loader} {module : ModuleText} : host.options = .ok options →
      Loader.ofOptions compiler engine options = .ok loader →
      loader.process content host.resource = .ok module →
      Owed host engine content compiler (none, some module.source, some "")
  /-- A failure keeps its resource, and has that of the host if it has none. -/
  | failure {cause : Failure} : host.FailsWith engine content compiler cause →
      Owed host engine content compiler
        (some { cause with resource := Failure.firstNamed [cause.resource, host.resource] }, none, none)

variable {host : Host} {engine : StyleEngine} {content : String} {compiler : Link.FragmentCompiler}

theorem outcome_eq_ok_iff {module : ModuleText} :
    host.outcome engine content compiler = .ok module ↔ ∃ options loader, host.options = .ok options ∧
      Loader.ofOptions compiler engine options = .ok loader ∧
      loader.process content host.resource = .ok module := by
  simp only [outcome, bind_eq_ok_iff]
  constructor
  · rintro ⟨options, hoptions, loader, hloader, hprocess⟩
    exact ⟨options, loader, hoptions, hloader, hprocess⟩
  · rintro ⟨options, loader, hoptions, hloader, hprocess⟩
    exact ⟨options, hoptions, loader, hloader, hprocess⟩

theorem outcome_eq_error_iff {cause : Failure} :
    host.outcome engine content compiler = .error cause ↔ host.FailsWith engine content compiler cause := by
  simp only [outcome, bind_eq_error_iff]
  constructor
  · rintro (hoptions | ⟨options, hoptions, hloader | ⟨loader, hloader, hprocess⟩⟩)
    · exact .options hoptions
    · exact .rules hoptions hloader
    · exact .process hoptions hloader hprocess
  · rintro (hoptions | ⟨hoptions, hloader⟩ | ⟨hoptions, hloader, hprocess⟩)
    · exact Or.inl hoptions
    · exact Or.inr ⟨_, hoptions, Or.inl hloader⟩
    · exact Or.inr ⟨_, hoptions, Or.inr ⟨_, hloader, hprocess⟩⟩

theorem sourceMap_of_process {loader : Loader} {resource : String} {module : ModuleText}
    (h : loader.process content resource = .ok module) : module.sourceMap = "" := by
  obtain ⟨statements, -, rfl⟩ := Loader.transform_eq_ok_iff.mp h
  rfl

/-- A host is called back with what it is owed, and once. -/
theorem run_of_owed {notice : Notice} (h : host.Owed engine content compiler notice) :
    (host.run engine content compiler).map Answer.notice = [notice] := by
  cases h with
  | module hoptions hloader hprocess =>
      rw [run, outcome_eq_ok_iff.mpr ⟨_, _, hoptions, hloader, hprocess⟩]
      simp [Answer.notice, sourceMap_of_process hprocess]
  | failure hfails =>
      rw [run, outcome_eq_error_iff.mpr hfails]
      simp [Answer.notice, Failure.withResource_eq]

theorem exists_owed : ∃ notice, host.Owed engine content compiler notice := by
  cases houtcome : host.outcome engine content compiler with
  | ok module =>
      obtain ⟨options, loader, hoptions, hloader, hprocess⟩ := outcome_eq_ok_iff.mp houtcome
      exact ⟨_, .module hoptions hloader hprocess⟩
  | error cause => exact ⟨_, .failure (outcome_eq_error_iff.mp houtcome)⟩

end Host

/-- The resource of a transformation shows in the resource of its failures only. A host gets one call, with
the module or with a failure; the failure is put down to the first resource that it has been given, and to
that of the host last. -/
theorem attributed :
    (∀ (loader : Loader) content, Attributed (loader.process content)) ∧
    (∀ (loader : Loader) bytes, Attributed (loader.processBytes bytes)) ∧
    (∀ (host : Host) engine content compiler, ∃ notice,
      (host.run engine content compiler).map Answer.notice = [notice] ∧
      ∀ other, host.Owed engine content compiler other ↔ other = notice) ∧
    ∀ (failure : Failure) resources, resources.foldl Failure.withResource failure =
      { failure with resource := Failure.firstNamed (failure.resource :: resources) } := by
  refine ⟨Loader.attributed_process, Loader.attributed_processBytes, ?_, Failure.foldl_withResource⟩
  intro host engine content compiler
  obtain ⟨notice, howed⟩ : ∃ notice, host.Owed engine content compiler notice := Host.exists_owed
  refine ⟨notice, Host.run_of_owed howed, fun other => ⟨fun hother => ?_, ?_⟩⟩
  · have hsame := (Host.run_of_owed hother).symm.trans (Host.run_of_owed howed)
    exact (List.cons.inj hsame).1
  · rintro rfl
    exact howed

/-- A host whose fragments are refused learns for which of its resources. -/
example : ((Host.mk "x.html" (.ok { ignoredFragments := ["a"] })).run ⟨.ok, .ok⟩ "<p>"
      { refusal? := fun _ => some "too many patterns" }).map Answer.notice =
    [(some ⟨.options, "x.html", "compile ignoreLinksFromPartialMatches", some "too many patterns"⟩, none,
      none)] := by
  rfl

end MarkupModule
