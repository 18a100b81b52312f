import MarkupModule.CommandLine.Batch
import MarkupModule.Proofs.Encoding.Source
import MarkupModule.Proofs.ModuleText.Rules
import MarkupModule.Proofs.Options.Spelling

/-! Options are sets of rules. Which rules there are decides about a module, in whatever order and however
often they are given; and it is the same whether they come from the command line or from the steps of a
builder, which may take the kinds of rules in any order. -/

namespace MarkupModule

open Markup

/-! ### Rules as sets -/

namespace Options

/-- Two options with the same rules, in any order and with any repetition, and the same helper. -/
structure SameRules (first second : Options) : Prop where
  ignoredLinks : ∀ href, href ∈ first.ignoredLinks ↔ href ∈ second.ignoredLinks
  ignoredFragments : ∀ fragment, fragment ∈ first.ignoredFragments ↔ fragment ∈ second.ignoredFragments
  keptFragments : ∀ fragment, fragment ∈ first.keptFragments ↔ fragment ∈ second.keptFragments
  registerHelper : first.registerHelper = second.registerHelper

variable {first second : Options}

theorem SameRules.symm (h : first.SameRules second) : second.SameRules first where
  ignoredLinks href := (h.ignoredLinks href).symm
  ignoredFragments fragment := (h.ignoredFragments fragment).symm
  keptFragments fragment := (h.keptFragments fragment).symm
  registerHelper := h.registerHelper.symm

theorem SameRules.ignoresLess (h : first.SameRules second) : first.IgnoresLess second where
  ignoredLinks := fun href => (h.ignoredLinks href).mp
  ignoredFragments := fun fragment => (h.ignoredFragments fragment).mp

end Options

namespace Link

variable {first second : Options}

theorem matchesAny_congr {fragments fragments' : List String}
    (h : ∀ fragment, fragment ∈ fragments ↔ fragment ∈ fragments') (path : String) :
    matchesAny fragments path = matchesAny fragments' path := by
  rw [Bool.eq_iff_iff, matchesAny, matchesAny, List.any_eq_true, List.any_eq_true]
  exact exists_congr fun fragment => and_congr_left' (h fragment)

theorem isIgnored_of_sameRules (h : first.SameRules second) (href : String) :
    isIgnored first href = isIgnored second href :=
  Bool.eq_iff_iff.mpr
    ⟨isIgnored_of_ignoresLess h.ignoresLess, isIgnored_of_ignoresLess h.symm.ignoresLess⟩

theorem specifier_of_sameRules (h : first.SameRules second) (href : String) :
    specifier first href = specifier second href := by
  rw [specifier, specifier, matchesAny_congr h.keptFragments]

end Link

section SameRules

variable {first second : Options} (h : first.SameRules second)
include h

theorem Document.linkSpecifiers_of_sameRules (document : Document) :
    document.linkSpecifiers first = document.linkSpecifiers second := by
  rw [linkSpecifiers, linkSpecifiers, importedPaths_eq, importedPaths_eq,
    funext (Link.isIgnored_of_sameRules h), funext (Link.specifier_of_sameRules h)]

/-- Options show in a module by their rules and the helper alone. -/
theorem Loader.transform_of_sameRules (loader : Loader) (document : Document) (resource : String) :
    (loader.withOptions first).transform document resource =
      (loader.withOptions second).transform document resource := by
  have hrest : (loader.withOptions first).generator.restStatements (Partition.ofDocument document) =
      (loader.withOptions second).generator.restStatements (Partition.ofDocument document) :=
    Generator.restStatements_congr rfl h.registerHelper
  have hmodule : document.moduleText first = document.moduleText second := by
    funext rest
    rw [Document.moduleText, Document.moduleText, document.linkSpecifiers_of_sameRules h]
  rw [transform_eq, transform_eq, hrest]
  exact congrArg (fun make => ((Generator.restStatements _ _).map make).mapError _) hmodule

theorem Loader.processBytes_of_sameRules (loader : Loader) (bytes : List UInt8) (resource : String) :
    (loader.withOptions first).processBytes bytes resource =
      (loader.withOptions second).processBytes bytes resource := by
  rw [processBytes, processBytes]
  cases decodeSource bytes with
  | error failure => rfl
  | ok content => exact loader.transform_of_sameRules h (Document.parse content) resource

end SameRules

/-! ### The steps of a builder -/

namespace Options

/-- What a builder of options is asked for. -/
inductive BuilderStep where
  | ignoreLink (href : String)
  | ignoreLinksMatching (fragment : String)
  | keepPathsMatching (fragment : String)
  | registerThrough (module : String)
  deriving DecidableEq, Repr

namespace BuilderStep

def apply (options : Options) : BuilderStep → Options
  | ignoreLink href => options.ignoreLink href
  | ignoreLinksMatching fragment => options.ignoreLinksMatching fragment
  | keepPathsMatching fragment => options.keepPathsMatching fragment
  | registerThrough module => options.registerThrough module

def ignoredLink? : BuilderStep → Option String
  | ignoreLink href => some href
  | _ => none

def ignoredFragment? : BuilderStep → Option String
  | ignoreLinksMatching fragment => some fragment
  | _ => none

def keptFragment? : BuilderStep → Option String
  | keepPathsMatching fragment => some fragment
  | _ => none

def helper? : BuilderStep → Option String
  | registerThrough module => some module
  | _ => none

end BuilderStep

/-- The options that a builder ends with. -/
def build (base : Options) (steps : List BuilderStep) : Options :=
  steps.foldl BuilderStep.apply base

/-- Each step adds to the rules of its kind and leaves the others, so the kinds do not mix; of the helpers
the last one counts. -/
theorem build_eq (base : Options) (steps : List BuilderStep) :
    base.build steps =
      { ignoredLinks := base.ignoredLinks ++ steps.filterMap BuilderStep.ignoredLink?
        ignoredFragments := base.ignoredFragments ++ steps.filterMap BuilderStep.ignoredFragment?
        keptFragments := base.keptFragments ++ steps.filterMap BuilderStep.keptFragment?
        registerHelper := (steps.filterMap BuilderStep.helper?).getLast?.getD base.registerHelper } := by
  induction steps generalizing base with
  | nil => simp [build]
  | cons step steps ih =>
      rw [build, List.foldl_cons]
      change (BuilderStep.apply base step).build steps = _
      rw [ih]
      -- A step is seen by the list of its own kind and passed over by the others.
      cases step <;>
        simp [BuilderStep.apply, ignoreLink, ignoreLinksMatching, keepPathsMatching, registerThrough,
          BuilderStep.ignoredLink?, BuilderStep.ignoredFragment?, BuilderStep.keptFragment?,
          BuilderStep.helper?, List.filterMap_cons, List.getLast?_cons]

end Options

/-! ### The command line -/

namespace CommandLine

/-- The options that those of the command line are added to. -/
def baseOptions (a : Arguments) (read : String → FileRead) : Except String Options :=
  match a.optionsFile with
  | none => .ok {}
  | some path => readOptionsFile path (read path)

/-- The steps ask for what the arguments ask for: of every kind the same, in the same order. -/
structure Arguments.IsGivenBy (a : Arguments) (steps : List Options.BuilderStep) : Prop where
  ignoredLinks : steps.filterMap Options.BuilderStep.ignoredLink? = a.ignoredLinks
  ignoredFragments : steps.filterMap Options.BuilderStep.ignoredFragment? = a.ignoredFragments
  keptFragments : steps.filterMap Options.BuilderStep.keptFragment? = a.keptFragments
  registerHelper : steps.filterMap Options.BuilderStep.helper? = a.registerHelper.toList

variable {a : Arguments} {steps : List Options.BuilderStep} {base : Options} {read : String → FileRead}

theorem extend_eq_build (h : a.IsGivenBy steps) (base : Options) : a.extend base = base.build steps := by
  rw [Options.build_eq, h.ignoredLinks, h.ignoredFragments, h.keptFragments, h.registerHelper,
    Arguments.extend]
  cases a.registerHelper <;> rfl

theorem loadOptions_eq (a : Arguments) (read : String → FileRead) :
    loadOptions a read = (baseOptions a read).map a.extend := by
  rw [loadOptions, baseOptions]
  cases a.optionsFile <;> rfl

theorem loadOptions_of_isGivenBy (hbase : baseOptions a read = .ok base) (h : a.IsGivenBy steps) :
    loadOptions a read = .ok (base.build steps) := by
  rw [loadOptions_eq, hbase, ← extend_eq_build h]
  rfl

/-- An options file that options are written to gives these options, and all options can be written. -/
theorem readOptionsFile_compact (path : String) (base : Options) :
    readOptionsFile path (.ok (Encoding.Utf8.encode (base.compact Options.Field.all))) = .ok base := by
  have hwritten : base.IsWritten (base.compact Options.Field.all) :=
    Options.isWritten_compact (by decide) fun field hfield => absurd field.mem_all hfield
  rw [← String.toList_ofList (l := base.compact Options.Field.all)] at hwritten
  rw [readOptionsFile, Encoding.Utf8.decode?_encode]
  dsimp only
  rw [Options.ofJson_of_isWritten hwritten]

theorem openLoader_of_isGivenBy (hbase : baseOptions a read = .ok base) (h : a.IsGivenBy steps)
    (engine : StyleEngine) (compiler : Link.FragmentCompiler) :
    openLoader a engine read compiler =
      (Loader.ofOptions compiler engine (base.build steps)).mapError Failure.message := by
  rw [openLoader, loadOptions_of_isGivenBy hbase h]
  rfl

/-- A run transforms its files with the loader that a builder makes. -/
theorem run_of_isGivenBy {engine : StyleEngine} {compiler : Link.FragmentCompiler} {loader : Loader}
    (hbase : baseOptions a read = .ok base) (h : a.IsGivenBy steps) (hfiles : a.files ≠ [])
    (hloader : Loader.ofOptions compiler engine (base.build steps) = .ok loader) :
    run a engine read compiler = runLoader a loader read := by
  rw [run, if_neg (mt List.isEmpty_iff.mp hfiles), openLoader_of_isGivenBy hbase h, hloader]
  rfl

/-- A run without the loader of the builder tells why there is none. -/
theorem run_refused_of_isGivenBy {engine : StyleEngine} {compiler : Link.FragmentCompiler}
    {failure : Failure} (hbase : baseOptions a read = .ok base) (h : a.IsGivenBy steps)
    (hfiles : a.files ≠ [])
    (hfails : Loader.ofOptions compiler engine (base.build steps) = .error failure) :
    run a engine read compiler = .refused failure.message := by
  rw [run, if_neg (mt List.isEmpty_iff.mp hfiles), openLoader_of_isGivenBy hbase h, hfails]
  rfl

end CommandLine

/-- Options with the same rules, in any order and with any repetition, give the same module for every
source. The options of a command line are those that a builder makes of the same base, which may be any
options, by the same steps in any order that keeps the steps of one kind in order, and the files are
transformed as by the loader that it builds, or not at all when it builds none. -/
theorem configurationsAgree :
    (∀ (loader : Loader) (first second : Options), first.SameRules second → ∀ resource,
      (∀ content, (loader.withOptions first).process content resource =
        (loader.withOptions second).process content resource) ∧
      ∀ bytes, (loader.withOptions first).processBytes bytes resource =
        (loader.withOptions second).processBytes bytes resource) ∧
    (∀ (path : String) (base : Options),
      ∃ bytes, CommandLine.readOptionsFile path (.ok bytes) = .ok base) ∧
    ∀ (a : CommandLine.Arguments) (read : String → CommandLine.FileRead) (base : Options)
      (steps : List Options.BuilderStep), CommandLine.baseOptions a read = .ok base → a.IsGivenBy steps →
      CommandLine.loadOptions a read = .ok (base.build steps) ∧
      (a.files ≠ [] → ∀ engine compiler,
        (∀ loader, Loader.ofOptions compiler engine (base.build steps) = .ok loader →
          CommandLine.run a engine read compiler = CommandLine.runLoader a loader read) ∧
        ∀ failure, Loader.ofOptions compiler engine (base.build steps) = .error failure →
          CommandLine.run a engine read compiler = .refused failure.message) := by
  refine ⟨fun loader first second h resource => ⟨fun content => ?_, fun bytes => ?_⟩,
    fun path base => ⟨_, CommandLine.readOptionsFile_compact path base⟩,
    fun a read base steps hbase h => ⟨?_, fun hfiles engine compiler =>
      ⟨fun loader hloader => ?_, fun failure hfails => ?_⟩⟩⟩
  · exact loader.transform_of_sameRules h (Document.parse content) resource
  · exact loader.processBytes_of_sameRules h bytes resource
  · exact CommandLine.loadOptions_of_isGivenBy hbase h
  · exact CommandLine.run_of_isGivenBy hbase h hfiles hloader
  · exact CommandLine.run_refused_of_isGivenBy hbase h hfiles hfails

theorem configurationsAgree_shuffledRules :
    let first : Options := { ignoredLinks := ["a.html", "b.html"], keptFragments := [""] }
    let second : Options := { ignoredLinks := ["b.html", "a.html", "b.html"], keptFragments := ["", ""] }
    let base : Options := { ignoredLinks := ["c"] }
    let a : CommandLine.Arguments :=
      { optionsFile := some "o.json", ignoredLinks := ["a", "b"], ignoredFragments := ["é"],
        registerHelper := some "./r.js", files := ["x.html"] }
    let read : String → CommandLine.FileRead :=
      fun _ => .ok (Encoding.Utf8.encode (base.compact Options.Field.all))
    let steps : List Options.BuilderStep :=
      [.ignoreLink "a", .registerThrough "./r.js", .ignoreLinksMatching "é", .ignoreLink "b"]
    first.SameRules second ∧
    (Loader.keepingStyles.withOptions first).process "<link href=b.html>" "" =
      (Loader.keepingStyles.withOptions second).process "<link href=b.html>" "" ∧
    CommandLine.baseOptions a read = .ok base ∧ a.IsGivenBy steps ∧
    CommandLine.loadOptions a read = .ok (base.build steps) ∧
    ∃ loader, Loader.ofOptions {} Style.engine (base.build steps) = .ok loader ∧
      CommandLine.run a Style.engine read = CommandLine.runLoader a loader read := by
  intro first second base a read steps
  have hsame : first.SameRules second :=
    ⟨by simp [first, second, or_comm], by simp [first, second], by simp [first, second], rfl⟩
  have hbase : CommandLine.baseOptions a read = .ok base :=
    CommandLine.readOptionsFile_compact "o.json" base
  have hgiven : a.IsGivenBy steps := ⟨rfl, rfl, rfl, rfl⟩
  obtain ⟨hrules, -, hroutes⟩ := configurationsAgree
  obtain ⟨hload, hrun⟩ := hroutes a read base steps hbase hgiven
  exact ⟨hsame, (hrules Loader.keepingStyles first second hsame "").1 "<link href=b.html>", hbase, hgiven,
    hload, _, rfl, (hrun (by decide) Style.engine {}).1 _ rfl⟩

end MarkupModule
