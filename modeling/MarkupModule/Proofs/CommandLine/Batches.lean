import Mathlib
import MarkupModule.CommandLine.Directory
import MarkupModule.Style.Engine

/-! Runs over batches of files compose. Each file is read and transformed on its own and is told of by its
source or by a line of the error output. So a run over two batches prints what the runs over each of them
print, one after the other, and fails when one of them fails. With an output file the sources of the files
that succeed are written to it instead, in order. -/

namespace MarkupModule.CommandLine

open Markup

/-- The arguments with other files. -/
def Arguments.on (a : Arguments) (files : List String) : Arguments :=
  { a with files }

/-- A run over some files in a directory, with what the arguments ask for besides. -/
def runOn (d : Directory) (engine : StyleEngine) (compiler : Link.FragmentCompiler) (a : Arguments)
    (files : List String) : DirectoryReport :=
  .ofReport d (run (a.on files) engine d.read compiler)

theorem runIn_of_parse {arguments : List String} {a : Arguments} (h : parse arguments = some a)
    (d : Directory) (engine : StyleEngine) (compiler : Link.FragmentCompiler) :
    runIn d engine arguments compiler = runOn d engine compiler a a.files := by
  rw [runIn, h]
  rfl

/-! ### The files of a batch -/

section Files

variable (loader : Loader) (read : String → FileRead)

/-- The source of the module for a file, if the file can be read and transformed. -/
def source? (path : String) : Option String :=
  match read path with
  | .ok bytes => (loader.processBytes bytes path).toOption.map ModuleText.source
  | .error _ => none

theorem source?_eq (path : String) :
    source? loader read path = (processFile loader read path).toOption.map ModuleText.source := by
  rw [source?, processFile]
  cases read path with
  | error reason => rfl
  | ok bytes =>
      dsimp only
      cases loader.processBytes bytes path <;> rfl

theorem sources_successes (files : List String) :
    (successes loader read files).map (·.2.source) = files.filterMap (source? loader read) := by
  rw [successes, List.map_filterMap]
  congr 1
  funext path
  rw [source?_eq, Option.map_map]
  rfl

/-- The line of the error output for a file, if it cannot be read or transformed. -/
def problem? (path : String) : Option String :=
  match read path with
  | .error reason => some (Failure.mk .io path "read file" (some reason)).message
  | .ok bytes =>
    match loader.processBytes bytes path with
    | .ok _ => none
    | .error failure => some ("error transforming " ++ path ++ ": " ++ failure.message)

theorem problems_eq (files : List String) :
    problems loader read files = files.filterMap (problem? loader read) := by
  rw [problems]
  congr 1
  funext path
  rw [processFile, problem?]
  cases read path with
  | error reason => rfl
  | ok bytes =>
      dsimp only
      cases loader.processBytes bytes path <;> rfl

/-- There is nothing to tell of a file just when its source is there. -/
theorem problem?_eq_none_iff {path : String} :
    problem? loader read path = none ↔ (source? loader read path).isSome = true := by
  rw [problem?, source?]
  cases read path with
  | error reason => exact iff_of_false nofun nofun
  | ok bytes =>
      dsimp only
      cases loader.processBytes bytes path with
      | error failure => exact iff_of_false nofun nofun
      | ok module => exact iff_of_true rfl rfl

/-- The exit code for some files: a failure unless each of them can be read and transformed. -/
def exitCodeOf (files : List String) : Nat :=
  if ∀ path ∈ files, (source? loader read path).isSome then 0 else 1

theorem exitCodeOf_eq (files : List String) :
    exitCodeOf loader read files = if (!(problems loader read files).isEmpty) = true then 1 else 0 := by
  have hempty : (problems loader read files).isEmpty = true ↔
      ∀ path ∈ files, (source? loader read path).isSome = true := by
    rw [problems_eq, List.isEmpty_iff, List.filterMap_eq_nil_iff]
    exact forall₂_congr fun path _ => problem?_eq_none_iff loader read
  rw [exitCodeOf]
  simp only [← hempty]
  cases (problems loader read files).isEmpty <;> rfl

theorem exitCodeOf_eq_one_iff {files : List String} :
    exitCodeOf loader read files = 1 ↔ ¬∀ path ∈ files, (source? loader read path).isSome = true := by
  rw [exitCodeOf]
  split
  · rename_i h
    exact iff_of_false nofun (not_not_intro h)
  · rename_i h
    exact iff_of_true rfl h

theorem exitCodeOf_append (first second : List String) :
    exitCodeOf loader read (first ++ second) = 1 ↔
      exitCodeOf loader read first = 1 ∨ exitCodeOf loader read second = 1 := by
  rw [exitCodeOf_eq_one_iff, exitCodeOf_eq_one_iff, exitCodeOf_eq_one_iff, List.forall_mem_append,
    not_and_or]

/-- The sources of the files that succeed, in order and joined by line feeds, if there are any. -/
def joined? (files : List String) : Option String :=
  if files.filterMap (source? loader read) = [] then none
  else some ("\n".intercalate (files.filterMap (source? loader read)))

theorem joined?_eq (files : List String) :
    joined? loader read files =
      if (successes loader read files).isEmpty then none
      else some (plainOutput (successes loader read files)) := by
  rw [joined?, plainOutput, ← sources_successes]
  cases successes loader read files <;> rfl

end Files

/-! ### A run -/

/-- Texts joined by line feeds, with one at the end, are the texts with a line feed behind each. -/
theorem intercalate_newline {texts : List String} (h : texts ≠ []) :
    "\n".intercalate texts ++ "\n" = String.join (texts.map (· ++ "\n")) := by
  induction texts with
  | nil => exact absurd rfl h
  | cons text rest ih =>
      rw [List.map_cons, String.join_cons]
      cases rest with
      | nil => rw [String.intercalate_singleton, List.map_nil, String.join_nil, String.append_empty]
      | cons next rest =>
          rw [String.intercalate_cons_cons, String.append_assoc, ih (List.cons_ne_nil _ _)]

theorem joined?_newline (loader : Loader) (read : String → FileRead) (files : List String) :
    ((joined? loader read files).map (· ++ "\n")).getD "" =
      String.join ((files.filterMap (source? loader read)).map (· ++ "\n")) := by
  rw [joined?]
  split
  · rename_i hnone
    rw [hnone]
    rfl
  · rename_i hsome
    exact intercalate_newline hsome

section Run

variable {d : Directory} {engine : StyleEngine} {compiler : Link.FragmentCompiler} {a : Arguments}
  {loader : Loader} {files : List String}

/-- What a run leaves behind is told by the sources and the problems of its files. -/
theorem run_on (hloader : openLoader a engine d.read compiler = .ok loader) (hjson : a.json = false)
    (hfiles : files ≠ []) :
    run (a.on files) engine d.read compiler =
      { failed := !(problems loader d.read files).isEmpty
        printed :=
          if a.output.isSome then none
          else (joined? loader d.read files).map (· ++ "\n")
        problems := problems loader d.read files
        written := a.output.bind fun path =>
          (joined? loader d.read files).map fun text => (path, text)
        timing := a.timing } := by
  -- The files have no part in opening the loader.
  have hopen : openLoader (a.on files) engine d.read compiler = .ok loader := hloader
  have hsome : ¬ (a.on files).files.isEmpty = true := by
    rw [List.isEmpty_iff]
    exact hfiles
  have hplain : ∀ results, output (a.on files).json results = plainOutput results := by
    intro results
    change (if a.json = true then _ else _) = _
    rw [hjson]
    rfl
  rw [joined?_eq, run, if_neg hsome, hopen]
  simp only [runLoader, hplain]
  rfl

/-- The line that tells the time, if it is asked for. -/
def timeLines (timing : Bool) : List String :=
  if timing then ["elapsed: Nms"] else []

/-- A run without an output file prints each source with a line feed behind it and tells the problems. -/
theorem runOn_of_plain (hloader : openLoader a engine d.read compiler = .ok loader)
    (hjson : a.json = false) (houtput : a.output = none) (hfiles : files ≠ []) :
    runOn d engine compiler a files =
      { exitCode := exitCodeOf loader d.read files
        printed := String.join ((files.filterMap (source? loader d.read)).map (· ++ "\n"))
        problems := files.filterMap (problem? loader d.read) ++ timeLines a.timing } := by
  rw [runOn, run_on hloader hjson hfiles, houtput, ← joined?_newline, exitCodeOf_eq, ← problems_eq,
    Option.bind_none, DirectoryReport.ofReport]
  rfl

/-- A run with an output file writes the sources that there are to it, and fails only for a file. -/
theorem runOn_of_output {path : String} {place : List String}
    (hloader : openLoader a engine d.read compiler = .ok loader) (hjson : a.json = false)
    (houtput : a.output = some path) (hplace : d.writable path = .ok place) (hfiles : files ≠ []) :
    runOn d engine compiler a files =
      { exitCode := exitCodeOf loader d.read files
        printed := ""
        problems := files.filterMap (problem? loader d.read) ++ timeLines a.timing
        created := (joined? loader d.read files).bind fun text =>
          if (d.find? place).isSome then none else some ("/".intercalate place, text) } := by
  have hwrite : ∀ text, d.write path text =
      .ok (if (d.find? place).isSome then none else some ("/".intercalate place, text)) := by
    intro text
    rw [Directory.write, hplace]
    rfl
  rw [runOn, run_on hloader hjson hfiles, houtput, exitCodeOf_eq, ← problems_eq, Option.bind_some,
    DirectoryReport.ofReport]
  cases joined? loader d.read files with
  | none => rfl
  | some text =>
      dsimp only [Option.map_some]
      rw [hwrite]
      rfl

/-- Batches compose. A run prints the sources of the files that succeed, each with a line feed behind it,
tells the problems of the others, and fails if there are others; so a run over two batches prints and
reports what the runs over each do and fails when one of them fails. An output file is given the sources of
the files that succeed, in order, and is not written when there are none. -/
theorem runs_compose (d : Directory) (engine : StyleEngine) (compiler : Link.FragmentCompiler)
    (a : Arguments) {loader : Loader} (hloader : openLoader a engine d.read compiler = .ok loader)
    (hjson : a.json = false) :
    (∀ files : List String, a.output = none → a.timing = false → files ≠ [] →
      runOn d engine compiler a files =
        { exitCode := if ∀ path ∈ files, (source? loader d.read path).isSome then 0 else 1
          printed := String.join ((files.filterMap (source? loader d.read)).map (· ++ "\n"))
          problems := files.filterMap (problem? loader d.read) }) ∧
    (∀ first second : List String, a.output = none → a.timing = false → first ≠ [] → second ≠ [] →
      (runOn d engine compiler a (first ++ second)).printed =
        (runOn d engine compiler a first).printed ++ (runOn d engine compiler a second).printed ∧
      (runOn d engine compiler a (first ++ second)).problems =
        (runOn d engine compiler a first).problems ++ (runOn d engine compiler a second).problems ∧
      ((runOn d engine compiler a (first ++ second)).exitCode = 1 ↔
        (runOn d engine compiler a first).exitCode = 1 ∨
          (runOn d engine compiler a second).exitCode = 1)) ∧
    (∀ (files : List String) (path : String) (place : List String), a.output = some path →
      d.writable path = .ok place → files ≠ [] →
      (run (a.on files) engine d.read compiler).written =
        (joined? loader d.read files).map (fun text => (path, text)) ∧
      (runOn d engine compiler a files).created =
        (joined? loader d.read files).bind fun text =>
          if (d.find? place).isSome then none else some ("/".intercalate place, text)) := by
  have hplain : ∀ files : List String, a.output = none → a.timing = false → files ≠ [] →
      runOn d engine compiler a files =
        { exitCode := exitCodeOf loader d.read files
          printed := String.join ((files.filterMap (source? loader d.read)).map (· ++ "\n"))
          problems := files.filterMap (problem? loader d.read) } := by
    intro files houtput htiming hfiles
    have htime : timeLines a.timing = [] := by
      rw [htiming]
      rfl
    rw [runOn_of_plain hloader hjson houtput hfiles, htime, List.append_nil]
  refine ⟨hplain, ?_, ?_⟩
  · intro first second houtput htiming hfirst hsecond
    have hboth : first ++ second ≠ [] := List.append_ne_nil_of_left_ne_nil hfirst second
    rw [hplain _ houtput htiming hboth, hplain _ houtput htiming hfirst, hplain _ houtput htiming hsecond]
    refine ⟨?_, List.filterMap_append, exitCodeOf_append loader d.read first second⟩
    rw [List.filterMap_append, List.map_append, String.join_append]
  · intro files path place houtput hplace hfiles
    constructor
    · rw [run_on hloader hjson hfiles, houtput]
      rfl
    · rw [runOn_of_output hloader hjson houtput hplace hfiles]

/-- A directory that holds one file, a script. -/
def oneScript : Directory :=
  ⟨[(["a"], some (Encoding.Utf8.encode "<script>f()</script>".toList))]⟩

/-- The loader of a run that is asked for nothing. -/
def plainLoader : Loader :=
  { options := {}, engine := Style.engine }

/-- A file that is missing and one that is there, printed and written. -/
theorem runs_compose_missingAndPresent :
    runOn oneScript Style.engine {} {} ["b", "a"] =
      { exitCode := 1
        printed := "\nf()\n\n"
        problems := ["html-module-loader: read file b: io error: No such file or directory (os error 2)"] } ∧
    ((runOn oneScript Style.engine {} {} ["b", "a"]).printed =
        (runOn oneScript Style.engine {} {} ["b"]).printed ++
          (runOn oneScript Style.engine {} {} ["a"]).printed ∧
      (runOn oneScript Style.engine {} {} ["b", "a"]).problems =
        (runOn oneScript Style.engine {} {} ["b"]).problems ++
          (runOn oneScript Style.engine {} {} ["a"]).problems ∧
      ((runOn oneScript Style.engine {} {} ["b", "a"]).exitCode = 1 ↔
        (runOn oneScript Style.engine {} {} ["b"]).exitCode = 1 ∨
          (runOn oneScript Style.engine {} {} ["a"]).exitCode = 1)) ∧
    (run (Arguments.on { output := some "o" } ["b", "a"]) Style.engine oneScript.read).written =
      some ("o", "\nf()\n") ∧
    (runOn oneScript Style.engine {} { output := some "o" } ["b", "a"]).created = some ("o", "\nf()\n") := by
  have hmissing : oneScript.read "b" = .error "No such file or directory (os error 2)" := by cbv
  have hpresent : oneScript.read "a" = .ok (Encoding.Utf8.encode "<script>f()</script>".toList) := by cbv
  have hplace : oneScript.writable "o" = .ok ["o"] := by cbv
  have hnone : source? plainLoader oneScript.read "b" = none := by
    rw [source?, hmissing]
  have hproblem : problem? plainLoader oneScript.read "b" =
      some "html-module-loader: read file b: io error: No such file or directory (os error 2)" := by
    rw [problem?, hmissing]
    decide
  have hsource : source? plainLoader oneScript.read "a" = some "\nf()\n" := by
    rw [source?, hpresent]
    decide +kernel
  have hclean : problem? plainLoader oneScript.read "a" = none :=
    (problem?_eq_none_iff plainLoader oneScript.read).mpr (Option.isSome_of_eq_some hsource)
  have hprinting : openLoader {} Style.engine oneScript.read = .ok plainLoader := rfl
  have hwriting : openLoader { output := some "o" } Style.engine oneScript.read = .ok plainLoader := rfl
  obtain ⟨hplain, hcomposed, -⟩ := runs_compose oneScript Style.engine {} {} hprinting rfl
  obtain ⟨-, -, houtput⟩ := runs_compose oneScript Style.engine {} { output := some "o" } hwriting rfl
  refine ⟨?_, hcomposed ["b"] ["a"] rfl rfl (by decide) (by decide), ?_⟩
  · rw [hplain ["b", "a"] rfl rfl (by decide)]
    simp [hnone, hsource, hproblem, hclean]
  · obtain ⟨hwritten, hcreated⟩ := houtput ["b", "a"] "o" ["o"] rfl hplace (by decide)
    have hjoined : joined? plainLoader oneScript.read ["b", "a"] = some "\nf()\n" := by
      simp [joined?, hnone, hsource]
    rw [hwritten, hcreated, hjoined]
    exact ⟨rfl, by decide⟩

end Run

end MarkupModule.CommandLine
