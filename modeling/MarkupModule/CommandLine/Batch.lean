import MarkupModule.CommandLine.Arguments
import MarkupModule.Json.Pretty
import MarkupModule.Loader

/-! A run over a batch of files. What it prints and writes is a function of the arguments and of what
reading the files gives, so that a run can be described without a file system. -/

namespace MarkupModule.CommandLine

open Markup

/-- The bytes of a file, or why it cannot be read. -/
abbrev FileRead := Except String (List UInt8)

/-- What a run leaves behind: an exit code, the text on the standard output, the lines on the error
output, a text for the output file with its path, and whether the time is asked for. -/
structure Report where
  failed : Bool := false
  printed : Option String := none
  problems : List String := []
  written : Option (String × String) := none
  timing : Bool := false
  deriving DecidableEq, Repr, Inhabited

/-- The options of a file with those of the command line added. -/
def Arguments.extend (a : Arguments) (options : Options) : Options :=
  { ignoredLinks := options.ignoredLinks ++ a.ignoredLinks
    ignoredFragments := options.ignoredFragments ++ a.ignoredFragments
    keptFragments := options.keptFragments ++ a.keptFragments
    registerHelper := a.registerHelper.getD options.registerHelper }

def readOptionsFile (path : String) (content : FileRead) : Except String Options :=
  match content with
  | .error reason => .error ("error reading options " ++ Text.shown path ++ ": " ++ reason)
  | .ok bytes =>
    match Encoding.Utf8.decode? bytes with
    | none =>
      .error ("error reading options " ++ Text.shown path ++
        ": stream did not contain valid UTF-8")
    | some s =>
      match Options.ofJson (String.ofList s) with
      | .ok options => .ok options
      | .error failure => .error ("error in options " ++ Text.shown path ++ ": " ++ failure.message)

def loadOptions (a : Arguments) (read : String → FileRead) : Except String Options :=
  match a.optionsFile with
  | none => .ok (a.extend {})
  | some path => (readOptionsFile path (read path)).map a.extend

/-- The loader of a run: its options are loaded and their rules compiled. -/
def openLoader (a : Arguments) (engine : StyleEngine) (read : String → FileRead)
    (compiler : Link.FragmentCompiler := {}) : Except String Loader := do
  let options ← loadOptions a read
  (Loader.ofOptions compiler engine options).mapError Failure.message

/-- The result for one file: its module, or a line for the error output. -/
def processFile (loader : Loader) (read : String → FileRead) (path : String) :
    Except String ModuleText :=
  match read path with
  | .error reason => .error (Failure.mk .io path "read file" (some reason)).message
  | .ok bytes =>
    match loader.processBytes bytes path with
    | .ok module => .ok module
    | .error failure => .error ("error transforming " ++ path ++ ": " ++ failure.message)

/-- The modules of the files that succeed, with their paths. -/
def successes (loader : Loader) (read : String → FileRead) (files : List String) :
    List (String × ModuleText) :=
  files.filterMap fun path => (processFile loader read path).toOption.map fun m => (path, m)

def problems (loader : Loader) (read : String → FileRead) (files : List String) : List String :=
  files.filterMap fun path =>
    match processFile loader read path with
    | .ok _ => none
    | .error line => some line

def moduleValue (result : String × ModuleText) : Json.Value :=
  .object [("path", .string result.1), ("source", .string result.2.source),
    ("sourceMap", .string result.2.sourceMap), ("lineCount", .number result.2.lineCount)]

/-- The modules as JSON: one as an object, several as a list. -/
def jsonOutput (results : List (String × ModuleText)) : String :=
  match results with
  | [result] => (moduleValue result).pretty
  | _ => (Json.Value.array (results.map moduleValue)).pretty

def plainOutput (results : List (String × ModuleText)) : String :=
  "\n".intercalate (results.map (·.2.source))

def output (json : Bool) (results : List (String × ModuleText)) : String :=
  if json then jsonOutput results else plainOutput results

def runLoader (a : Arguments) (loader : Loader) (read : String → FileRead) : Report :=
  let results := successes loader read a.files
  let lines := problems loader read a.files
  let text := if results.isEmpty then none else some (output a.json results)
  { failed := !lines.isEmpty
    printed := if a.output.isSome then none else text.map (· ++ "\n")
    problems := lines
    written := a.output.bind fun path => text.map fun t => (path, t)
    timing := a.timing }

/-- What a run leaves behind that does not get to its files. -/
def Report.refused (line : String) : Report :=
  { failed := true, problems := [line] }

def run (a : Arguments) (engine : StyleEngine) (read : String → FileRead)
    (compiler : Link.FragmentCompiler := {}) : Report :=
  if a.files.isEmpty then .refused "error: at least one HTML file is required"
  else
    match openLoader a engine read compiler with
    | .error line => .refused line
    | .ok loader => runLoader a loader read

/-- The line for an output file that cannot be written. -/
def writeProblem (path reason : String) : String :=
  "error writing to " ++ Text.shown path ++ ": " ++ reason

end MarkupModule.CommandLine
