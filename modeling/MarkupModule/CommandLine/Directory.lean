import MarkupModule.CommandLine.Batch

/-! A run in a directory that is held in memory. Paths are resolved from the directory; reading and
writing fail for the reasons that a file system would give. -/

namespace MarkupModule.CommandLine

/-- What a directory holds: files with their bytes and directories, each by its path. -/
structure Directory where
  entries : List (List String × Option (List UInt8))
  deriving Repr, Inhabited

namespace Directory

/-- Why a path cannot be used. -/
inductive Obstacle where
  | notFound
  | isDirectory
  | notDirectory
  deriving DecidableEq, Repr

def Obstacle.message : Obstacle → String
  | notFound => "No such file or directory (os error 2)"
  | isDirectory => "Is a directory (os error 21)"
  | notDirectory => "Not a directory (os error 20)"

/-- What stands at a place in the directory; the directory itself has the empty path. -/
def find? (d : Directory) (path : List String) : Option (Option (List UInt8)) :=
  if path.isEmpty then some none else d.entries.lookup path

/-- The place behind one more part of a path, which begins at a directory. -/
def descend (d : Directory) (place : List String) (part : String) : Except Obstacle (List String) :=
  match d.find? place with
  | none => .error .notFound
  | some (some _) => .error .notDirectory
  | some none =>
    if part == "" || part == "." then .ok place
    else if part == ".." then .ok place.dropLast
    else .ok (place ++ [part])

/-- The place that a path leads to, which need not exist. -/
def resolve (d : Directory) (path : String) : Except Obstacle (List String) :=
  if path.isEmpty then .error .notFound
  else (path.splitOn "/").foldlM d.descend []

def read (d : Directory) (path : String) : FileRead :=
  match d.resolve path with
  | .error obstacle => .error obstacle.message
  | .ok place =>
    match d.find? place with
    | none => .error Obstacle.notFound.message
    | some none => .error Obstacle.isDirectory.message
    | some (some bytes) => .ok bytes

def writable (d : Directory) (path : String) : Except Obstacle (List String) := do
  let place ← d.resolve path
  match d.find? place with
  | some none => .error .isDirectory
  | some (some _) => .ok place
  | none => if path.endsWith "/" then .error .isDirectory else .ok place

/-- Writes a file; the result is the file if it is new. -/
def write (d : Directory) (path text : String) : Except Obstacle (Option (String × String)) :=
  (d.writable path).map fun place =>
    if (d.find? place).isSome then none else some ("/".intercalate place, text)

end Directory

/-- What a run in a directory leaves behind: the exit code, the standard output, the lines of the error
output, and the file written, if it is new. -/
structure DirectoryReport where
  exitCode : Nat := 0
  printed : String := ""
  problems : List String := []
  created : Option (String × String) := none
  deriving DecidableEq, Repr, Inhabited

/-- The exit code for arguments that make no sense. -/
def usageExitCode : Nat := 2

/-- What is left behind once the output file is written, or cannot be. -/
def DirectoryReport.ofReport (d : Directory) (report : Report) : DirectoryReport :=
  let elapsed := if report.timing then ["elapsed: Nms"] else []
  let printed := report.printed.getD ""
  let exitCode := if report.failed then 1 else 0
  match report.written with
  | none => { exitCode, printed, problems := report.problems ++ elapsed }
  | some (path, text) =>
    match d.write path text with
    | .ok created => { exitCode, printed, problems := report.problems ++ elapsed, created }
    | .error obstacle =>
      { exitCode := 1
        printed
        problems := report.problems ++ [writeProblem path obstacle.message] ++ elapsed }

/-- A run in a directory; the time is not told. -/
def runIn (d : Directory) (engine : Markup.StyleEngine) (arguments : List String)
    (compiler : Link.FragmentCompiler := {}) : DirectoryReport :=
  match parse arguments with
  | none => { exitCode := usageExitCode }
  | some a => DirectoryReport.ofReport d (run a engine d.read compiler)

end MarkupModule.CommandLine
