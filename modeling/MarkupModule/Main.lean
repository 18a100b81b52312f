import MarkupModule.CommandLine.Batch
import MarkupModule.Style.Engine

/-! The program: reads the files that the command line names, runs the batch over what it has read, and
prints and writes what the run leaves behind. -/

namespace MarkupModule.CommandLine

/-- The words for the reasons that are met most often, by number. -/
def reasonWords : List (Nat × String) := [
  (2, "No such file or directory"), (13, "Permission denied"), (17, "File exists"),
  (20, "Not a directory"), (21, "Is a directory"), (28, "No space left on device")]

/-- A reason in words and with its number. The system may give the number with the opposite sign. -/
def numbered (details : String) (code : UInt32) : String :=
  let n := if code < 2147483648 then code.toNat else 4294967296 - code.toNat
  (reasonWords.lookup n).getD details ++ " (os error " ++ toString n ++ ")"

def reasonOf : IO.Error → String
  | .noFileOrDirectory _ code details => numbered details code
  | .permissionDenied _ code details => numbered details code
  | .inappropriateType _ code details => numbered details code
  | .invalidArgument _ code details => numbered details code
  | .resourceExhausted _ code details => numbered details code
  | .noSuchThing _ code details => numbered details code
  | .alreadyExists _ code details => numbered details code
  | .otherError code details => numbered details code
  | problem => toString problem

def readFile (path : String) : IO FileRead := do
  try
    let bytes ← IO.FS.readBinFile path
    return .ok bytes.toList
  catch problem => return .error (reasonOf problem)

/-- Reads the files that the arguments name, the options among them. -/
def readFiles (a : Arguments) : IO (List (String × FileRead)) :=
  (a.optionsFile.toList ++ a.files).mapM fun path => return (path, ← readFile path)

/-- Writes the output file, if there is one; the result says whether that failed. -/
def writeOutput : Option (String × String) → IO Bool
  | none => return false
  | some (path, text) => do
    try
      IO.FS.writeFile path text
      return false
    catch problem =>
      IO.eprintln (writeProblem path (reasonOf problem))
      return true

/-- Runs the program with arguments that make sense; the result is the exit code. -/
def execute (a : Arguments) : IO UInt32 := do
  let files ← readFiles a
  let read (path : String) : FileRead := (files.lookup path).getD (.error "")
  let start ← IO.monoMsNow
  let report := run a Style.engine read
  for line in report.problems do
    IO.eprintln line
  let stop ← IO.monoMsNow
  IO.print (report.printed.getD "")
  let unwritten ← writeOutput report.written
  if report.timing then
    IO.eprintln s!"elapsed: {stop - start}ms"
  return if report.failed || unwritten then 1 else 0

end MarkupModule.CommandLine

/-- The exit code of the program for the arguments it is started with. -/
def main (arguments : List String) : IO UInt32 :=
  match MarkupModule.CommandLine.parse arguments with
  | some a => MarkupModule.CommandLine.execute a
  | none => do
    IO.eprintln "error: the arguments make no sense"
    return 2
