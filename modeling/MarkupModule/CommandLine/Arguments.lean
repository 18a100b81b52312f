import MarkupModule.Options

/-! The arguments of the command line. Options that take a value have it behind an equals sign or as the
next argument, short ones also directly behind their letter; flags may share one hyphen. Behind a double
hyphen every argument is a file. -/

namespace MarkupModule.CommandLine

/-- What the command line asks for. -/
structure Arguments where
  optionsFile : Option String := none
  ignoredLinks : List String := []
  ignoredFragments : List String := []
  keptFragments : List String := []
  registerHelper : Option String := none
  output : Option String := none
  json : Bool := false
  timing : Bool := false
  verbose : Bool := false
  files : List String := []
  deriving DecidableEq, Repr, Inhabited

/-- Options that take a value. -/
inductive ValueOption where
  | optionsFile
  | ignoreLink
  | ignoreFragment
  | keepFragment
  | registerHelper
  | output
  deriving DecidableEq, Repr

/-- Options without a value. -/
inductive Flag where
  | json
  | timing
  | verbose
  deriving DecidableEq, Repr

namespace Arguments

def once (current : Option String) (value : String) : Option (Option String) :=
  if current.isSome then none else some (some value)

/-- Sets an option that names a file, which may be given once and not be empty. -/
def oncePath (current : Option String) (value : String) : Option (Option String) :=
  if value.isEmpty then none else once current value

/-- The arguments with a value option, unless it must not be given again. -/
def setValue (a : Arguments) (value : String) : ValueOption → Option Arguments
  | .optionsFile => (oncePath a.optionsFile value).map fun v => { a with optionsFile := v }
  | .ignoreLink => some { a with ignoredLinks := a.ignoredLinks ++ [value] }
  | .ignoreFragment => some { a with ignoredFragments := a.ignoredFragments ++ [value] }
  | .keepFragment => some { a with keptFragments := a.keptFragments ++ [value] }
  | .registerHelper => (once a.registerHelper value).map fun v => { a with registerHelper := v }
  | .output => (oncePath a.output value).map fun v => { a with output := v }

/-- The arguments with a flag, unless it is given already. -/
def setFlag (a : Arguments) : Flag → Option Arguments
  | .json => if a.json then none else some { a with json := true }
  | .timing => if a.timing then none else some { a with timing := true }
  | .verbose => if a.verbose then none else some { a with verbose := true }

/-- The arguments with one more file, whose name must not be empty. -/
def addFile (a : Arguments) (file : String) : Option Arguments :=
  if file.isEmpty then none else some { a with files := a.files ++ [file] }

end Arguments

def valueOption? (name : String) : Option ValueOption :=
  [("options", ValueOption.optionsFile), ("ignore-link", .ignoreLink),
    ("ignore-link-partial", .ignoreFragment), ("ignore-path-rewrite", .keepFragment),
    ("register-helper", .registerHelper), ("output", .output)].lookup name

def flag? (name : String) : Option Flag :=
  [("json", Flag.json), ("timing", .timing), ("verbose", .verbose)].lookup name

def cutAtEquals (s : List Char) : String × Option String :=
  let name := String.ofList (s.takeWhile (· != '='))
  match s.dropWhile (· != '=') with
  | [] => (name, none)
  | _ :: value => (name, some (String.ofList value))

/-- Whether an argument can be the value of the option in front of it: it does not look like an option. -/
def isValue (argument : String) : Bool :=
  match argument.toList with
  | ['-'] => true
  | '-' :: _ => false
  | _ => true

/-- What the letters of an argument with one hyphen do: they set flags, and the last may be an option
whose value follows, in the argument or behind it. -/
def letters (a : Arguments) : List Char → Option (Arguments × Bool)
  | [] => some (a, false)
  | 'v' :: rest => (a.setFlag .verbose).bind fun a' => letters a' rest
  | 'o' :: rest =>
    if rest.isEmpty then some (a, true)
    else
      let value := if rest.head? == some '=' then rest.drop 1 else rest
      (a.setValue (String.ofList value) .output).map fun a' => (a', false)
  | _ :: _ => none

/-- Reads arguments; nothing when they make no sense. -/
def parseFrom (a : Arguments) : List String → Option Arguments
  | [] => some a
  | argument :: rest =>
    match argument.toList with
    | '-' :: '-' :: [] => rest.foldlM Arguments.addFile a
    | '-' :: '-' :: long =>
      let (name, value) := cutAtEquals long
      match valueOption? name, value with
      | some option, some v => (a.setValue v option).bind fun a' => parseFrom a' rest
      | some option, none =>
        match rest with
        | v :: rest' =>
          if isValue v then (a.setValue v option).bind fun a' => parseFrom a' rest' else none
        | [] => none
      | none, some _ => none
      | none, none => ((flag? name).bind a.setFlag).bind fun a' => parseFrom a' rest
    | '-' :: c :: short =>
      match letters a (c :: short) with
      | none => none
      | some (a', false) => parseFrom a' rest
      | some (a', true) =>
        match rest with
        | v :: rest' =>
          if isValue v then (a'.setValue v .output).bind fun a'' => parseFrom a'' rest' else none
        | [] => none
    | _ => (a.addFile argument).bind fun a' => parseFrom a' rest

def parse (arguments : List String) : Option Arguments :=
  parseFrom {} arguments

end MarkupModule.CommandLine
