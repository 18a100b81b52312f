/-! Failures: what was being done, on which file, what kind of trouble it was, and the cause in words. -/

namespace MarkupModule

/-- The kinds of trouble. -/
inductive FailureKind where
  | parse
  | minify
  | options
  | io
  deriving DecidableEq, Repr, Inhabited

def FailureKind.message : FailureKind → String
  | .parse => "parse error"
  | .minify => "minify error"
  | .options => "invalid options"
  | .io => "io error"

/-- A failure of an operation on a resource, which is empty as long as it is not known. -/
structure Failure where
  kind : FailureKind
  resource : String
  operation : String
  cause : Option String
  deriving DecidableEq, Repr, Inhabited

namespace Failure

def message (failure : Failure) : String :=
  "html-module-loader: " ++ failure.operation ++ " " ++ failure.resource ++ ": " ++
    failure.kind.message ++
    match failure.cause with
    | some cause => ": " ++ cause
    | none => ""

/-- The failure with its resource named, unless it names one already. -/
def withResource (failure : Failure) (resource : String) : Failure :=
  if failure.resource.isEmpty then { failure with resource } else failure

end Failure

end MarkupModule
