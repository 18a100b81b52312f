import MarkupModule.Encoding
import MarkupModule.ModuleText
import MarkupModule.Options.Json

/-! The loader: from the source of a component to the text of a module. A failure names the resource that
it happened on. -/

namespace MarkupModule

open Markup

/-- A loader with its options. -/
structure Loader where
  options : Options
  minification : Minification := {}
  engine : StyleEngine

namespace Loader

/-- The loader for options, once their rules are compiled. -/
def ofOptions (compiler : Link.FragmentCompiler) (engine : StyleEngine) (options : Options) :
    Except Failure Loader :=
  (Link.compileRules compiler options).map fun _ => { options, engine }

def generator (loader : Loader) : Generator :=
  ⟨loader.options, loader.minification, loader.engine⟩

def transform (loader : Loader) (document : Document) (resource : String) :
    Except Failure ModuleText :=
  (loader.generator.generate (Partition.ofDocument document)).mapError (·.withResource resource)

/-- The module for the source of a component. -/
def process (loader : Loader) (content resource : String) : Except Failure ModuleText :=
  loader.transform (Document.parse content) resource

/-- The module for the source of a component, given as bytes. -/
def processBytes (loader : Loader) (bytes : List UInt8) (resource : String) :
    Except Failure ModuleText :=
  match decodeSource bytes with
  | .ok content => loader.process content resource
  | .error failure => .error (failure.withResource resource)

end Loader

/-- A host that asks for a transformation: the resource it is about, and its options, which it may fail
to give. -/
structure Host where
  resource : String
  options : Except Failure Options

/-- What a host is told in the end. -/
inductive Answer where
  | failed (failure : Failure)
  | done (source sourceMap : String)
  deriving DecidableEq, Repr

/-- The outcome of a transformation for a host. -/
def Host.outcome (host : Host) (engine : StyleEngine) (content : String)
    (compiler : Link.FragmentCompiler := {}) : Except Failure ModuleText := do
  let options ← host.options
  let loader ← Loader.ofOptions compiler engine options
  loader.process content host.resource

/-- The answers that a host gets, which is always one. -/
def Host.run (host : Host) (engine : StyleEngine) (content : String)
    (compiler : Link.FragmentCompiler := {}) : List Answer :=
  match host.outcome engine content compiler with
  | .ok module => [.done module.source module.sourceMap]
  | .error failure => [.failed (failure.withResource host.resource)]

end MarkupModule
