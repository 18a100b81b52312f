import MarkupModule.Failure
import MarkupModule.Link.Path
import MarkupModule.Options
import MarkupModule.Text.Search

/-! The rules that options set for links. Fragments are compiled before paths are searched for them. -/

namespace MarkupModule.Link

/-- What compiles fragments. It may refuse to, and says why. -/
structure FragmentCompiler where
  refusal? : List String → Option String := fun _ => none

/-- Compiles fragments, if there are any. The operation says what they are for. -/
def FragmentCompiler.compile (compiler : FragmentCompiler) (operation : String)
    (fragments : List String) : Except Failure Unit :=
  match compiler.refusal? fragments with
  | none => .ok ()
  | some cause => if fragments.isEmpty then .ok () else .error ⟨.options, "", operation, some cause⟩

/-- Compiles the fragments of options, those of links that are left out before those of paths that are
kept. -/
def compileRules (compiler : FragmentCompiler) (options : Options) : Except Failure Unit := do
  compiler.compile "compile ignoreLinksFromPartialMatches" options.ignoredFragments
  compiler.compile "compile ignorePathReWrite" options.keptFragments

/-- Whether one of the fragments occurs in a path. -/
def matchesAny (fragments : List String) (path : String) : Bool :=
  fragments.any fun fragment => Text.contains fragment.toList path.toList

/-- Whether a link is left out of the module. -/
def isIgnored (options : Options) (href : String) : Bool :=
  options.ignoredLinks.contains href || matchesAny options.ignoredFragments href

def specifier (options : Options) (href : String) : String :=
  if matchesAny options.keptFragments href then href else relativeSpecifier href

end MarkupModule.Link
