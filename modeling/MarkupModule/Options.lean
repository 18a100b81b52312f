/-! The options of a transformation: which links are left out of the module, which keep their path as it
is written, and where the functions come from that register markup. -/

namespace MarkupModule

/-- The module that registers markup unless the options name another one. -/
def defaultRegisterHelper : String := "polymer-webpack-loader/register-html-template"

/-- The options of a transformation. -/
structure Options where
  ignoredLinks : List String := []
  ignoredFragments : List String := []
  keptFragments : List String := []
  registerHelper : String := defaultRegisterHelper
  deriving DecidableEq, Repr, Inhabited

namespace Options

def ignoreLink (options : Options) (href : String) : Options :=
  { options with ignoredLinks := options.ignoredLinks ++ [href] }

/-- Leaves out links whose path contains a fragment. -/
def ignoreLinksMatching (options : Options) (fragment : String) : Options :=
  { options with ignoredFragments := options.ignoredFragments ++ [fragment] }

/-- Keeps paths that contain a fragment as they are written. -/
def keepPathsMatching (options : Options) (fragment : String) : Options :=
  { options with keptFragments := options.keptFragments ++ [fragment] }

def registerThrough (options : Options) (module : String) : Options :=
  { options with registerHelper := module }

end Options

end MarkupModule
