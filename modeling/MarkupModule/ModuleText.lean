import MarkupModule.Json.Quote
import MarkupModule.Link.Rules
import MarkupModule.Markup.Writer
import MarkupModule.Partition

/-! The generated module. It is a list of statements: imports of links, the functions that register
markup, the registrations, and then the scripts, so that a script finds everything that it may need. -/

namespace MarkupModule

open Markup

/-- How a registration treats its markup: it defines an element or is added to the page. -/
inductive Registration where
  | register
  | toBody
  deriving DecidableEq, Repr, Inhabited

def Registration.method : Registration → String
  | .register => "register"
  | .toBody => "toBody"

/-- A statement of the generated module. -/
inductive Statement where
  | importFrom (specifier : String)
  | requireHelper (module : String)
  | registerMarkup (registration : Registration) (markup : String)
  | script (body : String)
  deriving DecidableEq, Repr, Inhabited

namespace Statement

/-- The name that the generated module gives to the functions that register markup. -/
def helperName : String := "RegisterHtmlTemplate"

def source : Statement → String
  | importFrom specifier => "\nimport '" ++ specifier ++ "';\n"
  | requireHelper module => "\nconst " ++ helperName ++ " = require('" ++ module ++ "');\n"
  | registerMarkup registration markup =>
    "\n" ++ helperName ++ "." ++ registration.method ++ "(" ++
      String.ofList (Json.quote markup.toList) ++ ");\n"
  | script body => "\n" ++ body ++ "\n"

/-- The lines that a statement counts for. The helper counts for none, and line feeds within a
specifier are not counted. -/
def lineCount : Statement → Nat
  | importFrom _ => 2
  | requireHelper _ => 0
  | registerMarkup _ _ => 2
  | script body => 2 + body.toList.count '\n'

def importCount : Statement → Nat
  | importFrom _ => 1
  | _ => 0

end Statement

/-- The text of a generated module, with the number of its lines and imports. There is no source map. -/
structure ModuleText where
  source : String
  sourceMap : String
  lineCount : Nat
  importCount : Nat
  deriving DecidableEq, Repr, Inhabited

namespace ModuleText

def ofStatements (statements : List Statement) : ModuleText :=
  { source := String.join (statements.map Statement.source)
    sourceMap := ""
    lineCount := statements.foldl (fun n s => n + s.lineCount) 0
    importCount := statements.foldl (fun n s => n + s.importCount) 0 }

end ModuleText

/-- What a module is generated with. -/
structure Generator where
  options : Options
  minification : Minification
  engine : StyleEngine

namespace Generator

/-- The imports of the links that have a path and are not left out. -/
def linkStatements (g : Generator) (links : List Located) : List Statement :=
  let hrefs := links.map fun link => link.node.attributeValue "href"
  (hrefs.filter fun href => !href.isEmpty && !Link.isIgnored g.options href).map fun href =>
    .importFrom (Link.specifier g.options href)

/-- The functions that register markup, if the module needs them. -/
def helperStatements (g : Generator) (p : Partition) : List Statement :=
  if p.needsRegisterHelper then [.requireHelper g.options.registerHelper] else []

/-- The writer for the markup of a document, without the scripts that are part of the module. -/
def writer (g : Generator) (p : Partition) : Writer :=
  ⟨g.minification, g.engine, p.extracted.contains⟩

def registrationStatements (g : Generator) (p : Partition) (registration : Registration) :
    List Located → Except Failure (List Statement)
  | [] => .ok []
  | node :: rest => do
    let markup ← (g.writer p).write node
    let statements ← g.registrationStatements p registration rest
    .ok (.registerMarkup registration markup :: statements)

/-- The statement for a script: an import of its file, or its text. -/
def scriptStatement (script : Located) : Statement :=
  let src := script.node.attributeValue "src"
  if src.isEmpty then .script script.node.innerText else .importFrom (Link.relativeSpecifier src)

/-- The statements of the module for a partitioned document. -/
def statements (g : Generator) (p : Partition) : Except Failure (List Statement) := do
  let registered ← g.registrationStatements p .register p.templateModules
  let added ← g.registrationStatements p .toBody p.otherNodes
  .ok (g.linkStatements p.links ++ g.helperStatements p ++ registered ++ added ++
    p.scripts.map scriptStatement)

def generate (g : Generator) (p : Partition) : Except Failure ModuleText :=
  (g.statements p).map ModuleText.ofStatements

end Generator

end MarkupModule
