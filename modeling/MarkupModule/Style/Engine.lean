import MarkupModule.Markup.Writer
import MarkupModule.Style.Reduction
import MarkupModule.Style.Sheet

/-! Minifying styles: text is read, reduced and written again. -/

namespace MarkupModule.Style

open MarkupModule.Markup

/-- A result of reading at a step, with problems in words. -/
def inWords {α Step : Type} (step : Step) (css : List Char) (read : Except Problem α) :
    Except (Step × String) α :=
  read.mapError fun problem => (step, problem.message css)

def minifySheet (css : String) : Except (SheetStep × String) String :=
  (inWords .parse css.toList (Sheet.read css.toList)).map fun sheet => sheet.reduced.text

def minifyDeclarations (css : String) : Except (DeclarationStep × String) String :=
  let s := Stretch.ofText css.toList
  (inWords .parse css.toList (readDeclarations s.stop .empty s.items)).map fun block =>
    String.ofList block.arranged.text

/-- All that is refused is refused when it is read. -/
def engine : StyleEngine := ⟨minifySheet, minifyDeclarations⟩

end MarkupModule.Style
