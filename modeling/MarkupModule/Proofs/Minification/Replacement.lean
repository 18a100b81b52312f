import MarkupModule.Proofs.Text.Words
import Mathlib.Data.List.Infix

/-! What replaces styles and classes when a node is minified. A style is replaced by what the engine makes of
it, unless a binding stands in it, and a class by what is left of it once it is trimmed and collapsed. This
is said without the writer, which has tests of its own and is shown to write these replacements. -/

namespace MarkupModule.Markup

open MarkupModule.Text

/-- What replaces a style: nothing is left of a blank one, and any other is left to the engine. Where a step
of the engine refuses it, minification fails on that step. -/
def minifiedStyle {Step : Type} (engine : String → Except (Step × String) String)
    (operation : Step → String) (css : String) : Except Failure String :=
  if trim css.toList = [] then .ok ""
  else (engine css).mapError fun refusal => ⟨.minify, "", operation refusal.1, some refusal.2⟩

/-- A value that is filled in when the component runs, as a binding opens in it. -/
def IsBound (value : String) : Prop :=
  "\x7b\x7b".toList <:+: value.toList ∨ "[[".toList <:+: value.toList

instance (value : String) : Decidable (IsBound value) :=
  inferInstanceAs (Decidable (_ ∨ _))

namespace Writer

variable (w : Writer)

/-- An attribute with what replaces its value. -/
def minifiedAttribute (a : Attribute) : Except Failure Attribute :=
  if a.name = "style" ∧ w.minification.minifyStyle = true ∧ ¬IsBound a.value then
    (minifiedStyle w.engine.declarations DeclarationStep.operation a.value).map fun value => { a with value }
  else if a.name = "class" ∧ w.minification.collapseWhitespace = true then
    .ok { a with value := String.ofList (collapse (trim a.value.toList)) }
  else .ok a

/-- What replaces the text of an element that holds no markup: only a style sheet is minified. -/
def minifiedBody (tag : String) (raw : List Char) : Except Failure (List Char) :=
  if tag = "style" ∧ w.minification.minifyStyle = true then
    (minifiedStyle w.engine.stylesheet SheetStep.operation (String.ofList raw)).map String.toList
  else .ok raw

end Writer

/-! ### What the writer makes of them -/

theorem hasBinding_iff {value : String} : hasBinding value = true ↔ IsBound value := by
  rw [hasBinding, Bool.or_eq_true, contains_iff_isInfix, contains_iff_isInfix]
  rfl

theorem minifyStyle_eq {Step : Type} (engine : String → Except (Step × String) String)
    (operation : Step → String) (css : String) :
    minifyStyle engine operation css = minifiedStyle engine operation css := by
  rw [minifyStyle, minifiedStyle]
  by_cases hblank : isBlank css.toList = true
  · rw [if_pos hblank, if_pos (trim_eq_nil_iff.mpr hblank)]
  · rw [if_neg hblank, if_neg fun hnil => hblank (trim_eq_nil_iff.mp hnil)]
    cases engine css <;> rfl

namespace Writer

variable {w : Writer}

/-- The writer takes a value for a style to minify if it is replaced as one. -/
theorem isStyle_iff {a : Attribute} :
    (a.name == "style" && w.minification.minifyStyle && !hasBinding a.value) = true ↔
      a.name = "style" ∧ w.minification.minifyStyle = true ∧ ¬IsBound a.value := by
  rw [Bool.and_eq_true, Bool.and_eq_true, beq_iff_eq, Bool.not_eq_true', ← Bool.not_eq_true,
    hasBinding_iff, and_assoc]

theorem minifiedAttribute_eq (a : Attribute) :
    w.minifiedAttribute a = (w.attributeValue a).map fun value => { a with value } := by
  rw [minifiedAttribute, attributeValue]
  by_cases hstyle : a.name = "style" ∧ w.minification.minifyStyle = true ∧ ¬IsBound a.value
  · rw [if_pos hstyle, if_pos (isStyle_iff.mpr hstyle), StyleEngine.minifyDeclarations, minifyStyle_eq]
  · rw [if_neg hstyle, if_neg fun h => hstyle (isStyle_iff.mp h)]
    simp only [Bool.and_eq_true, beq_iff_eq]
    split <;> rfl

theorem rawBody_eq (tag : String) (raw : List Char) : w.rawBody tag raw = w.minifiedBody tag raw := by
  rw [rawBody, minifiedBody, StyleEngine.minifyStylesheet, minifyStyle_eq]
  simp only [Bool.and_eq_true, beq_iff_eq]

end Writer

end MarkupModule.Markup
