import MarkupModule.Loader
import Mathlib

/-! When a module is generated, and what statements it then has. The only step that may fail is the
writing of markup, so a module is generated exactly when every registered node can be written, and its
statements follow from what was written. -/

namespace MarkupModule

open Markup

theorem bind_eq_ok_iff {ε α β : Type} {x : Except ε α} {f : α → Except ε β} {b : β} :
    (x >>= f) = .ok b ↔ ∃ a, x = .ok a ∧ f a = .ok b := by
  cases x <;> simp [Bind.bind, Except.bind]

theorem map_eq_ok_iff {ε α β : Type} {x : Except ε α} {f : α → β} {b : β} :
    x.map f = .ok b ↔ ∃ a, x = .ok a ∧ b = f a := by
  cases x <;> simp [Except.map, eq_comm]

theorem mapError_eq_ok_iff {ε δ α : Type} {x : Except ε α} {f : ε → δ} {a : α} :
    x.mapError f = .ok a ↔ x = .ok a := by
  cases x <;> simp [Except.mapError]

/-- The markup that a writer makes of each node of a list. -/
def Written (w : Writer) (nodes : List Located) (markups : List String) : Prop :=
  List.Forall₂ (fun node markup => w.write node = .ok markup) nodes markups

namespace ModuleText

theorem lineCount_ofStatements (statements : List Statement) :
    (ofStatements statements).lineCount = (statements.map Statement.lineCount).sum := by
  rw [ofStatements, List.sum_eq_foldl, List.foldl_map]

theorem importCount_ofStatements (statements : List Statement) :
    (ofStatements statements).importCount = (statements.map Statement.importCount).sum := by
  rw [ofStatements, List.sum_eq_foldl, List.foldl_map]

end ModuleText

namespace Generator

variable {g : Generator} {p : Partition}

theorem registrationStatements_eq_ok_iff {registration : Registration} {nodes : List Located}
    {statements : List Statement} :
    g.registrationStatements p registration nodes = .ok statements ↔
      ∃ markups, Written (g.writer p) nodes markups ∧
        statements = markups.map (.registerMarkup registration) := by
  induction nodes generalizing statements with
  | nil =>
      rw [registrationStatements, Except.ok.injEq]
      constructor
      · rintro rfl
        exact ⟨[], List.Forall₂.nil, rfl⟩
      · rintro ⟨markups, hwritten, rfl⟩
        rw [List.forall₂_nil_left_iff.mp hwritten, List.map_nil]
  | cons node rest ih =>
      rw [registrationStatements, bind_eq_ok_iff]
      constructor
      · rintro ⟨markup, hmarkup, h⟩
        obtain ⟨others, hothers, h⟩ := bind_eq_ok_iff.mp h
        obtain ⟨markups, hwritten, rfl⟩ := ih.mp hothers
        rw [Except.ok.injEq] at h
        exact ⟨markup :: markups, List.Forall₂.cons hmarkup hwritten, h.symm⟩
      · rintro ⟨markups, hwritten, rfl⟩
        obtain ⟨markup, others, hmarkup, hothers, rfl⟩ := List.forall₂_cons_left_iff.mp hwritten
        exact ⟨markup, hmarkup, bind_eq_ok_iff.mpr ⟨_, ih.mpr ⟨others, hothers, rfl⟩, rfl⟩⟩

/-- The statements of a module, in the order in which they run. -/
theorem statements_eq_ok_iff {statements : List Statement} :
    g.statements p = .ok statements ↔
      ∃ registered added, Written (g.writer p) p.templateModules registered ∧
        Written (g.writer p) p.otherNodes added ∧
        statements = g.linkStatements p.links ++ g.helperStatements p ++
          registered.map (.registerMarkup .register) ++ added.map (.registerMarkup .toBody) ++
          p.scripts.map scriptStatement := by
  rw [Generator.statements, bind_eq_ok_iff]
  constructor
  · rintro ⟨first, hfirst, h⟩
    obtain ⟨second, hsecond, h⟩ := bind_eq_ok_iff.mp h
    obtain ⟨registered, hregistered, rfl⟩ := registrationStatements_eq_ok_iff.mp hfirst
    obtain ⟨added, hadded, rfl⟩ := registrationStatements_eq_ok_iff.mp hsecond
    exact ⟨registered, added, hregistered, hadded, (Except.ok.inj h).symm⟩
  · rintro ⟨registered, added, hregistered, hadded, rfl⟩
    refine ⟨_, registrationStatements_eq_ok_iff.mpr ⟨registered, hregistered, rfl⟩, ?_⟩
    exact bind_eq_ok_iff.mpr ⟨_, registrationStatements_eq_ok_iff.mpr ⟨added, hadded, rfl⟩, rfl⟩

end Generator

namespace Loader

/-- A loader that keeps styles as they are, with a short name for the functions that register markup. -/
def keepingStyles : Loader :=
  { options := { registerHelper := "r" }, engine := ⟨.ok, .ok⟩ }

theorem transform_eq_ok_iff {loader : Loader} {document : Document} {resource : String}
    {module : ModuleText} :
    loader.transform document resource = .ok module ↔
      ∃ statements, loader.generator.statements (Partition.ofDocument document) = .ok statements ∧
        module = ModuleText.ofStatements statements := by
  rw [transform, mapError_eq_ok_iff, Generator.generate, map_eq_ok_iff]

end Loader

end MarkupModule
