import Mathlib.Logic.Relation

/-! Loops over a position. A turn of a loop goes on with another state, ends with an answer, or fails on one
of its checks. When every turn that starts well goes on well, at a larger position within the bound, or ends
with a good answer, then no check of the run fails and it ends with a good answer. -/

namespace MarkupModule.Text

open Relation (ReflTransGen)

/-- A loop whose states have positions, with the bound that they are to keep to. -/
structure Loop (σ ρ : Type) where
  turn : σ → Option (σ ⊕ ρ)
  position : σ → Nat
  bound : Nat

namespace Loop

variable {σ ρ : Type} (loop : Loop σ ρ)

/-- Whether one turn of the loop leads to another. -/
def LeadsTo (s next : σ) : Prop :=
  loop.turn s = some (.inl next)

/-- Whether a state is at a larger position than another one, within the bound. -/
def Advances (s next : σ) : Prop :=
  loop.position s < loop.position next ∧ loop.position next ≤ loop.bound

instance (s next : σ) : Decidable (loop.Advances s next) :=
  inferInstanceAs (Decidable (_ ∧ _))

/-- The answer that the loop ends with; nothing when a turn fails or does not advance. -/
def run (s : σ) : Option ρ :=
  match loop.turn s with
  | none => none
  | some (.inr answer) => some answer
  | some (.inl next) => if _advances : loop.Advances s next then run next else none
termination_by loop.bound - loop.position s
decreasing_by
  rw [Advances] at _advances
  omega

/-- What is shown of the run from a state: each turn that is reached starts within the bound, does not fail
and advances whenever it goes on, and the run ends with a good answer. -/
structure RunsSafely (first : σ) (good : ρ → Prop) : Prop where
  inRange : ∀ s, ReflTransGen loop.LeadsTo first s → loop.position s ≤ loop.bound
  turns : ∀ s, ReflTransGen loop.LeadsTo first s → loop.turn s ≠ none
  advances : ∀ s next, ReflTransGen loop.LeadsTo first s → loop.LeadsTo s next → loop.Advances s next
  ends : ∃ answer, loop.run first = some answer ∧ good answer

/-- What a turn keeps: from a state of the kind, which is within the bound, it advances to another one or ends
with a good answer. -/
structure Keeps (kind : σ → Prop) (good : ρ → Prop) : Prop where
  inRange : ∀ s, kind s → loop.position s ≤ loop.bound
  turn : ∀ s, kind s →
    (∃ next, loop.LeadsTo s next ∧ loop.Advances s next ∧ kind next) ∨
      ∃ answer, loop.turn s = some (.inr answer) ∧ good answer

variable {loop}

theorem run_of_leadsTo {s next : σ} (h : loop.LeadsTo s next) (hadvances : loop.Advances s next) :
    loop.run s = loop.run next := by
  rw [LeadsTo] at h
  rw [run, h]
  exact dif_pos hadvances

theorem run_of_inr {s : σ} {answer : ρ} (h : loop.turn s = some (.inr answer)) :
    loop.run s = some answer := by
  rw [run, h]

namespace Keeps

variable {kind : σ → Prop} {good : ρ → Prop} {s : σ}

theorem ne_none (h : loop.Keeps kind good) (hs : kind s) : loop.turn s ≠ none := by
  intro hfails
  rcases h.turn s hs with ⟨next, hnext, -⟩ | ⟨answer, hends, -⟩
  · rw [LeadsTo, hfails] at hnext
    cases hnext
  · rw [hfails] at hends
    cases hends

theorem next (h : loop.Keeps kind good) (hs : kind s) {next : σ} (hnext : loop.LeadsTo s next) :
    loop.Advances s next ∧ kind next := by
  rw [LeadsTo] at hnext
  rcases h.turn s hs with ⟨next', hnext', hkind⟩ | ⟨answer, hends, -⟩
  · rw [LeadsTo, hnext] at hnext'
    obtain rfl := Sum.inl.inj (Option.some.inj hnext')
    exact hkind
  · rw [hends] at hnext
    cases hnext

theorem kind_of_reached (h : loop.Keeps kind good) {first : σ} (hfirst : kind first)
    (hreached : ReflTransGen loop.LeadsTo first s) : kind s := by
  induction hreached with
  | refl => exact hfirst
  | tail _ hnext ih => exact (h.next ih hnext).2

/-- The loop ends, as positions cannot grow beyond the bound. -/
theorem exists_run (h : loop.Keeps kind good) (hs : kind s) :
    ∃ answer, loop.run s = some answer ∧ good answer := by
  induction hleft : loop.bound - loop.position s using Nat.strongRecOn generalizing s with
  | _ left ih =>
      subst hleft
      rcases h.turn s hs with ⟨next, hnext, hadvances, hkind⟩ | ⟨answer, hends, hgood⟩
      · rw [run_of_leadsTo hnext hadvances]
        obtain ⟨hlt, hrange⟩ := hadvances
        exact ih _ (by omega) hkind rfl
      · exact ⟨answer, run_of_inr hends, hgood⟩

/-- What every turn keeps makes the whole run safe. -/
theorem runsSafely (h : loop.Keeps kind good) {first : σ} (hfirst : kind first) :
    loop.RunsSafely first good where
  inRange s hreached := h.inRange s (h.kind_of_reached hfirst hreached)
  turns _ hreached := h.ne_none (h.kind_of_reached hfirst hreached)
  advances _ _ hreached hnext := (h.next (h.kind_of_reached hfirst hreached) hnext).1
  ends := h.exists_run hfirst

end Keeps

end Loop

end MarkupModule.Text
