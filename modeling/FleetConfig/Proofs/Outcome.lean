import FleetConfig.Outcome
import Mathlib.Data.List.Perm.Basic

/-!
# Outcomes

An outcome is a change or says that nothing changed. A row of operations has changed nothing if none
of them has, its outcome is the same in whatever order, and each outcome is told from its word.

## Main results

* `Outcome.isChange_eq_true_iff` — all outcomes but one are changes.
* `Outcome.combineAll_eq_noop_iff` — when a row of operations has changed nothing.
* `Outcome.combineAll_perm` — the order of operations does not matter.
* `Outcome.ofText?_text` — the word of an outcome is read back.
-/

namespace FleetConfig.Outcome

variable {o : Outcome}

theorem isChange_eq_false_iff : o.isChange = false ↔ o = .noop := by cases o <;> decide

theorem isChange_eq_true_iff : o.isChange = true ↔ o ≠ .noop := by cases o <;> decide

/-- The word of an outcome is read back. -/
theorem ofText?_text (o : Outcome) : ofText? o.text = some o := by cases o <;> rfl

theorem foldl_combine_eq_noop_iff {os : List Outcome} :
    os.foldl combine o = noop ↔ o = noop ∧ ∀ o' ∈ os, o' = noop := by
  induction os generalizing o with
  | nil => exact ⟨fun h => ⟨h, nofun⟩, fun h => h.1⟩
  | cons o' os ih => rw [List.foldl_cons, ih, combine_eq_noop_iff, List.forall_mem_cons, and_assoc]

/-- A row of operations has changed nothing if none of them has. -/
theorem combineAll_eq_noop_iff {os : List Outcome} :
    combineAll os = noop ↔ ∀ o ∈ os, o = noop :=
  foldl_combine_eq_noop_iff.trans (and_iff_right rfl)

/-- Operations have the same outcome together in whatever order. -/
theorem combineAll_perm {os os' : List Outcome} (h : os.Perm os') :
    combineAll os = combineAll os' := by
  have : RightCommutative combine := ⟨fun a b c => by
    rw [combine_assoc, combine_comm b, ← combine_assoc]⟩
  exact h.foldl_eq noop

end FleetConfig.Outcome
