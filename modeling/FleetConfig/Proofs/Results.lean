import FleetConfig.ConfigError
import Mathlib.Data.List.Forall2
import Mathlib.Data.List.Perm.Basic

/-!
# Results that are no errors

A computation that may fail gives a result if each of its steps does. A check succeeds if it gathers
no violation.

## Main results

* `FleetConfig.bind_eq_ok` — a step and what follows it both give a result.
* `FleetConfig.forall₂_of_mapM` — a map gives a result for each item.
* `FleetConfig.exists_mapM_of_perm` — it gives the same results in whatever order.
* `FleetConfig.foldlM_invariant` — what each step of a fold keeps holds of its result.
* `ConfigError.collect_map_eq_ok_iff` — a check succeeds if there is no violation.
-/

namespace FleetConfig

variable {ε ε' α β σ τ : Type}

/-- An error is no result. -/
theorem not_exists_error_eq_ok {e : ε} : ¬∃ a : α, (.error e : Except ε α) = .ok a := by
  rintro ⟨_, ⟨⟩⟩

/-- Whether a check succeeds can be computed. -/
theorem eq_ok_of_isOk {x : Except ε Unit} (h : x.isOk = true) : x = .ok () := by
  cases x with
  | error => cases h
  | ok => rfl

/-- Whether a computation fails with an error can be computed. -/
instance decidableEqError [DecidableEq ε] (x : Except ε α) (e : ε) : Decidable (x = .error e) :=
  match x with
  | .ok _ => isFalse nofun
  | .error e' => decidable_of_iff (e' = e) ⟨congrArg _, Except.error.inj⟩

theorem bind_eq_ok {x : Except ε α} {f : α → Except ε β} {b : β} :
    (x >>= f) = .ok b ↔ ∃ a, x = .ok a ∧ f a = .ok b := by
  cases x with
  | error e => exact ⟨nofun, nofun⟩
  | ok a =>
    refine ⟨fun h => ⟨a, rfl, h⟩, ?_⟩
    rintro ⟨a', ha, h⟩
    cases ha
    exact h

theorem mapError_eq_ok {x : Except ε α} {f : ε → ε'} {a : α} :
    x.mapError f = .ok a ↔ x = .ok a := by
  cases x with
  | error e => exact ⟨nofun, nofun⟩
  | ok a' =>
    show Except.ok a' = .ok a ↔ _
    rw [Except.ok.injEq, Except.ok.injEq]

theorem map_eq_ok {x : Except ε α} {f : α → β} {b : β} :
    x.map f = .ok b ↔ ∃ a, x = .ok a ∧ f a = b := by
  cases x with
  | error e => exact iff_of_false nofun fun ⟨_, h, _⟩ => not_exists_error_eq_ok ⟨_, h⟩
  | ok a => exact ⟨fun h => ⟨a, rfl, Except.ok.inj h⟩, fun ⟨_, rfl, h⟩ => congrArg _ h⟩

theorem exists_map_eq_ok_iff {x : Except ε α} {f : α → β} :
    (∃ b, x.map f = .ok b) ↔ ∃ a, x = .ok a := by
  refine ⟨fun ⟨b, h⟩ => ?_, fun ⟨a, h⟩ => ⟨f a, map_eq_ok.2 ⟨a, h, rfl⟩⟩⟩
  obtain ⟨a, h, -⟩ := map_eq_ok.1 h
  exact ⟨a, h⟩

/-- A map that gives results gives one for each item. -/
theorem forall₂_of_mapM {f : α → Except ε β} {as : List α} {bs : List β}
    (h : as.mapM f = .ok bs) : List.Forall₂ (fun a b => f a = .ok b) as bs := by
  induction as generalizing bs with
  | nil =>
    cases h
    exact .nil
  | cons a as ih =>
    rw [List.mapM_cons] at h
    obtain ⟨b, hb, h⟩ := bind_eq_ok.1 h
    obtain ⟨bs', hbs', h⟩ := bind_eq_ok.1 h
    cases h
    exact .cons hb (ih hbs')

/-- A map gives results if there is one for each item. -/
theorem mapM_of_forall₂ {f : α → Except ε β} {as : List α} {bs : List β}
    (h : List.Forall₂ (fun a b => f a = .ok b) as bs) : as.mapM f = .ok bs := by
  induction h with
  | nil => rfl
  | cons ha _ ih =>
    rw [List.mapM_cons, ha, ih]
    rfl

/-- A map that gives results gives the same ones, in another order, of items in another order. -/
theorem exists_mapM_of_perm {f : α → Except ε β} {as as' : List α} {bs : List β}
    (h : as.mapM f = .ok bs) (hperm : as.Perm as') : ∃ bs', as'.mapM f = .ok bs' ∧ bs.Perm bs' := by
  obtain ⟨bs', hbs', hperm'⟩ := List.perm_comp_forall₂ hperm.symm (forall₂_of_mapM h)
  exact ⟨bs', mapM_of_forall₂ hbs', hperm'.symm⟩

/-- What each step of a fold over some items keeps holds of its result. -/
theorem foldlM_invariant_of_mem {f : σ → τ → Except ε σ} {P : σ → Prop} {xs : List τ}
    (hf : ∀ x ∈ xs, ∀ acc acc', P acc → f acc x = .ok acc' → P acc') {init a : σ}
    (hinit : P init) (h : xs.foldlM f init = .ok a) : P a := by
  induction xs generalizing init with
  | nil =>
    cases h
    exact hinit
  | cons x xs ih =>
    rw [List.foldlM_cons] at h
    obtain ⟨acc, hacc, h⟩ := bind_eq_ok.1 h
    obtain ⟨hx, hxs⟩ := List.forall_mem_cons.1 hf
    exact ih hxs (hx _ _ hinit hacc) h

/-- What each step of a fold keeps holds of its result. -/
theorem foldlM_invariant {f : σ → τ → Except ε σ} {P : σ → Prop}
    (hf : ∀ acc x acc', P acc → f acc x = .ok acc' → P acc') {xs : List τ} {init a : σ}
    (hinit : P init) (h : xs.foldlM f init = .ok a) : P a :=
  foldlM_invariant_of_mem (fun x _ acc acc' => hf acc x acc') hinit h

/-- Each step of a fold with a result has a result. -/
theorem exists_step_of_foldlM {f : σ → τ → Except ε σ} {xs : List τ} {init a : σ}
    (h : xs.foldlM f init = .ok a) : ∀ x ∈ xs, ∃ acc acc', f acc x = .ok acc' := by
  induction xs generalizing init with
  | nil => exact fun x hx => nomatch hx
  | cons x xs ih =>
    rw [List.foldlM_cons] at h
    obtain ⟨acc, hacc, h⟩ := bind_eq_ok.1 h
    exact List.forall_mem_cons.2 ⟨⟨init, acc, hacc⟩, ih h⟩

theorem ConfigError.collect_map_eq_ok_iff {vs : List α} {f : α → ConfigError} :
    collect (vs.map f) = .ok () ↔ vs = [] := by
  cases vs with
  | nil => exact ⟨fun _ => rfl, fun _ => rfl⟩
  | cons v vs => exact ⟨nofun, nofun⟩

end FleetConfig
