import FleetConfig.Failure
import FleetConfig.Files.Tree
import FleetConfig.Proofs.Results

/-!
# Actions on file trees

An action that runs on a file tree gives a result or a failure, and leaves a tree behind. The parts
of an action run one after another until one of them fails.

## Main definitions

* `Action.runOn` — what an action gives on a file tree, and the tree behind it.
* `Action.ReadsOnly` — an action leaves the tree as it is.

## Main results

* `Action.runOn_bind` — one part after another.
* `Action.ReadsOnly.bind` — actions that only read, one after another.
-/

namespace FleetConfig.Action

variable {α β ε : Type} {t : FileTree}

/-- What an action gives on a file tree, and the tree behind it. -/
def runOn (x : Action (StateM FileTree) α) (t : FileTree) : Except Failure α × FileTree := x.run t

@[simp] theorem runOn_pure (a : α) : runOn (pure a) t = (.ok a, t) := rfl

@[simp] theorem runOn_throw (f : Failure) : runOn (throw f : Action _ α) t = (.error f, t) := rfl

@[simp] theorem runOn_refuse (e : ConfigError) :
    runOn (refuse e : Action _ α) t = (.error (.ofError e), t) :=
  rfl

/-- A computation on a file tree runs on the tree that the one before it leaves behind. -/
theorem bind_apply (x : StateM FileTree α) (f : α → StateM FileTree β) (t : FileTree) :
    (x >>= f) t = f (x t).1 (x t).2 :=
  rfl

theorem runOn_liftM (x : StateM FileTree α) (t : FileTree) :
    runOn (liftM x : Action (StateM FileTree) α) t = (.ok (x t).1, (x t).2) :=
  rfl

/-- One part of an action runs after another, unless that fails. -/
theorem runOn_bind (x : Action (StateM FileTree) α) (f : α → Action (StateM FileTree) β) :
    runOn (x >>= f) t =
      match runOn x t with
      | (.ok a, t') => runOn (f a) t'
      | (.error e, t') => (.error e, t') := by
  show (ExceptT.bindCont f (x.run t).1) (x.run t).2 = _
  rw [runOn]
  rcases x.run t with ⟨r, t'⟩
  cases r <;> rfl

/-- What follows a part that succeeds runs on the tree that the part leaves behind. -/
theorem runOn_bind_of_ok {x : Action (StateM FileTree) α} {f : α → Action (StateM FileTree) β}
    {a : α} {t' : FileTree} (h : runOn x t = (.ok a, t')) :
    runOn (x >>= f) t = runOn (f a) t' := by
  rw [runOn_bind, h]

/-- What follows a part whose failure is caught runs on the tree that the part leaves behind, with
its result or its failure. -/
theorem runOn_caught_bind {x : Action (StateM FileTree) α}
    {f : Except Failure α → Action (StateM FileTree) β} {r : Except Failure α} {t' : FileTree}
    (h : runOn x t = (r, t')) :
    runOn (liftM (x.run : StateM FileTree (Except Failure α)) >>= f) t = runOn (f r) t' := by
  rw [runOn_bind_of_ok (runOn_liftM _ t), ← runOn, h]

theorem runOn_bind_eq_ok {x : Action (StateM FileTree) α} {f : α → Action (StateM FileTree) β}
    {b : β} {t'' : FileTree} : runOn (x >>= f) t = (.ok b, t'') ↔
      ∃ a t', runOn x t = (.ok a, t') ∧ runOn (f a) t' = (.ok b, t'') := by
  rw [runOn_bind]
  rcases runOn x t with ⟨r, t'⟩
  cases r with
  | error e =>
    constructor
    · intro h
      cases h
    · rintro ⟨_, _, h, -⟩
      cases h
  | ok a =>
    constructor
    · intro h
      exact ⟨a, t', rfl, h⟩
    · rintro ⟨_, _, h, hb⟩
      cases h
      exact hb

theorem runOn_ofExcept (r : Except ConfigError α) :
    runOn (ofExcept r) t = (r.mapError Failure.ofError, t) := by
  cases r <;> rfl

theorem runOn_ofExcept_eq_ok {r : Except ConfigError α} {a : α} {t' : FileTree} :
    runOn (ofExcept r) t = (.ok a, t') ↔ r = .ok a ∧ t' = t := by
  rw [runOn_ofExcept, Prod.mk.injEq, mapError_eq_ok, @eq_comm _ t]

theorem runOn_lift (toCause : ε → Failure.Cause) (x : StateM FileTree (Except ε α)) :
    runOn (lift toCause x) t =
      ((x t).1.mapError fun fault => { cause := toCause fault }, (x t).2) := by
  show (x >>= _ : StateM FileTree (Except Failure α)) t = _
  rw [bind_apply]
  cases (x t).1 <;> rfl

theorem runOn_within (context : String) (x : Action (StateM FileTree) α) :
    runOn (within context x) t = ((runOn x t).1.mapError (·.within context), (runOn x t).2) := by
  show (x.run >>= _ : StateM FileTree (Except Failure α)) t = _
  rw [bind_apply, runOn]
  cases (x.run t).1 <;> rfl

theorem runOn_within_eq_ok {context : String} {x : Action (StateM FileTree) α} {a : α}
    {t' : FileTree} : runOn (within context x) t = (.ok a, t') ↔ runOn x t = (.ok a, t') := by
  rw [runOn_within]
  rcases runOn x t with ⟨r, t''⟩
  rw [Prod.mk.injEq, Prod.mk.injEq, mapError_eq_ok]

theorem runOn_within_eq_error {context : String} {x : Action (StateM FileTree) α} {e : Failure}
    {t' : FileTree} (h : runOn (within context x) t = (.error e, t')) :
    ∃ e', runOn x t = (.error e', t') := by
  rw [runOn_within] at h
  rcases hx : runOn x t with ⟨e' | a, t''⟩ <;> rw [hx] at h <;> cases h
  exact ⟨e', rfl⟩

theorem runOn_lift_eq_ok {toCause : ε → Failure.Cause} {x : StateM FileTree (Except ε α)} {a : α}
    {t' : FileTree} : runOn (lift toCause x) t = (.ok a, t') ↔ x t = (.ok a, t') := by
  rw [runOn_lift]
  rcases x t with ⟨r, t''⟩
  rw [Prod.mk.injEq, Prod.mk.injEq, mapError_eq_ok]

/-! ### Actions that only read -/

/-- An action leaves the tree as it is. -/
def ReadsOnly (x : Action (StateM FileTree) α) : Prop := ∀ t, (runOn x t).2 = t

namespace ReadsOnly

theorem eq_of_runOn {x : Action (StateM FileTree) α} (h : ReadsOnly x) {r : Except Failure α}
    {t' : FileTree} (hx : runOn x t = (r, t')) : t' = t := by
  rw [← h t, hx]

protected theorem pure (a : α) : ReadsOnly (pure a) := fun _ => rfl

protected theorem throw (f : Failure) : ReadsOnly (throw f : Action _ α) := fun _ => rfl

protected theorem refuse (e : ConfigError) : ReadsOnly (refuse e : Action _ α) := fun _ => rfl

protected theorem ofExcept (r : Except ConfigError α) : ReadsOnly (ofExcept r) := fun t => by
  rw [runOn_ofExcept]

protected theorem bind {x : Action (StateM FileTree) α} {f : α → Action (StateM FileTree) β}
    (h : ReadsOnly x) (hf : ∀ a, ReadsOnly (f a)) : ReadsOnly (x >>= f) := fun t => by
  rw [runOn_bind]
  rcases hx : runOn x t with ⟨r, t'⟩
  cases r with
  | error e => exact h.eq_of_runOn hx
  | ok a => exact (hf a t').trans (h.eq_of_runOn hx)

protected theorem within {x : Action (StateM FileTree) α} (h : ReadsOnly x) (context : String) :
    ReadsOnly (within context x) := fun t => by
  rw [runOn_within]
  exact h t

protected theorem lift {toCause : ε → Failure.Cause} {x : StateM FileTree (Except ε α)}
    (h : ∀ t, (x t).2 = t) : ReadsOnly (lift toCause x) := fun t => by
  rw [runOn_lift]
  exact h t

protected theorem liftM {x : StateM FileTree α} (h : ∀ t, (x t).2 = t) :
    ReadsOnly (liftM x : Action (StateM FileTree) α) :=
  h

end ReadsOnly

end FleetConfig.Action
