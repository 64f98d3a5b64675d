import FleetConfig.ConfigError

/-!
# Edits

An edit changes a state or is refused. What it has done to the state before it is refused stays
done, so a refused edit leaves the state as it was only if it makes all its checks first.

## Main definitions

* `Edit` — a change to a state that can be refused.
* `Edit.on` — its answer, and the state that it leaves in any case.
* `Edit.made` — what it makes, where the state that a refused edit leaves is dropped.
* `Edit.ofPart` — the edit of a part of a state.
* `Edit.AtomicOn` — the state is as it was if the edit is refused.
-/

namespace FleetConfig

/-- A change to a state that can be refused. -/
abbrev Edit (σ α : Type) : Type := ExceptT ConfigError (StateM σ) α

namespace Edit

variable {σ τ α β : Type} {x : Edit σ α} {f : α → Edit σ β} {r : Except ConfigError α} {s : σ}

/-- The answer of an edit, and the state that it leaves. -/
def on (x : Edit σ α) (s : σ) : Except ConfigError α × σ := (x.run.run s).run

/-- What an edit makes of a state, unless it is refused. -/
def made (x : Edit σ α) (s : σ) : Except ConfigError (α × σ) :=
  match x.on s with
  | (.ok a, s') => .ok (a, s')
  | (.error e, _) => .error e

/-- The edit of a part of a state. What it leaves of the part is put back in any case. -/
def ofPart (part : σ → τ) (put : σ → τ → σ) (x : Edit τ α) : Edit σ α := do
  let (answer, t) := x.on (part (← get))
  modify (put · t)
  answer

/-- Replaces a state by what a function makes of it. -/
def replacing (f : σ → Except ConfigError (α × σ)) : Edit σ α := do
  let (a, s) ← f (← get)
  set s
  return a

/-! ### What edits leave -/

theorem on_ofPart (part : σ → τ) (put : σ → τ → σ) (x : Edit τ α) (s : σ) :
    (x.ofPart part put).on s = ((x.on (part s)).1, put s (x.on (part s)).2) := rfl

/-- What leaves a part as it was leaves the state as it was. -/
theorem on_ofPart_of_same {part : σ → τ} {put : σ → τ → σ} {x : Edit τ α} {s : σ}
    {answer : Except ConfigError α} (hput : put s (part s) = s)
    (h : x.on (part s) = (answer, part s)) : (x.ofPart part put).on s = (answer, s) := by
  rw [on_ofPart, h, hput]

theorem on_replacing (f : σ → Except ConfigError (α × σ)) (s : σ) :
    (replacing f).on s = match f s with
      | .ok (a, s') => (.ok a, s')
      | .error e => (.error e, s) := by
  rw [replacing]
  show (liftM (f s) >>= fun r => _ : Edit σ α).on s = _
  cases f s <;> rfl

/-! ### What edits make -/

theorem made_bind_get (f : σ → Edit σ α) (s : σ) : (get >>= f).made s = (f s).made s := rfl

theorem made_bind_liftM (r : Except ConfigError α) (f : α → Edit σ β) (s : σ) :
    (liftM r >>= f).made s = r >>= fun a => (f a).made s := by
  cases r <;> rfl

/-- What is made of a part is put back. -/
theorem bind_put_eq_ok_iff {r : Except ConfigError (α × τ)} {a : α} (put : τ → σ) :
    (do let (a, t) ← r; return (a, put t)) = Except.ok (a, s) ↔
      ∃ t, r = .ok (a, t) ∧ s = put t := by
  cases r with
  | error e =>
    constructor
    · rintro ⟨⟩
    · rintro ⟨_, ⟨⟩, -⟩
  | ok made =>
    obtain ⟨a', t⟩ := made
    constructor
    · rintro ⟨⟩
      exact ⟨t, rfl, rfl⟩
    · rintro ⟨_, ⟨⟩, rfl⟩
      rfl

theorem made_eq_ok_iff {a : α} {s' : σ} : x.made s = .ok (a, s') ↔ x.on s = (.ok a, s') := by
  rw [made]
  cases x.on s with
  | mk answer s₁ => cases answer <;> simp

/-! ### Refused edits -/

/-- If the edit of a state is refused, the state is as it was. -/
def AtomicOn (x : Edit σ α) (s : σ) : Prop := ∀ e s', x.on s = (.error e, s') → s' = s

namespace AtomicOn

/-- Nothing has happened yet where an edit is refused. -/
theorem throw (e : ConfigError) (s : σ) : (throw e : Edit σ α).AtomicOn s := by
  rintro _ _ ⟨⟩
  rfl

/-- An edit that is not refused leaves what it likes. -/
theorem of_made {a : α} {s' : σ} (h : x.made s = .ok (a, s')) : x.AtomicOn s := by
  intro e s₁ he
  cases (made_eq_ok_iff.1 h).symm.trans he

theorem bind_get {f : σ → Edit σ α} (h : (f s).AtomicOn s) : (get >>= f).AtomicOn s := h

/-- A check does not touch the state. -/
theorem bind_liftM (h : ∀ a, r = .ok a → (f a).AtomicOn s) : (liftM r >>= f).AtomicOn s := by
  cases r with
  | error e => exact .throw e s
  | ok a => exact h a rfl

/-- A refused edit answers with its error. -/
theorem on_eq {e : ConfigError} (h : x.AtomicOn s) (he : x.made s = .error e) :
    x.on s = (.error e, s) := by
  rw [made] at he
  cases hon : x.on s with
  | mk answer s' =>
    rw [hon] at he
    cases answer with
    | error e' =>
      cases he
      rw [h _ _ hon]
    | ok a => cases he

end AtomicOn

end Edit

end FleetConfig
