/-!
# Outcomes

Every operation that may change a document reports what it did.

## Main definitions

* `Outcome` — created, updated, deleted, or nothing to do.
* `Outcome.ofChange` — the outcome of putting one optional value in the place of another.
* `Outcome.combine` — the outcome of two operations in a row.
-/

namespace FleetConfig

/-- What an operation did to the thing it addresses. -/
inductive Outcome where
  /-- It was not there before. -/
  | created
  /-- It was there and is another now. -/
  | updated
  /-- Nothing changed. -/
  | noop
  /-- It was there and is gone. -/
  | deleted
deriving DecidableEq, Repr, Inhabited

namespace Outcome

/-- The word for an outcome. -/
def text : Outcome → String
  | created => "created"
  | updated => "updated"
  | noop => "noop"
  | deleted => "deleted"

/-- All outcomes. -/
def all : List Outcome := [created, updated, noop, deleted]

/-- The outcome of a word. -/
def ofText? (s : String) : Option Outcome := all.find? fun o => o.text == s

/-- Holds unless nothing changed. -/
def isChange : Outcome → Bool
  | noop => false
  | _ => true

/-- The outcome of putting `after` in the place of `before`. -/
def ofChange {α : Type} [DecidableEq α] (before after : Option α) : Outcome :=
  match before, after with
  | none, none => noop
  | none, some _ => created
  | some _, none => deleted
  | some a, some b => if a = b then noop else updated

/-- The outcome of two operations together: a change beats none, and different changes are an
update. -/
def combine : Outcome → Outcome → Outcome
  | noop, o => o
  | o, noop => o
  | o, o' => if o = o' then o else updated

/-- The outcome of a row of operations. -/
def combineAll (os : List Outcome) : Outcome := os.foldl combine noop

/-! ### Laws -/

@[simp] theorem noop_combine (o : Outcome) : combine noop o = o := by cases o <;> rfl

@[simp] theorem combine_noop (o : Outcome) : combine o noop = o := by cases o <;> rfl

theorem combine_comm (a b : Outcome) : combine a b = combine b a := by
  cases a <;> cases b <;> rfl

theorem combine_assoc (a b c : Outcome) : combine (combine a b) c = combine a (combine b c) := by
  cases a <;> cases b <;> cases c <;> rfl

theorem combine_eq_noop_iff (a b : Outcome) : combine a b = noop ↔ a = noop ∧ b = noop := by
  cases a <;> cases b <;> decide

theorem ofChange_eq_noop_iff {α : Type} [DecidableEq α] (before after : Option α) :
    ofChange before after = noop ↔ before = after := by
  cases before <;> cases after <;> simp [ofChange]

end Outcome

end FleetConfig
