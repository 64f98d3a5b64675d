import FleetConfig.Plugin.Catalogue

/-!
# Moving plugins

A plugin moves to another place in its category, or into another category. In another category it
takes the place asked for, the place of the plugin that it replaces, or the last place.

## Main definitions

* `Catalogue.Placement`, `Catalogue.Move` — where a plugin goes.
* `Catalogue.slot` — the index of a numbered place.
* `Catalogue.moveEdit` — the move, which can be refused.
* `Catalogue.move` — the catalogue with the plugin moved.
-/

namespace FleetConfig.Catalogue

open Plugin (Category)

/-- A place among the plugins of a category. -/
inductive Placement where
  /-- Just before the plugin of a name. -/
  | before (name : String)
  /-- Just after the plugin of a name. -/
  | after (name : String)
  /-- The place of a number, counted from 1; `-1` is the last one. -/
  | position (number : Int)
deriving DecidableEq, Repr

/-- A request to move a plugin. -/
structure Move where
  /-- The category to move into, if it is another one. -/
  toCategory : Option Category := none
  /-- The place to take. -/
  placement : Option Placement := none
  /-- Whether a plugin of the same name in the other category is replaced. -/
  force : Bool := false
deriving DecidableEq, Repr, Inhabited

/-! ### Places -/

/-- The index of a numbered place among `count` places. -/
def slot (count : Nat) (number : Int) : Except ConfigError Nat :=
  if number = -1 then .ok (count - 1)
  else if 1 ≤ number ∧ number ≤ count then .ok (number.toNat - 1)
  else
    .error (.invalidValue "position"
      s!"position {number} out of range (1-{count} or -1 for the end)")

/-- The index of the plugin of a name among the plugins that stay. -/
def anchor (c : Category) (moving : String) (staying : List Plugin) (name : String) :
    Except ConfigError Nat :=
  if name = moving then
    .error (.invalidValue "placement" s!"cannot place plugin '{moving}' relative to itself")
  else
    match staying.findIdx? fun p => p.name == name with
    | some i => .ok i
    | none => .error (notFound c name)

/-- The index of a place among the plugins that stay. -/
def placeIn (c : Category) (moving : String) (staying : List Plugin) :
    Placement → Except ConfigError Nat
  | .before name => anchor c moving staying name
  | .after name => (anchor c moving staying name).map (· + 1)
  | .position number => slot (staying.length + 1) number

/-! ### Moves -/

/-- Moves the plugin `p` at index `i` to another place in its category. -/
def moveWithinEdit (c : Category) (i : Nat) (p : Plugin) (goal : Placement) :
    Edit Catalogue Outcome := do
  let cat ← get
  let staying := (cat.plugins c).eraseIdx i
  let j ← placeIn c p.name staying goal
  let moved := staying.insertIdx j p
  set (cat.withPlugins c moved)
  return if moved.map Plugin.name = (cat.plugins c).map Plugin.name then .noop else .updated

/-- The catalogue with a plugin at another place in its category, unless that is refused. -/
def moveWithin (cat : Catalogue) (c : Category) (i : Nat) (p : Plugin) (goal : Placement) :
    Except ConfigError (Outcome × Catalogue) :=
  (moveWithinEdit c i p goal).made cat

theorem moveWithin_eq (cat : Catalogue) (c : Category) (i : Nat) (p : Plugin) (goal : Placement) :
    cat.moveWithin c i p goal = do
      let staying := (cat.plugins c).eraseIdx i
      let j ← placeIn c p.name staying goal
      let moved := staying.insertIdx j p
      let outcome :=
        if moved.map Plugin.name = (cat.plugins c).map Plugin.name then Outcome.noop else .updated
      return (outcome, cat.withPlugins c moved) := by
  rw [moveWithin, moveWithinEdit, Edit.made_bind_get, Edit.made_bind_liftM]
  rfl

/-- Puts a plugin into a list: over the one at `replaced`, at the index `j` once that one is gone,
or at the end. -/
def place (p : Plugin) (replaced j : Option Nat) (ps : List Plugin) : List Plugin :=
  match replaced, j with
  | some i, none => ps.set i p
  | some i, some j => (ps.eraseIdx i).insertIdx j p
  | none, some j => ps.insertIdx j p
  | none, none => ps ++ [p]

/-- The number of a numbered place. -/
def Placement.number? : Placement → Option Int
  | position number => some number
  | _ => none

/-- The index of the place that a move asks for among `count` places, if it asks for one. -/
def Move.index? (m : Move) (count : Nat) : Except ConfigError (Option Nat) :=
  (m.placement.bind Placement.number?).mapM (slot count)

/-- Moves the plugin `p` at index `i` into another category, where places have numbers only. -/
def moveAcrossEdit (c : Category) (i : Nat) (p : Plugin) (target : Category) (m : Move) :
    Edit Catalogue Outcome := do
  if m.placement.any (·.number?.isNone) then
    throw (.invalidValue "to-category" "cannot be combined with before or after; use position")
  let cat ← get
  let replaced := cat.indexOf? target p.name
  if replaced.isSome && !m.force then
    throw (.conflict ("plugin '" ++ p.name ++ "' already exists in category '" ++ target.name ++
      "' (use force to overwrite)"))
  let others := (cat.plugins target).length - if replaced.isSome then 1 else 0
  let j ← m.index? (others + 1)
  modify fun cat => cat.withPlugins c ((cat.plugins c).eraseIdx i)
  modify fun cat => cat.withPlugins target (place p replaced j (cat.plugins target))
  return .updated

/-- The catalogue with a plugin in another category, unless that is refused. -/
def moveAcross (cat : Catalogue) (c : Category) (i : Nat) (p : Plugin) (target : Category)
    (m : Move) : Except ConfigError (Outcome × Catalogue) :=
  (moveAcrossEdit c i p target m).made cat

theorem moveAcross_eq (cat : Catalogue) (c : Category) (i : Nat) (p : Plugin) (target : Category)
    (m : Move) : cat.moveAcross c i p target m = do
      if m.placement.any (·.number?.isNone) then
        .error (.invalidValue "to-category" "cannot be combined with before or after; use position")
      let replaced := cat.indexOf? target p.name
      if replaced.isSome && !m.force then
        .error (.conflict ("plugin '" ++ p.name ++ "' already exists in category '" ++
          target.name ++ "' (use force to overwrite)"))
      let others := (cat.plugins target).length - if replaced.isSome then 1 else 0
      let j ← m.index? (others + 1)
      let cat := cat.withPlugins c ((cat.plugins c).eraseIdx i)
      return (.updated, cat.withPlugins target (place p replaced j (cat.plugins target))) := by
  rw [moveAcross, moveAcrossEdit]
  dsimp only
  split
  · rfl
  · rw [Edit.made_bind_get]
    split
    · rfl
    · rw [Edit.made_bind_liftM]
      rfl

/-- Moves the plugin of a name. -/
def moveEdit (c : Category) (name : String) (m : Move) : Edit Catalogue Outcome := do
  let cat ← get
  match cat.indexOf? c name, cat.find? c name with
  | some i, some p =>
    match m.toCategory with
    | some target =>
      if target = c then
        throw (.invalidValue "to-category"
          ("plugin '" ++ name ++ "' is already in category '" ++ c.name ++ "'"))
      else moveAcrossEdit c i p target m
    | none =>
      match m.placement with
      | none => throw (.missingArgument "one of to-category, before, after or position")
      | some goal => moveWithinEdit c i p goal
  | _, _ => throw (notFound c name)

/-- The catalogue with the plugin of a name moved, unless that is refused. -/
def move (cat : Catalogue) (c : Category) (name : String) (m : Move) :
    Except ConfigError (Outcome × Catalogue) :=
  (moveEdit c name m).made cat

theorem move_eq (cat : Catalogue) (c : Category) (name : String) (m : Move) : cat.move c name m =
    match cat.indexOf? c name, cat.find? c name with
    | some i, some p =>
      match m.toCategory with
      | some target =>
        if target = c then
          .error (.invalidValue "to-category"
            ("plugin '" ++ name ++ "' is already in category '" ++ c.name ++ "'"))
        else cat.moveAcross c i p target m
      | none =>
        match m.placement with
        | none => .error (.missingArgument "one of to-category, before, after or position")
        | some goal => cat.moveWithin c i p goal
    | _, _ => .error (notFound c name) := by
  rw [move, moveEdit, Edit.made_bind_get]
  split
  · split
    · split <;> rfl
    · split <;> rfl
  · rfl

end FleetConfig.Catalogue
