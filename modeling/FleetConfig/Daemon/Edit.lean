import FleetConfig.Daemon.Key
import FleetConfig.Edit
import FleetConfig.Outcome

/-!
# Settings of the daemon by path

Settings are written, cleared and read by dotted path. A path that is no key but the start of keys
stands for the table of all settings under it.

## Main definitions

* `Daemon.setEdit` — writes one key, or is refused.
* `Daemon.set`, `Daemon.remove` — the daemon with one key written or cleared.
* `Daemon.get` — the setting or the table at a path.
* `Daemon.configured` — all settings with their paths.
-/

namespace FleetConfig.Daemon

/-! ### Writing -/

/-- Puts a value under a key. A daemon that changes is pruned; one that does not stays as it is. -/
def apply (d : Daemon) (k : Key) (value : Option Setting.Leaf) : Outcome × Daemon :=
  let outcome := Outcome.ofChange (k.read d) value
  (outcome, if outcome.isChange then (k.write d value).prune else d)

/-- Writes the input for the key of a path. Blank input clears the key. -/
def setEdit (path input : String) : Edit Daemon Outcome := do
  let k ← Key.lookup path
  let value ← k.kind.parse k.path input
  modifyGet (·.apply k value)

/-- The daemon with the input written for the key of a path, unless that is refused. -/
def set (d : Daemon) (path input : String) : Except ConfigError (Outcome × Daemon) :=
  (setEdit path input).made d

theorem set_eq (d : Daemon) (path input : String) : d.set path input = do
    let k ← Key.lookup path
    let value ← k.kind.parse k.path input
    return d.apply k value := by
  rw [set, setEdit, Edit.made_bind_liftM]
  congr 1
  funext k
  rw [Edit.made_bind_liftM]
  rfl

/-- The daemon with the key of a path cleared, unless that is refused. -/
def remove (d : Daemon) (path : String) : Except ConfigError (Outcome × Daemon) := d.set path ""

/-! ### Reading -/

/-- Drops dots at both ends. -/
def trimDots (cs : List Char) : List Char :=
  ((cs.dropWhile (· == '.')).reverse.dropWhile (· == '.')).reverse

/-- The path that a request for settings means: blanks and then dots around it do not count. -/
def cleanPath (path : String) : String := String.ofList (trimDots (Text.trimList path.toList))

/-- A key's path below another path, if it lies below that; all lie below the empty path. -/
def Key.below? (path : String) (k : Key) : Option String :=
  if path = "" then some k.path
  else (Text.afterStart? (path.toList ++ ['.']) k.path.toList).map String.ofList

/-- The keys below a path, each with its path from there. -/
def Key.allBelow (path : String) : List (String × Key) :=
  Key.all.filterMap fun k => (k.below? path).map fun rest => (rest, k)

/-- The settings below a path as a table, if any is configured. -/
def subtree (d : Daemon) (path : String) : Except ConfigError (Option Setting) :=
  match Key.allBelow path with
  | [] => .error (.unknownKey path)
  | keys =>
    match Setting.ofPairs (keys.filterMap fun p => (p.2.read d).map fun l => (p.1, l)) with
    | [] => .ok none
    | entries => .ok (some (.table entries))

/-- The setting of a key, or the table of all settings below a path, if anything is configured. -/
def get (d : Daemon) (path : String) : Except ConfigError (Option Setting) :=
  match Key.find? (cleanPath path) with
  | some k => .ok ((k.read d).map .leaf)
  | none => d.subtree (cleanPath path)

/-- All configured settings with their paths, in order. -/
def configured (d : Daemon) : List (String × Setting.Leaf) :=
  match d.get "" with
  | .ok (some s) => s.flatten ""
  | _ => []

end FleetConfig.Daemon
