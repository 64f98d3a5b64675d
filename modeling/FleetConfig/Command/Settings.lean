import FleetConfig.Check
import FleetConfig.Data.Basic
import FleetConfig.Locations

/-!
# Settings of the daemon

Several settings can be changed at once. Either all changes are made or none, and a change after
which the section is not valid is none.

## Main definitions

* `Settings.parseAssignment` — a key and its input, as one text.
* `Settings.Report` — what happened to each key.
* `Settings.set`, `Settings.remove`, `Settings.get`, `Settings.list`, `Settings.validate` — the
  commands.
-/

namespace FleetConfig.Settings

/-- The key and the input in a text. The input follows the first equals sign and is not blank,
because blank input would clear the key. -/
def parseAssignment (raw : String) : Except ConfigError (String × String) :=
  match Text.splitFirst '=' raw with
  | none => .error (.invalidValue "daemon" s!"expected key=value, got '{raw}'")
  | some (key, value) =>
    let key := Text.trim key
    if key = "" then .error (.invalidValue "daemon" s!"missing key in '{raw}'")
    else if Text.isBlankText value then
      .error (.emptyInput
        ("value for '" ++ key ++ "' (use \x60config daemon remove\x60 to clear it)"))
    else .ok (key, value)

/-- What happened to some keys. -/
structure Report where
  /-- The keys in the order of the request. -/
  changes : List (String × Outcome)
deriving DecidableEq

/-- What happened to all keys together. -/
def Report.outcome (r : Report) : Outcome := Outcome.combineAll (r.changes.map Prod.snd)

/-- A report as data. -/
def Report.toData (r : Report) : Data :=
  .record [
    ("changes", .list (r.changes.map fun c =>
      .record [("key", .text c.1), ("result", .text c.2.text)])),
    ("result", .text r.outcome.text)]

/-! ### Changes to the section -/

/-- Changes one key after the other. -/
def change (step : Daemon → String × String → Except ConfigError (Outcome × Daemon)) :
    List (String × String) → Daemon → Except ConfigError (Report × Daemon)
  | [], d => .ok (⟨[]⟩, d)
  | a :: assignments, d => do
    let (outcome, d) ← step d a
    let (r, d) ← change step assignments d
    return (⟨(a.1, outcome) :: r.changes⟩, d)

/-- Sets keys. -/
def setIn (assignments : List (String × String)) (d : Daemon) :
    Except ConfigError (Report × Daemon) := do
  let (r, d) ← change (fun d a => d.set a.1 a.2) assignments d
  d.validate
  return (r, d)

/-- Clears keys. -/
def removeIn (keys : List String) (d : Daemon) : Except ConfigError (Report × Daemon) :=
  change (fun d a => d.remove a.1) (keys.map fun key => (Text.trim key, "")) d

/-! ### Commands -/

variable {m : Type → Type} [Monad m] [FileAccess m]

/-- Sets keys to their inputs. -/
def set (locs : Locations) (assignments : List String) : Action m Report := do
  if assignments.isEmpty then Action.refuse (.emptyInput "key=value assignments")
  let parsed ← Action.ofExcept (assignments.mapM parseAssignment)
  Action.within "Failed to set daemon configuration"
    (Store.modify locs.contract fun k : Contract => k.editDaemon (setIn parsed))

/-- Clears keys. -/
def remove (locs : Locations) (keys : List String) : Action m Report := do
  if keys.isEmpty then Action.refuse (.emptyInput "keys")
  Action.within "Failed to remove daemon configuration"
    (Store.modify locs.contract fun k : Contract => k.editDaemon (removeIn keys))

/-- The setting of a key or the table below a path. -/
def get (locs : Locations) (path : String) : Action m (Option Setting) := do
  let k : Contract ← Store.load locs.contract
  Action.ofExcept (k.settings.get path)

/-- All settings with their keys. -/
def list (locs : Locations) : Action m (List (String × Setting.Leaf)) := do
  let k : Contract ← Store.load locs.contract
  return k.settings.configured

/-- Succeeds if the section is valid. -/
def validate (locs : Locations) : Action m Unit := do
  let _ ← Check.loadContract locs.contract id [.daemon]

end FleetConfig.Settings
