import FleetConfig.Command.Arguments

/-!
# Variables of servers

The execution context adds environment variables to servers.

## Main definitions

* `Variables.parsePair` — a variable with its value, as one text.
* `Variables.Report` — the variables of a server after a change.
* `Variables.set`, `Variables.remove`, `Variables.clear`, `Variables.list` — the commands.
* `Variables.setIn`, `Variables.removeIn`, `Variables.clearIn` — the changes to a context.
-/

namespace FleetConfig.Variables

/-- The variable and the value in a text; the value follows the first equals sign. -/
def parsePair (raw : String) : Except ConfigError (String × String) :=
  match Text.splitFirst '=' raw with
  | none => .error (.invalidValue "env" s!"expected KEY=VALUE, got '{raw}'")
  | some (key, value) =>
    let key := Text.trim key
    if key = "" ∨ key.toList.any Text.isBlank then
      .error (.invalidValue "env" s!"invalid variable name in '{raw}'")
    else .ok (key, value)

/-- The variables of a server after a change. -/
structure Report where
  server : String
  env : NameMap String
  outcome : Outcome
deriving DecidableEq

/-- Variables as data. -/
def dataOf (env : NameMap String) : Data := .record (env.entries.map fun e => (e.1, .text e.2))

/-- A report as data. -/
def Report.toData (r : Report) : Data :=
  .record [("server", .text r.server), ("env", dataOf r.env), ("result", .text r.outcome.text)]

/-! ### Changes to a context -/

/-- Sets variables, in order. -/
def setIn (server : String) (pairs : List (String × String)) (x : Context) :
    Except ConfigError (Report × Context) := do
  let e := (x.server? server).getD default
  let env := pairs.foldl (fun env p => env.insert p.1 p.2) e.env
  let (outcome, x') ← x.upsert server { e with env }
  return ({ server, env, outcome }, x')

/-- Removes variables. -/
def removeIn (server : String) (keys : List String) (x : Context) :
    Except ConfigError (Report × Context) := do
  let (e, outcome, x') ← x.change server fun e =>
    { e with env := keys.foldl (fun env key => env.erase (Text.trim key)) e.env }
  return ({ server, env := e.env, outcome }, x')

/-- Removes all variables. -/
def clearIn (server : String) (x : Context) : Except ConfigError (Report × Context) := do
  let (outcome, x') ← x.clear server (·.env.isEmpty) fun e => { e with env := .empty }
  return ({ server, env := .empty, outcome }, x')

/-! ### Commands -/

variable {m : Type → Type} [Monad m] [FileAccess m]

/-- Sets variables of a server. -/
def set (locs : Locations) (server : String) (pairs : List String) : Action m Report := do
  if pairs.isEmpty then Action.refuse (.emptyInput "environment variables")
  let parsed ← Action.ofExcept (pairs.mapM parsePair)
  Action.within s!"Failed to set env for server '{server}'"
    (Store.modify locs.context (setIn server parsed))

/-- Removes variables of a server. -/
def remove (locs : Locations) (server : String) (keys : List String) : Action m Report := do
  if keys.isEmpty then Action.refuse (.emptyInput "variable names")
  Action.within s!"Failed to remove env for server '{server}'"
    (Store.modify locs.context (removeIn server keys))

/-- Removes all variables of a server, if forced. -/
def clear (locs : Locations) (server : String) (force : Bool) : Action m Report :=
  if force then
    Action.within s!"Failed to clear env for server '{server}'"
      (Store.modify locs.context (clearIn server))
  else
    Action.refuse
      (.conflict s!"refusing to clear all env vars for server '{server}' without --force")

/-- The variables of a server. -/
def list (locs : Locations) (server : String) : Action m (NameMap String) := do
  let x : Context ← Store.load locs.context
  return (← Action.ofExcept (x.requireServer server)).env

end FleetConfig.Variables
