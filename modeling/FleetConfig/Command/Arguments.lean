import FleetConfig.Data.Basic
import FleetConfig.Flag
import FleetConfig.Locations
import FleetConfig.Store

/-!
# Arguments of servers

The execution context adds arguments to servers. They are set and removed by the names of flags.

## Main definitions

* `Context.change`, `Context.clear` — changes to the entry of a server.
* `Arguments.Report` — the arguments of a server after a change.
* `Arguments.set`, `Arguments.remove`, `Arguments.clear`, `Arguments.list` — the commands.
* `Arguments.setIn`, `Arguments.removeIn`, `Arguments.clearIn` — the changes to a context.
-/

namespace FleetConfig

namespace Context

/-- The entry of a server, which has to have one. -/
def requireServer (x : Context) (name : String) : Except ConfigError Entry :=
  match x.server? name with
  | some e => .ok e
  | none => .error (serverNotFound name)

/-- Changes the entry of a server, which has to have one, and gives what it is now. -/
def change (x : Context) (server : String) (f : Entry → Entry) :
    Except ConfigError (Entry × Outcome × Context) := do
  let e ← x.requireServer server
  let (outcome, x') ← x.upsert server (f e)
  return (f e, outcome, x')

/-- Clears a part of the entry of a server, which has to have one, unless it is clear. -/
def clear (x : Context) (server : String) (isClear : Entry → Bool) (f : Entry → Entry) :
    Except ConfigError (Outcome × Context) := do
  let e ← x.requireServer server
  if isClear e then return (.noop, x)
  else
    let (_, x') ← x.upsert server (f e)
    return (.deleted, x')

end Context

namespace Arguments

/-- The arguments of a server after a change. -/
structure Report where
  server : String
  args : List String
  outcome : Outcome
deriving DecidableEq

/-- A report as data. -/
def Report.toData (r : Report) : Data :=
  .record [("server", .text r.server), ("args", .texts r.args), ("result", .text r.outcome.text)]

/-! ### Changes to a context -/

/-- Sets arguments in canonical form. -/
def setIn (server : String) (incoming : List String) (x : Context) :
    Except ConfigError (Report × Context) := do
  let e := (x.server? server).getD default
  let args := Flag.upsert e.args incoming
  let (outcome, x') ← x.upsert server { e with args }
  return ({ server, args, outcome }, x')

/-- Removes all arguments that some tokens name. -/
def removeIn (server : String) (names : List String) (x : Context) :
    Except ConfigError (Report × Context) := do
  let (e, outcome, x') ← x.change server fun e => { e with args := Flag.remove e.args names }
  return ({ server, args := e.args, outcome }, x')

/-- Removes all arguments. -/
def clearIn (server : String) (x : Context) : Except ConfigError (Report × Context) := do
  let (outcome, x') ← x.clear server (·.args.isEmpty) fun e => { e with args := [] }
  return ({ server, args := [], outcome }, x')

/-! ### Commands -/

variable {m : Type → Type} [Monad m] [FileAccess m]

/-- Sets arguments of a server, whose flags replace those of the same name; `switches` are the flags
that take no value. -/
def set (locs : Locations) (switches : List String) (server : String) (tokens : List String) :
    Action m Report :=
  match Flag.normalize switches tokens with
  | [] => Action.refuse (.emptyInput "arguments")
  | incoming =>
    Action.within s!"Failed to set args for server '{server}'"
      (Store.modify locs.context (setIn server incoming))

/-- Removes the arguments of a server that some tokens name. -/
def remove (locs : Locations) (server : String) (names : List String) : Action m Report :=
  if names.all Text.isBlankText then Action.refuse (.emptyInput "argument names")
  else
    Action.within s!"Failed to remove args for server '{server}'"
      (Store.modify locs.context (removeIn server names))

/-- Removes all arguments of a server, if forced. -/
def clear (locs : Locations) (server : String) (force : Bool) : Action m Report :=
  if force then
    Action.within s!"Failed to clear args for server '{server}'"
      (Store.modify locs.context (clearIn server))
  else
    Action.refuse (.conflict s!"refusing to clear all args for server '{server}' without --force")

/-- The arguments of a server. -/
def list (locs : Locations) (server : String) : Action m (List String) := do
  let x : Context ← Store.load locs.context
  return (← Action.ofExcept (x.requireServer server)).args

end Arguments

end FleetConfig
