import FleetConfig.Data.Basic
import FleetConfig.Locations
import FleetConfig.Store

/-!
# Servers of a contract and their tools

## Main definitions

* `Tools.set`, `Tools.remove`, `Tools.list` — the commands for tools.
* `Tools.Report`, `Servers.Report` — what they report.
* `Servers.remove` — the command that removes a server.
-/

namespace FleetConfig

variable {m : Type → Type} [Monad m] [FileAccess m]

namespace Tools

/-- The tools of a server after a change. -/
structure Report where
  server : String
  tools : NameSet
  outcome : Outcome
deriving DecidableEq

/-- A report as data. -/
def Report.toData (r : Report) : Data :=
  .record [("server", .text r.server), ("tools", .texts r.tools.toList),
    ("result", .text r.outcome.text)]

/-- The names of tools in some input: trimmed, without the empty ones. -/
def named (tools : List String) : List String := (tools.map Text.trim).filter (· != "")

/-- Changes the tools of a server. -/
def editIn (server : String) (f : NameSet → NameSet) (k : Contract) :
    Except ConfigError (Report × Contract) := do
  match k.server? server with
  | none => .error (Contract.serverNotFound server)
  | some s =>
    let tools := f s.tools
    let (outcome, k') ← k.upsertServer { s with tools }
    return ({ server, tools, outcome }, k')

/-- Changes the tools of a server, one named tool after the other. -/
def edit (locs : Locations) (verb server : String) (tools : List String)
    (f : NameSet → String → NameSet) : Action m Report :=
  Action.within s!"Failed to {verb} tools for server '{server}'"
    (match named tools with
    | [] => Action.refuse (.emptyInput "tool names")
    | names => Store.modify locs.contract (editIn server fun set => names.foldl f set))

/-- Adds tools to a server. -/
def set (locs : Locations) (server : String) (tools : List String) : Action m Report :=
  edit locs "set" server tools NameSet.insert

/-- Removes tools from a server. -/
def remove (locs : Locations) (server : String) (tools : List String) : Action m Report :=
  edit locs "remove" server tools NameSet.erase

/-- The tools of a server. -/
def list (locs : Locations) (server : String) : Action m NameSet := do
  let k : Contract ← Store.load locs.contract
  match k.server? server with
  | none => Action.refuse (Contract.serverNotFound server)
  | some s => return s.tools

end Tools

namespace Servers

/-- What happened to a server. -/
structure Report where
  server : String
  outcome : Outcome
deriving DecidableEq

/-- A report as data. -/
def Report.toData (r : Report) : Data :=
  .record [("server", .text r.server), ("result", .text r.outcome.text)]

/-- Removes a server from the contract. Its entry in the execution context stays. -/
def remove (locs : Locations) (server : String) : Action m Report := do
  let outcome ← Action.within s!"Failed to remove server '{server}'"
    (Store.modify locs.contract fun k : Contract => k.deleteServer server)
  return { server, outcome }

end Servers

end FleetConfig
