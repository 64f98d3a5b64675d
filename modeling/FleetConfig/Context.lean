import FleetConfig.Outcome
import FleetConfig.Server

/-!
# Execution contexts

The execution context holds what a host adds to the servers of a contract: arguments and variables,
often secret ones. A server without either has no entry of its own.

## Main definitions

* `Context`, `Context.Entry` — values for servers.
* `Context.upsert`, `Context.delete` — changes.
* `Context.violations`, `Context.validate` — what is wrong with one.
-/

namespace FleetConfig

/-- What a host adds to one server. -/
structure Context.Entry where
  args : List String := []
  env : NameMap String := .empty
deriving DecidableEq, Inhabited

/-- What a host adds to the servers. -/
structure Context where
  servers : NameMap Context.Entry := .empty
deriving DecidableEq, Inhabited

namespace Context

/-- Holds of an entry that adds nothing. -/
def Entry.isEmpty (e : Entry) : Bool := e.args.isEmpty && e.env.isEmpty

/-- The entry of a server. -/
def server? (x : Context) (name : String) : Option Entry := x.servers.get? name

/-- Stores the entry of a server; an empty entry removes it. -/
def upsert (x : Context) (name : String) (e : Entry) : Except ConfigError (Outcome × Context) := do
  Server.checkName name
  if e.isEmpty then
    match x.server? name with
    | some _ => return (.deleted, { servers := x.servers.erase name })
    | none => return (.noop, x)
  else
    let outcome := Outcome.ofChange (x.server? name) (some e)
    return (outcome, if outcome.isChange then { servers := x.servers.insert name e } else x)

/-- The error that a server has no entry. -/
def serverNotFound (name : String) : ConfigError :=
  .notFound s!"server '{name}' in execution context"

/-- Removes the entry of a server. -/
def delete (x : Context) (name : String) : Except ConfigError (Outcome × Context) :=
  match x.server? name with
  | some _ => .ok (.deleted, { servers := x.servers.erase name })
  | none => .error (serverNotFound name)

/-- The names of servers that are no names, in order. -/
def violations (x : Context) : List Server.NameFault := x.servers.keys.filterMap Server.nameFault?

/-- Succeeds if there is no violation. -/
def validate (x : Context) : Except ConfigError Unit :=
  ConfigError.collect (x.violations.map Server.NameFault.toError)

end Context

end FleetConfig
