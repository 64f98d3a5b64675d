import FleetConfig.Duration.Basic

/-!
# The daemon section

All settings of the daemon are optional. They stand in sections, which may be absent or empty; an
empty section says no more than an absent one, and pruning drops it.

## Main definitions

* `Daemon` and its sections `Daemon.Api`, `Daemon.ApiTimeout`, `Daemon.Cors`, `Daemon.Mcp`,
  `Daemon.McpTimeout`, `Daemon.McpInterval`.
* `Daemon.prune` — the section without empty sections in it.
-/

namespace FleetConfig

namespace Daemon

/-! ### Sections -/

/-- How long the daemon's interface waits. -/
structure ApiTimeout where
  shutdown : Option Duration := none
deriving DecidableEq, Inhabited

/-- What the daemon's interface allows to other origins. -/
structure Cors where
  enable : Option Bool := none
  allowOrigins : List String := []
  methods : List String := []
  allowHeaders : List String := []
  exposeHeaders : List String := []
  allowCredentials : Option Bool := none
  maxAge : Option Duration := none
deriving DecidableEq, Inhabited

/-- The daemon's interface. -/
structure Api where
  addr : Option String := none
  timeout : Option ApiTimeout := none
  cors : Option Cors := none
deriving DecidableEq, Inhabited

/-- How long the daemon waits for servers. -/
structure McpTimeout where
  shutdown : Option Duration := none
  init : Option Duration := none
  health : Option Duration := none
deriving DecidableEq, Inhabited

/-- How often the daemon looks at servers. -/
structure McpInterval where
  health : Option Duration := none
deriving DecidableEq, Inhabited

/-- The daemon's dealings with servers. -/
structure Mcp where
  timeout : Option McpTimeout := none
  interval : Option McpInterval := none
deriving DecidableEq, Inhabited

end Daemon

/-- The settings of the daemon. -/
structure Daemon where
  api : Option Daemon.Api := none
  mcp : Option Daemon.Mcp := none
deriving DecidableEq, Inhabited

namespace Daemon

/-! ### Pruning -/

/-- Drops a section that equals the empty one. -/
def dropEmpty {α : Type} [DecidableEq α] [Inhabited α] (section? : Option α) : Option α :=
  if section? = some default then none else section?

/-- Drops the empty sections in the interface's section. -/
def Api.prune (a : Api) : Api :=
  { a with timeout := dropEmpty a.timeout, cors := dropEmpty a.cors }

/-- Drops the empty sections in the servers' section. -/
def Mcp.prune (m : Mcp) : Mcp :=
  { timeout := dropEmpty m.timeout, interval := dropEmpty m.interval }

/-- Drops all empty sections, the inner ones first. -/
def prune (d : Daemon) : Daemon where
  api := dropEmpty (d.api.map Api.prune)
  mcp := dropEmpty (d.mcp.map Mcp.prune)

/-- Holds if there is no section, not even an empty one. -/
def isEmpty (d : Daemon) : Bool := d.api.isNone && d.mcp.isNone

/-! ### Reaching into sections -/

/-- Changes the interface's section, which is opened if it is absent. -/
def onApi (f : Api → Api) (d : Daemon) : Daemon := { d with api := some (f (d.api.getD default)) }

/-- Changes the servers' section, which is opened if it is absent. -/
def onMcp (f : Mcp → Mcp) (d : Daemon) : Daemon := { d with mcp := some (f (d.mcp.getD default)) }

/-- Changes the timeouts of the interface. -/
def Api.onTimeout (f : ApiTimeout → ApiTimeout) (a : Api) : Api :=
  { a with timeout := some (f (a.timeout.getD default)) }

/-- Changes what other origins are allowed. -/
def Api.onCors (f : Cors → Cors) (a : Api) : Api :=
  { a with cors := some (f (a.cors.getD default)) }

/-- Changes the timeouts of servers. -/
def Mcp.onTimeout (f : McpTimeout → McpTimeout) (m : Mcp) : Mcp :=
  { m with timeout := some (f (m.timeout.getD default)) }

/-- Changes the intervals of servers. -/
def Mcp.onInterval (f : McpInterval → McpInterval) (m : Mcp) : Mcp :=
  { m with interval := some (f (m.interval.getD default)) }

end Daemon

end FleetConfig
