import FleetConfig.Daemon.Basic
import FleetConfig.Setting.Kind

/-!
# Keys of the daemon section

Every setting of the daemon has a dotted key. A key knows the kind of its settings, and how to read
and write them in the section.

## Main definitions

* `Daemon.Key` — the keys, in the order of their paths.
* `Daemon.Key.path`, `Daemon.Key.kind`, `Daemon.Key.description` — what a key is.
* `Daemon.Key.read`, `Daemon.Key.write` — the setting under a key.
* `Daemon.Key.find?` — the key of a path.
-/

namespace FleetConfig.Daemon

/-- The keys of the daemon's settings, in the order of their paths. -/
inductive Key where
  | apiAddr
  | corsAllowCredentials
  | corsAllowHeaders
  | corsAllowOrigins
  | corsEnable
  | corsExposeHeaders
  | corsMaxAge
  | corsMethods
  | apiTimeoutShutdown
  | mcpIntervalHealth
  | mcpTimeoutHealth
  | mcpTimeoutInit
  | mcpTimeoutShutdown
deriving DecidableEq, Repr

namespace Key

/-! ### What a key is -/

/-- All keys, in the order of their paths. -/
def all : List Key :=
  [apiAddr, corsAllowCredentials, corsAllowHeaders, corsAllowOrigins, corsEnable,
    corsExposeHeaders, corsMaxAge, corsMethods, apiTimeoutShutdown, mcpIntervalHealth,
    mcpTimeoutHealth, mcpTimeoutInit, mcpTimeoutShutdown]

/-- The names that lead to a setting. -/
def names : Key → List String
  | apiAddr => ["api", "addr"]
  | corsAllowCredentials => ["api", "cors", "allow_credentials"]
  | corsAllowHeaders => ["api", "cors", "allow_headers"]
  | corsAllowOrigins => ["api", "cors", "allow_origins"]
  | corsEnable => ["api", "cors", "enable"]
  | corsExposeHeaders => ["api", "cors", "expose_headers"]
  | corsMaxAge => ["api", "cors", "max_age"]
  | corsMethods => ["api", "cors", "methods"]
  | apiTimeoutShutdown => ["api", "timeout", "shutdown"]
  | mcpIntervalHealth => ["mcp", "interval", "health"]
  | mcpTimeoutHealth => ["mcp", "timeout", "health"]
  | mcpTimeoutInit => ["mcp", "timeout", "init"]
  | mcpTimeoutShutdown => ["mcp", "timeout", "shutdown"]

/-- The dotted path of a key. -/
def path (k : Key) : String := Text.join "." k.names

/-- The kind of settings under a key. -/
def kind : Key → Setting.Kind
  | apiAddr => .text
  | corsAllowCredentials | corsEnable => .switch
  | corsAllowHeaders | corsAllowOrigins | corsExposeHeaders | corsMethods => .list
  | corsMaxAge | apiTimeoutShutdown | mcpIntervalHealth | mcpTimeoutHealth | mcpTimeoutInit
  | mcpTimeoutShutdown => .duration

/-- What a key is for. -/
def description : Key → String
  | apiAddr => "Address the daemon API listens on (host:port)"
  | corsAllowCredentials => "Allow credentials on cross-origin requests"
  | corsAllowHeaders => "Request headers allowed for cross-origin requests"
  | corsAllowOrigins => "Origins allowed to make cross-origin requests"
  | corsEnable => "Enable CORS handling on the API"
  | corsExposeHeaders => "Response headers exposed to cross-origin callers"
  | corsMaxAge => "How long browsers may cache preflight responses"
  | corsMethods => "HTTP methods allowed for cross-origin requests"
  | apiTimeoutShutdown => "Maximum time to wait for the API server to shut down"
  | mcpIntervalHealth => "Interval between MCP server health checks"
  | mcpTimeoutHealth => "Timeout for a single MCP server health check"
  | mcpTimeoutInit => "Maximum time to wait for an MCP server to initialize"
  | mcpTimeoutShutdown => "Maximum time to wait for MCP servers to shut down"

/-- The key of a path. -/
def find? (path : String) : Option Key := all.find? fun k => k.path == path

/-- The key of a path, blanks around which do not count. -/
def lookup (path : String) : Except ConfigError Key :=
  match find? (Text.trim path) with
  | some k => .ok k
  | none => .error (.unknownKey (Text.trim path))

/-! ### Reading and writing -/

/-- The setting for a list; an empty list is none. -/
def listSetting (xs : List String) : Option Setting.Leaf :=
  if xs.isEmpty then none else some (.list xs)

/-- The setting under a key, if there is one. -/
def read (d : Daemon) : Key → Option Setting.Leaf
  | apiAddr => (d.api.bind Api.addr).map .text
  | corsAllowCredentials => (d.api.bind Api.cors |>.bind Cors.allowCredentials).map .switch
  | corsAllowHeaders => (d.api.bind Api.cors).bind fun c => listSetting c.allowHeaders
  | corsAllowOrigins => (d.api.bind Api.cors).bind fun c => listSetting c.allowOrigins
  | corsEnable => (d.api.bind Api.cors |>.bind Cors.enable).map .switch
  | corsExposeHeaders => (d.api.bind Api.cors).bind fun c => listSetting c.exposeHeaders
  | corsMaxAge => (d.api.bind Api.cors |>.bind Cors.maxAge).map .duration
  | corsMethods => (d.api.bind Api.cors).bind fun c => listSetting c.methods
  | apiTimeoutShutdown => (d.api.bind Api.timeout |>.bind ApiTimeout.shutdown).map .duration
  | mcpIntervalHealth => (d.mcp.bind Mcp.interval |>.bind McpInterval.health).map .duration
  | mcpTimeoutHealth => (d.mcp.bind Mcp.timeout |>.bind McpTimeout.health).map .duration
  | mcpTimeoutInit => (d.mcp.bind Mcp.timeout |>.bind McpTimeout.init).map .duration
  | mcpTimeoutShutdown => (d.mcp.bind Mcp.timeout |>.bind McpTimeout.shutdown).map .duration

/-- Writes the setting under a key, or clears the key. Sections on the way are opened, and a setting
of another kind clears the key. -/
def write (d : Daemon) (value : Option Setting.Leaf) : Key → Daemon
  | apiAddr => d.onApi fun a => { a with addr := value.bind (·.asText?) }
  | corsAllowCredentials =>
    d.onApi (·.onCors fun c => { c with allowCredentials := value.bind (·.asSwitch?) })
  | corsAllowHeaders => d.onApi (·.onCors fun c => { c with allowHeaders := items })
  | corsAllowOrigins => d.onApi (·.onCors fun c => { c with allowOrigins := items })
  | corsEnable => d.onApi (·.onCors fun c => { c with enable := value.bind (·.asSwitch?) })
  | corsExposeHeaders => d.onApi (·.onCors fun c => { c with exposeHeaders := items })
  | corsMaxAge => d.onApi (·.onCors fun c => { c with maxAge := value.bind (·.asDuration?) })
  | corsMethods => d.onApi (·.onCors fun c => { c with methods := items })
  | apiTimeoutShutdown =>
    d.onApi (·.onTimeout fun t => { t with shutdown := value.bind (·.asDuration?) })
  | mcpIntervalHealth =>
    d.onMcp (·.onInterval fun i => { i with health := value.bind (·.asDuration?) })
  | mcpTimeoutHealth =>
    d.onMcp (·.onTimeout fun t => { t with health := value.bind (·.asDuration?) })
  | mcpTimeoutInit =>
    d.onMcp (·.onTimeout fun t => { t with init := value.bind (·.asDuration?) })
  | mcpTimeoutShutdown =>
    d.onMcp (·.onTimeout fun t => { t with shutdown := value.bind (·.asDuration?) })
where
  /-- The items to write under a key for lists. -/
  items : List String := (value.map (·.items)).getD []

end Key

end FleetConfig.Daemon
