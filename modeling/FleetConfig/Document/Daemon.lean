import FleetConfig.Daemon.Basic
import FleetConfig.Duration.Parser
import FleetConfig.Toml.Decoder
import FleetConfig.Toml.Tree

/-!
# The daemon section in documents

## Main definitions

* `Daemon.decode`, `Daemon.encode` — the section as it is read from and written to a document.
-/

namespace FleetConfig

open Toml (Decoder Tree)

/-! ### Durations -/

/-- Reads a duration from its text. -/
def Duration.decode : Decoder Duration := fun left node => do
  let s ← Decoder.text left node
  (Duration.parse s).mapError fun _ => ⟨left⟩

/-- A duration as its canonical text. -/
def Duration.encode (d : Duration) : Tree := .text d.text

namespace Daemon

/-! ### Reading -/

/-- Reads the interface's timeouts. -/
def ApiTimeout.decode : Decoder ApiTimeout :=
  Decoder.record ["shutdown"] (fun name acc left node =>
    match name with
    | "shutdown" => return { acc with shutdown := some (← Duration.decode left node) }
    | _ => return acc) {}

/-- Reads what other origins are allowed. -/
def Cors.decode : Decoder Cors :=
  Decoder.record
    ["enable", "allow_origins", "methods", "allow_headers", "expose_headers", "allow_credentials",
      "max_age"]
    (fun name acc left node =>
      match name with
      | "enable" => return { acc with enable := some (← Decoder.boolean left node) }
      | "allow_origins" =>
        return { acc with allowOrigins := ← Decoder.list Decoder.text left node }
      | "methods" => return { acc with methods := ← Decoder.list Decoder.text left node }
      | "allow_headers" =>
        return { acc with allowHeaders := ← Decoder.list Decoder.text left node }
      | "expose_headers" =>
        return { acc with exposeHeaders := ← Decoder.list Decoder.text left node }
      | "allow_credentials" =>
        return { acc with allowCredentials := some (← Decoder.boolean left node) }
      | "max_age" => return { acc with maxAge := some (← Duration.decode left node) }
      | _ => return acc) {}

/-- Reads the interface's section. -/
def Api.decode : Decoder Api :=
  Decoder.record ["addr", "timeout", "cors"] (fun name acc left node =>
    match name with
    | "addr" => return { acc with addr := some (← Decoder.text left node) }
    | "timeout" => return { acc with timeout := some (← ApiTimeout.decode left node) }
    | "cors" => return { acc with cors := some (← Cors.decode left node) }
    | _ => return acc) {}

/-- Reads the timeouts of servers. -/
def McpTimeout.decode : Decoder McpTimeout :=
  Decoder.record ["shutdown", "init", "health"] (fun name acc left node =>
    match name with
    | "shutdown" => return { acc with shutdown := some (← Duration.decode left node) }
    | "init" => return { acc with init := some (← Duration.decode left node) }
    | "health" => return { acc with health := some (← Duration.decode left node) }
    | _ => return acc) {}

/-- Reads the intervals of servers. -/
def McpInterval.decode : Decoder McpInterval :=
  Decoder.record ["health"] (fun name acc left node =>
    match name with
    | "health" => return { acc with health := some (← Duration.decode left node) }
    | _ => return acc) {}

/-- Reads the servers' section. -/
def Mcp.decode : Decoder Mcp :=
  Decoder.record ["timeout", "interval"] (fun name acc left node =>
    match name with
    | "timeout" => return { acc with timeout := some (← McpTimeout.decode left node) }
    | "interval" => return { acc with interval := some (← McpInterval.decode left node) }
    | _ => return acc) {}

/-- Reads the daemon section. -/
def decode : Decoder Daemon :=
  Decoder.record ["api", "mcp"] (fun name acc left node =>
    match name with
    | "api" => return { acc with api := some (← Api.decode left node) }
    | "mcp" => return { acc with mcp := some (← Mcp.decode left node) }
    | _ => return acc) {}

/-! ### Writing -/

open Toml.Tree (optional listUnlessEmpty)

/-- The entries of the interface's timeouts. -/
def ApiTimeout.encode (t : ApiTimeout) : Tree :=
  .table (optional "shutdown" Duration.encode t.shutdown)

/-- The entries of what other origins are allowed. -/
def Cors.encode (c : Cors) : Tree :=
  .table
    (optional "enable" .boolean c.enable ++ listUnlessEmpty "allow_origins" c.allowOrigins ++
      listUnlessEmpty "methods" c.methods ++ listUnlessEmpty "allow_headers" c.allowHeaders ++
      listUnlessEmpty "expose_headers" c.exposeHeaders ++
      optional "allow_credentials" .boolean c.allowCredentials ++
      optional "max_age" Duration.encode c.maxAge)

/-- The entries of the interface's section. -/
def Api.encode (a : Api) : Tree :=
  .table
    (optional "addr" .text a.addr ++ optional "timeout" ApiTimeout.encode a.timeout ++
      optional "cors" Cors.encode a.cors)

/-- The entries of the timeouts of servers. -/
def McpTimeout.encode (t : McpTimeout) : Tree :=
  .table
    (optional "shutdown" Duration.encode t.shutdown ++ optional "init" Duration.encode t.init ++
      optional "health" Duration.encode t.health)

/-- The entries of the intervals of servers. -/
def McpInterval.encode (i : McpInterval) : Tree :=
  .table (optional "health" Duration.encode i.health)

/-- The entries of the servers' section. -/
def Mcp.encode (m : Mcp) : Tree :=
  .table (optional "timeout" McpTimeout.encode m.timeout ++
    optional "interval" McpInterval.encode m.interval)

/-- The entries of the daemon section. -/
def encode (d : Daemon) : Tree :=
  .table (optional "api" Api.encode d.api ++ optional "mcp" Mcp.encode d.mcp)

end Daemon

end FleetConfig
