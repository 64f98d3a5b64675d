import FleetConfig.Context
import FleetConfig.Document.Contract

/-!
# Execution contexts in documents

## Main definitions

* `Context.decode`, `Context.encode` — a context as it is read from and written to a document.
-/

namespace FleetConfig.Context

open Toml (Decoder Tree)

/-- Reads what a host adds to a server. -/
def Entry.decode : Decoder Entry :=
  Decoder.record ["args", "env"] (fun name acc left node =>
    match name with
    | "args" => return { acc with args := ← Decoder.list Decoder.text left node }
    | "env" => return { acc with env := ← Decoder.map Decoder.text left node }
    | _ => return acc) {}

/-- The entries of what a host adds to a server. -/
def Entry.encode (e : Entry) : Tree.Entries :=
  Tree.listUnlessEmpty "args" e.args ++ Tree.tableUnlessEmpty "env" (Server.encodeMap e.env)

/-- Reads a context. -/
def decode : Decoder Context :=
  Decoder.record ["servers"] (fun name acc left node =>
    match name with
    | "servers" => return { acc with servers := ← Decoder.map Entry.decode left node }
    | _ => return acc) {}

/-- The entries of a context. The servers are always written. -/
def encode (x : Context) : Tree.Entries :=
  [("servers", .table (x.servers.entries.map fun e => (e.1, .table e.2.encode)))]

end FleetConfig.Context
