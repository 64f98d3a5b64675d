import FleetConfig.Contract
import FleetConfig.Document.Catalogue
import FleetConfig.Document.Daemon

/-!
# Contracts in documents

## Main definitions

* `Server.decode`, `Server.encode` — a server as it is read from and written to a document.
* `Contract.decode`, `Contract.encode` — a contract.
-/

namespace FleetConfig

open Toml (Decoder Tree)

namespace Server

/-- The fields of a server that is being read. -/
structure Draft where
  name : Option String := none
  package : Option String := none
  tools : NameSet := .empty
  requiredEnv : NameSet := .empty
  requiredArgs : NameSet := .empty
  args : List String := []
  env : NameMap String := .empty

/-- Reads a set of names. -/
def decodeNames : Decoder NameSet := fun left node => do
  return .ofList (← Decoder.list Decoder.text left node)

/-- Reads a server. -/
def decode : Decoder Server := fun left node => do
  let draft ← Decoder.record
    ["name", "package", "tools", "required_env", "required_args", "args", "env"]
    (fun name acc left node =>
      match name with
      | "name" => return { acc with name := some (← Decoder.text left node) }
      | "package" => return { acc with package := some (← Decoder.text left node) }
      | "tools" => return { acc with tools := ← decodeNames left node }
      | "required_env" => return { acc with requiredEnv := ← decodeNames left node }
      | "required_args" => return { acc with requiredArgs := ← decodeNames left node }
      | "args" => return { acc with args := ← Decoder.list Decoder.text left node }
      | "env" => return { acc with env := ← Decoder.map Decoder.text left node }
      | _ => return acc) ({} : Draft) left node
  let name ← Decoder.required left draft.name
  let package ← Decoder.required left draft.package
  return {
    name
    package
    tools := draft.tools
    requiredEnv := draft.requiredEnv
    requiredArgs := draft.requiredArgs
    args := draft.args
    env := draft.env }

/-- The entries of a map of texts. -/
def encodeMap (m : NameMap String) : Tree.Entries := m.entries.map fun e => (e.1, .text e.2)

/-- The entries of a server. -/
def encode (s : Server) : Tree.Entries :=
  [("name", .text s.name), ("package", .text s.package)] ++
    Tree.listUnlessEmpty "tools" s.tools.toList ++
    Tree.listUnlessEmpty "required_env" s.requiredEnv.toList ++
    Tree.listUnlessEmpty "required_args" s.requiredArgs.toList ++
    Tree.listUnlessEmpty "args" s.args ++
    Tree.tableUnlessEmpty "env" (encodeMap s.env)

end Server

namespace Contract

/-- Reads a contract. -/
def decode : Decoder Contract :=
  Decoder.record ["servers", "daemon", "plugins"] (fun name acc left node =>
    match name with
    | "servers" => return { acc with servers := ← Decoder.list Server.decode left node }
    | "daemon" => return { acc with daemon := some (← Daemon.decode left node) }
    | "plugins" => return { acc with plugins := some (← Catalogue.decode left node) }
    | _ => return acc) {}

/-- The entries of a contract. -/
def encode (k : Contract) : Tree.Entries :=
  Tree.tablesUnlessEmpty "servers" (k.servers.map Server.encode) ++
    Tree.optional "daemon" Daemon.encode k.daemon ++
    Tree.optional "plugins" Catalogue.encode k.plugins

end Contract

end FleetConfig
