import FleetConfig.Context
import FleetConfig.Contract
import FleetConfig.Flag

/-!
# Portable exports

A contract and the execution context of a host are exported as two documents that hold no secrets: a
*portable context*, whose values are references to placeholders, and an *environment contract*,
which lists every placeholder for the next host to fill in. Only what the contract requires of a
server is exported; what the host adds besides is told to be dropped.

## Main definitions

* `Export.placeholder` — the name that stands for a variable or flag of a server.
* `Export.Artifacts` — the two documents.
* `Export.Dropped`, `Export.droppedFrom` — what of an execution context is not exported.
* `Export.ofContract` — what is exported for a contract, and what is dropped.
* `Export.Format`, `Export.Artifacts.render` — the text of the environment contract.
-/

namespace FleetConfig.Export

/-! ### Formats -/

/-- A form of the environment contract. -/
inductive Format where
  | dotenv | github | kubernetes
deriving DecidableEq, Repr, Inhabited

namespace Format

/-- The name of a format. -/
def name : Format → String
  | dotenv => "dotenv"
  | github => "github"
  | kubernetes => "k8s"

/-- The format of a name, in any case of its letters. -/
def parse (s : String) : Except ConfigError Format :=
  match (Text.trim s).toLower with
  | "dotenv" => .ok dotenv
  | "github" => .ok github
  | "k8s" => .ok kubernetes
  | "kubernetes" => .ok kubernetes
  | other =>
    .error (.invalidValue "format"
      s!"unknown export format '{other}' (expected: dotenv, github, k8s)")

end Format

/-! ### Placeholders -/

/-- Drops pairs of dashes in front. -/
def dropDashPairs : List Char → List Char
  | '-' :: '-' :: cs => dropDashPairs cs
  | cs => cs

/-- The letter of a placeholder for one character of a name. -/
def placeholderChar (c : Char) : Char := if c = '-' ∨ c = '.' then '_' else c.toUpper

/-- The part of a placeholder for one name. -/
def segment (name : String) : String :=
  String.ofList ((dropDashPairs name.toList).map placeholderChar)

/-- The name that stands for a variable or flag of a server. -/
def placeholder (server name : String) : String :=
  "MCPD__" ++ segment server ++ "__" ++ segment name

/-- A reference to a placeholder. -/
def reference (placeholder : String) : String := "$\x7b" ++ placeholder ++ "\x7d"

/-! ### The two documents -/

/-- What is exported. -/
structure Artifacts where
  /-- The context with a reference for each value. -/
  context : Context := {}
  /-- The placeholders, none of which has a value yet. -/
  contract : NameMap String := .empty
deriving DecidableEq, Inhabited

/-- The placeholders of a server. -/
def placeholders (s : Server) : List String :=
  (s.requiredEnv.toList ++ s.requiredArgs.toList).map (placeholder s.name)

/-- What every host has to add to a server, by reference. -/
def portableEntry (s : Server) : Context.Entry where
  args := s.requiredArgs.toList.map fun flag => flag ++ "=" ++ reference (placeholder s.name flag)
  env := .ofList (s.requiredEnv.toList.map fun v => (v, reference (placeholder s.name v)))

/-- The entries of the portable context; servers that require nothing have none. -/
def portableEntries (servers : List Server) : List (String × Context.Entry) :=
  (servers.map fun s => (s.name, portableEntry s)).filter fun e => !e.2.isEmpty

/-! ### What is dropped -/

/-- What a host adds to a server that the contract does not require of it. -/
inductive Dropped where
  /-- A variable, by its name. -/
  | variable (server name : String)
  /-- An argument. -/
  | argument (server token : String)
deriving DecidableEq, Repr

/-- What is dropped of the entry of a server: variables first. An argument is required if it names a
flag that is. -/
def droppedOf (s : Server) (e : Context.Entry) : List Dropped :=
  (e.env.keys.filter fun v => !s.requiredEnv.contains v).map (.variable s.name) ++
    (e.args.filter fun token => !(Flag.name? token).any s.requiredArgs.contains).map
      (.argument s.name)

/-- What is dropped of an execution context, server by server. -/
def droppedFrom (servers : List Server) (x : Context) : List Dropped :=
  servers.flatMap fun s => (x.server? s.name).toList.flatMap (droppedOf s)

/-! ### Exports -/

/-- The two documents, with what is dropped. -/
structure Exported extends Artifacts where
  /-- What is dropped of the execution context, in the order in which it is told. -/
  dropped : List Dropped := []
deriving DecidableEq, Inhabited

/-- What is exported for a contract beside the execution context of a host. A contract without
servers has nothing to export. -/
def ofContract (k : Contract) (x : Context := {}) : Except ConfigError Exported :=
  if k.servers.isEmpty then .error .emptyContract
  else
    .ok {
      context := ⟨.ofList (portableEntries k.servers)⟩
      contract := .ofList ((k.servers.flatMap placeholders).map fun p => (p, ""))
      dropped := droppedFrom k.servers x }

/-! ### Texts -/

/-- A value on one line: without carriage returns, and with line feeds written as an escape. -/
def escapeValue (value : String) : String :=
  String.ofList ((value.toList.filter (· != '\r')).flatMap fun c =>
    if c = '\n' then ['\\', 'n'] else [c])

/-- A line for each name with its value. -/
def dotenv (values : NameMap String) : String :=
  String.join (values.entries.map fun e => e.1 ++ "=" ++ escapeValue e.2 ++ "\n")

/-- The text of the environment contract in a format. -/
def Artifacts.render (a : Artifacts) : Format → Except ConfigError String
  | .dotenv => .ok (dotenv a.contract)
  | format => .error (.unimplemented s!"export format '{format.name}'")

end FleetConfig.Export
