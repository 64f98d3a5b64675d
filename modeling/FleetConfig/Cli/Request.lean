import FleetConfig.Cli.Reading
import FleetConfig.Command.Exporting
import FleetConfig.Command.Plugins

/-!
# Requests

A command line that has the form of a command is a request, if its values are what the command takes
and its options go together.

## Main definitions

* `Cli.Request` — what is asked for.
* `Cli.Invocation`, `Cli.Invocation.ofTokens` — a request with all that the command line says about
  where and how.
* `Cli.Environment` — what is said outside the command line.
-/

namespace FleetConfig.Cli

open Plugin (Category Flow)

/-- The form in which results are printed. -/
inductive OutputFormat where
  | text | json | yaml
deriving DecidableEq, Repr

/-- What is asked for. -/
inductive Request where
  | setArguments (server : String) (switches tokens : List String)
  | removeArguments (server : String) (names : List String)
  | listArguments (server : String)
  | clearArguments (server : String) (force : Bool)
  | setVariables (server : String) (pairs : List String)
  | removeVariables (server : String) (keys : List String)
  | listVariables (server : String)
  | clearVariables (server : String) (force : Bool)
  | setTools (server : String) (tools : List String)
  | removeTools (server : String) (tools : List String)
  | listTools (server : String)
  | setSettings (assignments : List String)
  | getSetting (path : String)
  | listSettings
  | listKeys
  | removeSettings (keys : List String)
  | validateSettings
  | addPlugin (addition : Plugins.Addition)
  | setPlugin (update : Plugins.Update)
  | getPlugin (category : Category) (name : String)
  | getCatalogue
  | listPlugins (category : Option Category)
  | movePlugin (category : Category) (name : String) (move : Catalogue.Move)
  | removePlugin (category : Category) (name : String)
  | validatePlugins (category : Option Category) (programs verbose : Bool)
  | exportContract (request : Exporting.Request)
  | removeServer (server : String)

/-! ### Values -/

/-- Reads the value of an option that may be absent. -/
def optional {α : Type} (parse : String → Option α) : Option String → Option (Option α)
  | none => some none
  | some s => (parse s).map some

/-- A category by name. -/
def category? (s : String) : Option Category := (Category.parse s).toOption

/-- A flow by name. -/
def flow? (s : String) : Option Flow := (Flow.parse s).toOption

/-- A path; the empty text is none. -/
def path? (s : String) : Option Path := if s = "" then none else some ⟨s⟩

/-- A truth value. -/
def truth? (s : String) : Option Bool :=
  match s with
  | "true" => some true
  | "false" => some false
  | _ => none

/-- A format of the output. -/
def outputFormat? (s : String) : Option OutputFormat :=
  match s with
  | "text" => some .text
  | "json" => some .json
  | "yaml" => some .yaml
  | _ => none

/-- The least number that does not fit 64 bits with a sign. -/
def integerBound : Nat := 9223372036854775808

/-- A number in 64 bits with a sign or without. -/
def integer? (s : String) : Option Int :=
  match s.toList with
  | '-' :: cs => ((Number.natural? 10 cs).filter (· ≤ integerBound)).map fun n => -(n : Int)
  | '+' :: cs => ((Number.natural? 10 cs).filter (· < integerBound)).map Int.ofNat
  | cs => ((Number.natural? 10 cs).filter (· < integerBound)).map Int.ofNat

/-! ### Requests of plugins -/

/-- A request for a new plugin. -/
def addition? (r : Reading) (name : String) : Option Plugins.Addition := do
  let category ← (r.value? "category").bind category?
  let flows ← (r.values "flow").mapM flow?
  if flows.isEmpty then none
  else
    return { name, category, flows, required := r.has "required",
             commitHash := r.value? "commit-hash" }

/-- A request to change plugins: a plugin is named by both its category and its name. -/
def update? (r : Reading) : Option Plugins.Update := do
  let category ← optional category? (r.value? "category")
  let name := r.value? "name"
  let flows ← (r.values "flow").mapM flow?
  let required ← optional truth? (r.value? "required")
  let commitHash := r.value? "commit-hash"
  let needsName := !flows.isEmpty || required.isSome || commitHash.isSome
  if category.isSome ≠ name.isSome ∨ (needsName ∧ name.isNone) then none
  else return { dir := r.value? "dir", category, name, flows, required, commitHash }

/-- Where a plugin is to go: before another, after another, to a numbered place, or into another
category and there to a numbered place. -/
def move? (r : Reading) : Option Catalogue.Move := do
  let toCategory ← optional category? (r.value? "to-category")
  let position ← optional integer? (r.value? "position")
  let force := r.has "force"
  match r.value? "before", r.value? "after", toCategory, position with
  | some other, none, none, none => return { placement := some (.before other), force }
  | none, some other, none, none => return { placement := some (.after other), force }
  | none, none, none, none => none
  | none, none, _, _ => return { toCategory, placement := position.map .position, force }
  | _, _, _, _ => none

/-- The plugin that is named, or nothing if none is. -/
def named? (r : Reading) : Option (Option (Category × String)) := do
  let category ← optional category? (r.value? "category")
  match category, r.value? "name" with
  | some c, some name => return some (c, name)
  | none, none => return none
  | _, _ => none

/-- Where to export to. -/
def exportRequest? (r : Reading) : Option Exporting.Request := do
  let standard : Exporting.Request := {}
  let contextOutput ← optional path? (r.value? "context-output")
  let contractOutput ← optional path? (r.value? "contract-output")
  let format ← optional (fun s => (Export.Format.parse s).toOption) (r.value? "format")
  return {
    contextOutput := contextOutput.getD standard.contextOutput
    contractOutput := contractOutput.getD standard.contractOutput
    format := format.getD standard.format }

/-! ### Requests -/

/-- The request of a command about the execution context. -/
def contextRequest? (r : Reading) : Option Request :=
  let server := r.operands.head?.getD ""
  let rest := r.operands.tail
  let force := r.has "force"
  match r.words with
  | ["config", "args", "set"] => some (.setArguments server (r.values "bool-flag") r.tail)
  | ["config", "args", "remove"] => some (.removeArguments server r.tail)
  | ["config", "args", "list"] => some (.listArguments server)
  | ["config", "args", "clear"] => some (.clearArguments server force)
  | ["config", "env", "set"] => some (.setVariables server rest)
  | ["config", "env", "remove"] => some (.removeVariables server rest)
  | ["config", "env", "list"] => some (.listVariables server)
  | ["config", "env", "clear"] => some (.clearVariables server force)
  | _ => none

/-- The request of a command about plugins. -/
def pluginRequest? (r : Reading) : Option Request :=
  match r.words with
  | ["config", "plugins", "add"] => (addition? r (r.operands.head?.getD "")).map .addPlugin
  | ["config", "plugins", "set"] => (update? r).map .setPlugin
  | ["config", "plugins", "get"] =>
    (named? r).map fun p => (p.map fun (c, name) => .getPlugin c name).getD .getCatalogue
  | ["config", "plugins", "list"] =>
    (optional category? (r.value? "category")).map .listPlugins
  | ["config", "plugins", "move"] => do
    let (c, name) ← (named? r).join
    return .movePlugin c name (← move? r)
  | ["config", "plugins", "remove"] => do
    let (c, name) ← (named? r).join
    return .removePlugin c name
  | ["config", "plugins", "validate"] => do
    let c ← optional category? (r.value? "category")
    return .validatePlugins c (r.has "check-binaries") (r.has "verbose")
  | _ => none

/-- The request of any other command. -/
def otherRequest? (r : Reading) : Option Request :=
  let first := r.operands.head?.getD ""
  match r.words with
  | ["config", "tools", "set"] => some (.setTools first r.operands.tail)
  | ["config", "tools", "remove"] => some (.removeTools first r.operands.tail)
  | ["config", "tools", "list"] => some (.listTools first)
  | ["config", "daemon", "set"] => some (.setSettings r.operands)
  | ["config", "daemon", "get"] => some (.getSetting first)
  | ["config", "daemon", "list"] =>
    some (if r.has "available" then .listKeys else .listSettings)
  | ["config", "daemon", "remove"] => some (.removeSettings r.operands)
  | ["config", "daemon", "validate"] => some .validateSettings
  | ["config", "export"] => (exportRequest? r).map .exportContract
  | ["remove"] => some (.removeServer first)
  | _ => none

/-- The request that has been read. -/
def Request.ofReading? (r : Reading) : Option Request :=
  contextRequest? r <|> pluginRequest? r <|> otherRequest? r

/-! ### Invocations -/

/-- What is said outside the command line. -/
structure Environment where
  /-- The path of the contract, if the command line names none. -/
  contractFile : Option String := none
  /-- The path of the execution context, if the command line names none. -/
  contextFile : Option String := none
  /-- The directory for configuration. -/
  configHome : Option String := none
  /-- The home directory. -/
  home : Option String := none

/-- A request with all that is said about where and how. -/
structure Invocation where
  /-- The path of the contract. -/
  contract : Path
  /-- The path of the execution context, if one is named. -/
  context : Option Path
  /-- The form in which the result is printed. -/
  format : OutputFormat
  /-- What is asked for. -/
  request : Request

/-- The format of the output; exporting has a format of another kind. -/
def formatOf? (r : Reading) : Option OutputFormat :=
  if r.words = ["config", "export"] then some .text
  else (optional outputFormat? (r.value? "format")).map (·.getD .text)

/-- A path that the command line or else the environment names. Of several on the command line the
last counts. No path is empty, wherever it is named. -/
def chosenPath (onLine : List String) (outside : Option String) : Option (Option Path) := do
  let line ← onLine.mapM path?
  let other ← optional path? outside
  return line.getLast?.or other

/-- The invocation in a command line, or nothing if it is none. -/
def Invocation.ofTokens? (e : Environment) (tokens : List String) : Option Invocation := do
  let r ← Reading.ofTokens tokens
  let contract ← chosenPath (r.shared "config-file") e.contractFile
  let context ← chosenPath (r.shared "runtime-file") e.contextFile
  return {
    contract := contract.getD Locations.defaultContract
    context
    format := ← formatOf? r
    request := ← Request.ofReading? r }

end FleetConfig.Cli
