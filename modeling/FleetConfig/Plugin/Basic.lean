import FleetConfig.ConfigError
import FleetConfig.Text.Blank

/-!
# Plugins

A plugin has a name, which is also the name of its program's file, and the flows that it sees:
requests, responses or both.

## Main definitions

* `Plugin.Flow`, `Plugin.Flow.parse` — the two flows and their names.
* `Plugin.FlowSet` — a set of flows.
* `Plugin` — a plugin as it is configured.
* `Plugin.violations`, `Plugin.validate` — what is wrong with one.
-/

namespace FleetConfig

/-! ### Flows -/

namespace Plugin

/-- A stage at which a plugin sees a message. -/
inductive Flow where
  | request | response
deriving DecidableEq, Repr

namespace Flow

/-- The name of a flow. -/
def name : Flow → String
  | request => "request"
  | response => "response"

/-- The flow of a name, in any case of its letters. -/
def parse (s : String) : Except ConfigError Flow :=
  match (Text.trim s).toLower with
  | "request" => .ok request
  | "response" => .ok response
  | _ => .error (.invalidValue "flow" s!"unknown flow '{s}' (valid: request, response)")

/-- The flow of exactly this name. -/
def ofName? (s : String) : Option Flow := [request, response].find? fun f => f.name == s

end Flow

/-- A set of flows. -/
structure FlowSet where
  request : Bool := false
  response : Bool := false
deriving DecidableEq, Inhabited

namespace FlowSet

/-- Adds a flow. -/
def insert (s : FlowSet) : Flow → FlowSet
  | .request => { s with request := true }
  | .response => { s with response := true }

/-- The set of the flows in a list. -/
def ofList (fs : List Flow) : FlowSet := fs.foldl insert {}

/-- The flows, requests first. -/
def toList (s : FlowSet) : List Flow :=
  (if s.request then [.request] else []) ++ if s.response then [.response] else []

/-- Holds of the set without flows. -/
def isEmpty (s : FlowSet) : Bool := !s.request && !s.response

end FlowSet

end Plugin

/-! ### Plugins -/

/-- A plugin as it is configured. -/
structure Plugin where
  /-- Its name and the name of its program's file. -/
  name : String
  /-- The flows that it sees. -/
  flows : Plugin.FlowSet := {}
  /-- Whether its failure fails the message; nothing is not the same as no. -/
  required : Option Bool := none
  /-- The commit that its program was built from. -/
  commitHash : Option String := none
deriving DecidableEq, Inhabited

namespace Plugin

/-- What is wrong with a plugin. -/
inductive Violation where
  | blankName
  | badName (name : String)
  | noFlow (name : String)
  | blankCommitHash (name : String)
deriving DecidableEq, Repr

/-- The error that reports a violation. -/
def Violation.toError : Violation → ConfigError
  | blankName => .emptyInput "plugin name"
  | badName name => .invalidValue s!"plugin '{name}'" "name must be a plain file name"
  | noFlow name => .invalidValue s!"plugin '{name}'" "at least one flow is required"
  | blankCommitHash name => .invalidValue s!"plugin '{name}'" "commit hash must not be empty"

/-- Decides whether a trimmed name names a file in a directory. -/
def isPlainName (name : String) : Bool :=
  !name.toList.contains '/' && !name.toList.contains '\\' && name != "." && name != ".."

/-- The violation of a plugin's name. -/
def nameViolations (name : String) : List Violation :=
  if Text.isBlankText name then [.blankName]
  else if isPlainName (Text.trim name) then []
  else [.badName name]

/-- All violations of a plugin, in the order of their report. -/
def violations (p : Plugin) : List Violation :=
  nameViolations p.name ++ (if p.flows.isEmpty then [.noFlow p.name] else []) ++
    if p.commitHash.any Text.isBlankText then [.blankCommitHash p.name] else []

/-- Succeeds if there is no violation. -/
def validate (p : Plugin) : Except ConfigError Unit :=
  ConfigError.collect (p.violations.map Violation.toError)

end Plugin

end FleetConfig
