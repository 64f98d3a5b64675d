import FleetConfig.Cli.Layout

/-!
# Running requests

## Main definitions

* `Cli.perform` — carries out a request.
* `Cli.Invocation.run` — carries out an invocation and prints its result.
* `Cli.Ending` — how a run of the program ends.
-/

namespace FleetConfig.Cli

variable {m : Type → Type} [Monad m] [FileAccess m]

/-! ### Requests -/

/-- A result with a title. -/
def titled (title : String) (data : Data) (lines : List String) : Output where
  data := data
  lines := title :: lines

/-- Carries out a request. -/
def perform (locs : Locations) : Request → Action m Output
  | .setArguments server switches tokens =>
    return ofArguments "Set" (← Arguments.set locs switches server tokens)
  | .removeArguments server names =>
    return ofArguments "Removed" (← Arguments.remove locs server names)
  | .listArguments server => do
    let args ← Arguments.list locs server
    return titled s!"Arguments for server '{server}':" (.texts args) (argumentLines args)
  | .clearArguments server force =>
    return ofArguments "Cleared" (← Arguments.clear locs server force)
  | .setVariables server pairs => return ofVariables "Set" (← Variables.set locs server pairs)
  | .removeVariables server keys =>
    return ofVariables "Removed" (← Variables.remove locs server keys)
  | .listVariables server => do
    let env ← Variables.list locs server
    return titled s!"Environment for server '{server}':" (Variables.dataOf env) (variableLines env)
  | .clearVariables server force =>
    return ofVariables "Cleared" (← Variables.clear locs server force)
  | .setTools server tools => return ofTools (← Tools.set locs server tools)
  | .removeTools server tools => return ofTools (← Tools.remove locs server tools)
  | .listTools server => do
    let tools ← Tools.list locs server
    return titled s!"Tools for server '{server}':" (.texts tools.toList) (toolLines tools)
  | .setSettings assignments => return ofSettings "Set" (← Settings.set locs assignments)
  | .getSetting path => return ofSetting path (← Settings.get locs path)
  | .listSettings => return ofAllSettings (← Settings.list locs)
  | .listKeys => return allKeys
  | .removeSettings keys => return ofSettings "Removed" (← Settings.remove locs keys)
  | .validateSettings => do
    Settings.validate locs
    return { data := .null, lines := ["Daemon configuration is valid"] }
  | .addPlugin addition => return ofPlugins "Added" (← Plugins.add locs addition)
  | .setPlugin update => return ofPlugins "Set" (← Plugins.set locs update)
  | .getPlugin c name => return ofPlugin c (← Plugins.get locs c name)
  | .getCatalogue => return ofCatalogue (← Plugins.catalogue locs)
  | .listPlugins c => return ofListing (← Plugins.list locs c)
  | .movePlugin c name move => return ofMove (← Plugins.move locs c name move)
  | .removePlugin c name => return ofPlugins "Removed" (← Plugins.remove locs c name)
  | .validatePlugins c programs verbose =>
    return ofValidation verbose (← Plugins.validate locs c programs)
  | .exportContract request => return ofExport (← Exporting.run locs request)
  | .removeServer server => return ofServer (← Servers.remove locs server)

/-! ### Invocations -/

/-- Where an invocation keeps the documents. -/
def Invocation.locations (e : Environment) (i : Invocation) : Except Failure Locations :=
  match i.context.or (Locations.defaultContext? e.configHome e.home) with
  | some context => .ok { contract := i.contract, context }
  | none => .error { cause := .noHome }

/-- Carries out an invocation and prints its result. -/
def Invocation.run (e : Environment) (i : Invocation) : Action m String := do
  match i.locations e with
  | .ok locs => return (← perform locs i.request).print i.format
  | .error f => throw f

/-! ### Endings -/

/-- How a run of the program ends. -/
structure Ending where
  /-- The code that says how it went: 0 well, 1 with a failure, 2 without an invocation. -/
  code : Nat
  /-- The text of the result. -/
  output : String := ""
  /-- The text of the failure. -/
  errors : String := ""
deriving DecidableEq

/-- The ending of a run with a result or a failure. -/
def Ending.ofResult : Except Failure String → Ending
  | .ok text => { code := 0, output := text }
  | .error f => { code := 1, errors := describe f }

/-- The ending of a run whose command line is no invocation. -/
def Ending.misuse : Ending where
  code := 2
  errors := "error: the command line is not understood\n"

end FleetConfig.Cli
