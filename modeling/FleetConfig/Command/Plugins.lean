import FleetConfig.Check
import FleetConfig.Data.Basic
import FleetConfig.Locations

/-!
# Plugins of a contract

## Main definitions

* `Plugins.Addition`, `Plugins.Update` — requests for a new plugin and for changes.
* `Plugins.Report`, `Plugins.MoveReport`, `Plugins.Listing`, `Plugins.Validation` — what is
  reported.
* `Plugins.add`, `Plugins.set`, `Plugins.move`, `Plugins.remove`, `Plugins.validate` — the commands.
-/

namespace FleetConfig.Plugins

open Plugin (Category Flow FlowSet)

/-! ### Requests -/

/-- A request for a new plugin. -/
structure Addition where
  name : String
  category : Category
  flows : List Flow := []
  required : Bool := false
  commitHash : Option String := none

/-- The plugin that is asked for. -/
def Addition.plugin (a : Addition) : Plugin where
  name := a.name
  flows := .ofList a.flows
  required := if a.required then some true else none
  commitHash := a.commitHash

/-- A request to change the directory of the programs, a plugin, or both. What is absent stays. -/
structure Update where
  dir : Option String := none
  category : Option Category := none
  name : Option String := none
  flows : List Flow := []
  required : Option Bool := none
  commitHash : Option String := none

/-- Holds if a plugin is to be changed. -/
def Update.changesPlugin (u : Update) : Bool :=
  u.category.isSome || u.name.isSome || !u.flows.isEmpty || u.required.isSome ||
    u.commitHash.isSome

/-- The category and name of the plugin to change, if one is to be changed. -/
def Update.target (u : Update) : Except ConfigError (Option (Category × String)) :=
  if u.changesPlugin then
    match u.category, (u.name.map Text.trim).filter (· != "") with
    | none, _ => .error (.missingArgument "category")
    | some _, none => .error (.missingArgument "name")
    | some c, some name => .ok (some (c, name))
  else if u.dir.isNone then .error (.missingArgument "dir, or category and name")
  else .ok none

/-- A plugin with the changes that are asked for. A blank commit hash clears it. -/
def Update.apply (u : Update) (p : Plugin) : Plugin where
  name := p.name
  flows := if u.flows.isEmpty then p.flows else .ofList u.flows
  required := u.required.or p.required
  commitHash :=
    match u.commitHash with
    | none => p.commitHash
    | some hash => some (Text.trim hash) |>.filter (· != "")

/-! ### Reports -/

/-- What happened to a plugin, or to the directory alone. -/
structure Report where
  name : Option String := none
  category : Option Category := none
  plugin : Option Plugin := none
  outcome : Outcome
deriving DecidableEq

/-- A plugin as data. -/
def pluginData (p : Plugin) : Data := .record (Data.ofEntries p.encode)

/-- A report as data. -/
def Report.toData (r : Report) : Data :=
  .record [("name", .optionalText r.name),
    ("category", .optionalText (r.category.map Category.name)),
    ("entry", (r.plugin.map pluginData).getD .null), ("result", .text r.outcome.text)]

/-- Where a plugin went, with the names in the category where it is now. -/
structure MoveReport where
  name : String
  source : Category
  category : Category
  order : List String
  outcome : Outcome
deriving DecidableEq

/-- A report of a move as data. -/
def MoveReport.toData (r : MoveReport) : Data :=
  .record [("name", .text r.name), ("from", .text r.source.name),
    ("category", .text r.category.name),
    ("order", .texts r.order), ("result", .text r.outcome.text)]

/-- Categories with their plugins. -/
abbrev Listing := List (Category × List Plugin)

/-- A listing as data. -/
def listingData (l : Listing) : Data :=
  .list (l.map fun e =>
    .record [("category", .text e.1.name), ("plugins", .list (e.2.map pluginData))])

/-- One category, even an empty one, or all that hold plugins. -/
def listing (cat : Catalogue) : Option Category → Listing
  | some c => [(c, cat.plugins c)]
  | none => cat.filled

/-- What was found valid. -/
structure Validation where
  checked : Listing
  /-- Whether the programs were looked for. -/
  programs : Bool
deriving DecidableEq

/-- The number of plugins that were found valid. -/
def Validation.count (v : Validation) : Nat := (v.checked.flatMap Prod.snd).length

/-- What was found valid, as data. -/
def Validation.toData (v : Validation) : Data :=
  .record [("checked", listingData v.checked), ("binaries_checked", .switch v.programs)]

/-! ### Changes to a catalogue -/

/-- Adds a plugin whose name is new in its category. -/
def addIn (a : Addition) (cat : Catalogue) : Except ConfigError (Outcome × Catalogue) :=
  if (cat.find? a.category a.name).isSome then
    .error (.alreadyExists ("plugin '" ++ a.name ++ "' in category '" ++ a.category.name ++ "'"))
  else cat.upsert a.category a.plugin

/-- The plugin that an update makes of the one of a name, or of none. -/
def updated (u : Update) (c : Category) (name : String) (cat : Catalogue) :
    Except ConfigError Plugin :=
  match cat.find? c name with
  | some p => .ok (u.apply p)
  | none =>
    if u.flows.isEmpty then
      .error (.missingArgument
        ("flow (plugin '" ++ name ++ "' does not exist in category '" ++ c.name ++ "')"))
    else .ok (u.apply { name })

/-- Sets the directory, if that is asked for. -/
def setDirIn (u : Update) (cat : Catalogue) : Outcome × Catalogue :=
  if u.dir.isSome then cat.setDir u.dir else (.noop, cat)

/-- Makes the changes that are asked for. -/
def setIn (u : Update) (target : Option (Category × String)) (cat : Catalogue) :
    Except ConfigError (Report × Catalogue) := do
  let (dirOutcome, cat) := setDirIn u cat
  match target with
  | none => return ({ outcome := dirOutcome }, cat)
  | some (c, name) =>
    let p ← updated u c name cat
    let (outcome, cat) ← cat.upsert c p
    return ({ name := some name, category := some c, plugin := some p,
              outcome := dirOutcome.combine outcome }, cat)

/-- Moves a plugin and reports the order where it is now. -/
def moveIn (c : Category) (name : String) (request : Catalogue.Move) (cat : Catalogue) :
    Except ConfigError (MoveReport × Catalogue) := do
  let (outcome, cat) ← cat.move c name request
  let target := request.toCategory.getD c
  return ({ name, source := c, category := target,
            order := (cat.plugins target).map Plugin.name, outcome }, cat)

/-! ### Commands -/

variable {m : Type → Type} [Monad m] [FileAccess m]

/-- Adds a plugin whose name is new in its category. -/
def add (locs : Locations) (a : Addition) : Action m Report := do
  if a.flows.isEmpty then Action.refuse (.missingArgument "flow")
  let outcome ← Action.within s!"Failed to add plugin '{a.name}'"
    (Store.modify locs.contract fun k : Contract => k.editPlugins (addIn a))
  return { name := some a.name, category := some a.category, plugin := some a.plugin, outcome }

/-- Changes the directory of the programs, a plugin, or both. A plugin that is not there is added.
-/
def set (locs : Locations) (u : Update) : Action m Report := do
  let target ← Action.ofExcept u.target
  Action.within "Failed to set plugin configuration"
    (Store.modify locs.contract fun k : Contract => k.editPlugins (setIn u target))

/-- Moves a plugin. -/
def move (locs : Locations) (c : Category) (name : String) (request : Catalogue.Move) :
    Action m MoveReport :=
  Action.within s!"Failed to move plugin '{name}'"
    (Store.modify locs.contract fun k : Contract => k.editPlugins (moveIn c name request))

/-- Removes a plugin. -/
def remove (locs : Locations) (c : Category) (name : String) : Action m Report := do
  let outcome ← Action.within s!"Failed to remove plugin '{name}'"
    (Store.modify locs.contract fun k : Contract => k.editPlugins (·.delete c name))
  return { name := some name, category := some c, outcome }

/-- The whole section of plugins. -/
def catalogue (locs : Locations) : Action m Catalogue := do
  let k : Contract ← Store.load locs.contract
  return k.catalogue

/-- A plugin. -/
def get (locs : Locations) (c : Category) (name : String) : Action m Plugin := do
  match (← catalogue locs).find? c name with
  | some p => return p
  | none => Action.refuse (Catalogue.notFound c name)

/-- The plugins of one category or of all. -/
def list (locs : Locations) (c : Option Category) : Action m Listing := do
  return listing (← catalogue locs) c

/-- Succeeds if the plugins of one category or of all are valid and, if asked for, their programs
are there. -/
def validate (locs : Locations) (c : Option Category) (programs : Bool) : Action m Validation := do
  let checks := if programs then [Check.schema, Check.programs] else [Check.schema]
  let k ← Check.loadContract locs.contract (·.onlyPlugins c) checks
  return { checked := listing k.catalogue c, programs }

end FleetConfig.Plugins
