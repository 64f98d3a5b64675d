import FleetConfig.Cli.Request
import FleetConfig.Command.Servers
import FleetConfig.Command.Settings
import FleetConfig.Command.Variables
import FleetConfig.Data.Yaml

/-!
# Layout of results

A result can be printed for people, line by line, or as structured data. A failure is printed with
its causes.

## Main definitions

* `Cli.Output`, `Cli.Output.print` — a result in both forms, and its text.
* `Cli.describe` — the text of a failure.
-/

namespace FleetConfig.Cli

/-- A result in both forms. -/
structure Output where
  /-- For other programs. -/
  data : Data
  /-- For people. -/
  lines : List String

/-- The text of a result in a format. -/
def Output.print (o : Output) : OutputFormat → String
  | .text => String.join (o.lines.map (· ++ "\n"))
  | .json => Data.Json.print o.data ++ "\n"
  | .yaml => Data.Yaml.print o.data

/-! ### Parts -/

/-- The outcome in brackets. -/
def outcomeNote (o : Outcome) : String := "(operation: " ++ o.text ++ ")"

/-- Lines further in. -/
def indented (lines : List String) : List String := lines.map ("  " ++ ·)

/-- Lines further in, or a line that there is nothing. -/
def indentedOr (nothing : String) (lines : List String) : List String :=
  if lines.isEmpty then ["  (" ++ nothing ++ ")"] else indented lines

/-- Names with numbers from 1. -/
def numbered (names : List String) : List String :=
  names.mapIdx fun i name => s!"  {i + 1}. {name}"

/-- A text with spaces after it up to a width. -/
def padded (width : Nat) (s : String) : String :=
  s ++ String.ofList (List.replicate (width - s.length) ' ')

/-- The lines of arguments. -/
def argumentLines (args : List String) : List String := indentedOr "no arguments" args

/-- The lines of variables. -/
def variableLines (env : FleetConfig.NameMap String) : List String :=
  indentedOr "no environment variables" (env.entries.map fun e => e.1 ++ "=" ++ e.2)

/-- The lines of tools. -/
def toolLines (tools : NameSet) : List String := indentedOr "no tools" tools.toList

/-! ### Reports -/

/-- A change of arguments. -/
def ofArguments (verb : String) (r : Arguments.Report) : Output where
  data := r.toData
  lines := s!"{verb} arguments for server '{r.server}' {outcomeNote r.outcome}" ::
    argumentLines r.args

/-- A change of variables. -/
def ofVariables (verb : String) (r : Variables.Report) : Output where
  data := r.toData
  lines := s!"{verb} environment for server '{r.server}' {outcomeNote r.outcome}" ::
    variableLines r.env

/-- A change of tools. -/
def ofTools (r : Tools.Report) : Output where
  data := r.toData
  lines := s!"Updated tools for server '{r.server}' {outcomeNote r.outcome}" :: toolLines r.tools

/-- The removal of a server. -/
def ofServer (r : Servers.Report) : Output where
  data := r.toData
  lines := [s!"Removed server '{r.server}' {outcomeNote r.outcome}"]

/-- A change of settings. -/
def ofSettings (verb : String) (r : Settings.Report) : Output where
  data := r.toData
  lines := r.changes.map fun c => s!"{verb} {c.1} {outcomeNote c.2}"

/-- The setting at a path. -/
def ofSetting (path : String) (value : Option Setting) : Output where
  data := (value.map Setting.toData).getD .null
  lines :=
    match value with
    | some s => [s.text]
    | none => if path = "" then ["No daemon configuration set."] else [path ++ " is not set"]

/-- All settings. -/
def ofAllSettings (settings : List (String × Setting.Leaf)) : Output where
  data := .list (settings.map fun e => .record [("key", .text e.1), ("value", e.2.toData)])
  lines :=
    if settings.isEmpty then ["No daemon configuration set."]
    else settings.map fun e => e.1 ++ " = " ++ e.2.display

/-- A line of the table of keys. -/
def keyLine (path kind description : String) : String :=
  padded 28 path ++ " " ++ padded 10 kind ++ " " ++ description

/-- All keys that settings can have. -/
def allKeys : Output where
  data := .list (Daemon.Key.all.map fun k =>
    .record [("path", .text k.path), ("kind", .text k.kind.longName),
      ("description", .text k.description)])
  lines := keyLine "Key" "Type" "Description" :: String.ofList (List.replicate 70 '-') ::
    Daemon.Key.all.map fun k => keyLine k.path k.kind.name k.description

/-! ### Plugins -/

/-- A change of plugins. -/
def ofPlugins (verb : String) (r : Plugins.Report) : Output where
  data := r.toData
  lines :=
    match r.name, r.category with
    | some name, some c =>
      [verb ++ " plugin '" ++ name ++ "' in category '" ++ c.name ++ "' " ++ outcomeNote r.outcome]
    | _, _ => [verb ++ " plugin configuration " ++ outcomeNote r.outcome]

/-- The lines of a plugin. -/
def pluginLines (p : Plugin) : List String :=
  ["  " ++ p.name, "    flows: " ++ Text.join ", " (p.flows.toList.map Plugin.Flow.name)] ++
    (p.required.toList.map fun b => "    required: " ++ Setting.Leaf.switchText b) ++
    p.commitHash.toList.map fun hash => "    commit hash: " ++ hash

/-- A plugin. -/
def ofPlugin (c : Plugin.Category) (p : Plugin) : Output where
  data := Plugins.pluginData p
  lines := (c.name ++ ":") :: pluginLines p

/-- The whole section of plugins. -/
def ofCatalogue (cat : Catalogue) : Output where
  data := .ofTree cat.encode
  lines := ("Plugin directory: " ++ cat.dir.getD "(not set)") ::
    if cat.filled.isEmpty then ["No plugins configured."]
    else
      (cat.filled.flatMap fun e => (e.1.name ++ ":") :: e.2.flatMap pluginLines) ++
        ["Total distinct plugins: " ++ toString cat.distinctCount]

/-- Categories with their plugins. -/
def ofListing (l : Plugins.Listing) : Output where
  data := Plugins.listingData l
  lines :=
    if l.all fun e => e.2.isEmpty then ["No plugins configured."]
    else
      l.flatMap fun e =>
        (e.1.name ++ " (" ++ toString e.2.length ++ "):") :: numbered (e.2.map Plugin.name)

/-- What a move did. -/
def moveLine (r : Plugins.MoveReport) : String :=
  let target := r.category.name
  let way := if r.source = r.category then "in category" else "from '" ++ r.source.name ++ "' to"
  "Moved plugin '" ++ r.name ++ "' " ++ way ++ " '" ++ target ++ "' " ++ outcomeNote r.outcome

/-- The move of a plugin. -/
def ofMove (r : Plugins.MoveReport) : Output where
  data := r.toData
  lines := moveLine r :: ("Order in '" ++ r.category.name ++ "':") :: numbered r.order

/-- What was found valid. -/
def ofValidation (verbose : Bool) (v : Plugins.Validation) : Output where
  data := v.toData
  lines :=
    (if verbose then
      v.checked.flatMap fun e => e.2.map fun p => "  ok  " ++ e.1.name ++ "/" ++ p.name
    else []) ++
      ["Plugin configuration is valid: " ++ toString v.count ++ " plugin(s)" ++
        if v.programs then " (binaries checked)" else ""]

/-! ### Exports -/

/-- What was exported. -/
def ofExport (r : Exporting.Report) : Output where
  data := r.toData
  lines :=
    [s!"Exported {r.servers} server(s) with {r.placeholders} placeholder(s)",
      "  portable context: " ++ r.contextOutput.text,
      "  environment contract: " ++ r.contractOutput.text]

/-! ### Failures -/

/-- The head of the first line of a cause: spaces, or its number if there are several. -/
def causeHead (number : Option Nat) : String :=
  match number with
  | none => "    "
  | some n =>
    let digits := toString n
    String.ofList (List.replicate (5 - digits.length) ' ') ++ digits ++ ": "

/-- A cause with its head; further lines stand under the first. -/
def causeText (number : Option Nat) (cause : String) : String :=
  causeHead number ++
    Text.join ("\n" ++ if number.isSome then "       " else "    ") (Text.split '\n' cause)

/-- The causes of a failure, numbered if there are several. -/
def causeTexts (causes : List String) : List String :=
  if causes.length ≤ 1 then causes.map (causeText none)
  else causes.mapIdx fun i cause => causeText (some i) cause

/-- The text of a failure: what was being done, and the causes. -/
def describe (f : Failure) : String :=
  match f.chain with
  | [] => ""
  | first :: causes =>
    "Error: " ++ first ++
      (if causes.isEmpty then "" else "\n\nCaused by:\n" ++ Text.join "\n" (causeTexts causes)) ++
      "\n"

end FleetConfig.Cli
