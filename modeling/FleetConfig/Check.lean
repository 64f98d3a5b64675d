import FleetConfig.Store

/-!
# Checks of a contract

A contract that is loaded can be checked as a whole, in its daemon section, or against the programs
of its plugins. All checks that are asked for are run, and what they find is reported together.

## Main definitions

* `Check` — what can be checked.
* `Check.programs` — the programs of the plugins are there.
* `Check.loadContract` — a contract that passes checks.
-/

namespace FleetConfig

/-- What can be checked of a contract. -/
inductive Check where
  /-- The contract says nothing that is wrong in itself. -/
  | schema
  /-- The daemon section says nothing wrong. -/
  | daemon
  /-- The programs of the plugins are there. -/
  | programs
deriving DecidableEq, Repr

namespace Check

variable {m : Type → Type} [Monad m] [FileAccess m]

/-! ### Programs -/

/-- The plugins of a catalogue with their categories, in the order in which they run. -/
def allPlugins (cat : Catalogue) : List (Plugin.Category × Plugin) :=
  cat.filled.flatMap fun e => e.2.map fun p => (e.1, p)

/-- The plugins among some whose programs are missing in a directory. -/
def withoutProgram (dir : Path) :
    List (Plugin.Category × Plugin) → m (List (Plugin.Category × Plugin))
  | [] => return []
  | e :: es => do
    let found ← FileAccess.isFile (dir.join e.2.name)
    let others ← withoutProgram dir es
    return if found then others else e :: others

/-- The error that a plugin's program is missing. -/
def programMissing (dir : String) (e : Plugin.Category × Plugin) : ConfigError :=
  .notFound ("binary for plugin '" ++ e.2.name ++ "' (" ++ e.1.name ++ ") in " ++ dir)

/-- Succeeds if the directory of a catalogue holds a program for each of its plugins. -/
def checkPrograms (cat : Catalogue) : m (Except ConfigError Unit) := do
  if cat.distinctCount = 0 then return .ok ()
  match cat.dir.filter (!Text.isBlankText ·) with
  | none => return .error (.missingArgument "plugins.dir (required to locate plugin binaries)")
  | some dir =>
    if ← FileAccess.isDir ⟨dir⟩ then
      let missing ← withoutProgram ⟨dir⟩ (allPlugins cat)
      return ConfigError.collect (missing.map (programMissing dir))
    else
      return .error (.invalidValue "plugins.dir" s!"'{dir}' is not an existing directory")

/-- Succeeds if the programs of a contract's plugins are there. -/
def programsOf (k : Contract) : m (Except ConfigError Unit) :=
  match k.plugins with
  | none => return .ok ()
  | some cat => checkPrograms cat

/-! ### Checks -/

/-- Runs a check. -/
def run (k : Contract) : Check → m (Except ConfigError Unit)
  | schema => return k.validate
  | daemon => return (k.daemon.map Daemon.validate).getD (.ok ())
  | programs => programsOf k

/-- All that some checks find. -/
def findings (k : Contract) : List Check → m (List ConfigError)
  | [] => return []
  | c :: cs => do
    let first ← c.run k
    let others ← findings k cs
    return ConfigError.leavesOfResult first ++ others

/-- Each check once, in the order of the first mention. -/
def distinct (checks : List Check) : List Check := checks.eraseDups

/-- Loads a contract, narrows it and checks what is left. -/
def loadContract (p : Path) (narrow : Contract → Contract) (checks : List Check) :
    Action m Contract := do
  let k := narrow (← Store.load p)
  let errors ← liftM (findings k (distinct checks) : m _)
  Action.ofExcept (ConfigError.collect errors)
  return k

end Check

end FleetConfig
