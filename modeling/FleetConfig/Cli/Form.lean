/-!
# Forms of commands

A command is called by words. It has options, which are named, and operands, which are not. Operands
of one command stand only after a double dash.

## Main definitions

* `Cli.OptionForm`, `Cli.Form` — the form of an option and of a command.
* `Cli.sharedOptions`, `Cli.forms` — the options of all commands, and all commands.
-/

namespace FleetConfig.Cli

/-! ### Options -/

/-- What an option takes. -/
inductive Arity where
  /-- Nothing; the option is a switch. -/
  | switch
  /-- One value. -/
  | value
  /-- One value each time, as often as one likes. -/
  | values
deriving DecidableEq, Repr

/-- The form of an option. -/
structure OptionForm where
  /-- Its name after two dashes. -/
  name : String
  /-- What it takes. -/
  arity : Arity := .value
  /-- Its letter after one dash. -/
  letter : Option Char := none
  /-- Whether a number below zero can be its value. -/
  negative : Bool := false
deriving DecidableEq, Repr

/-- The options of all commands. -/
def sharedOptions : List OptionForm := [{ name := "config-file" }, { name := "runtime-file" }]

/-- The option for the format of the output. -/
def formatOption : OptionForm := { name := "format", letter := some 'f' }

/-- The option for a category. -/
def categoryOption : OptionForm := { name := "category" }

/-- The option for a name. -/
def nameOption : OptionForm := { name := "name" }

/-- The option for the consent to a loss. -/
def forceOption : OptionForm := { name := "force", arity := .switch }

/-! ### Commands -/

/-- The form of a command. -/
structure Form where
  /-- The words that call it. -/
  words : List String
  /-- Its options besides the shared ones. -/
  options : List OptionForm := [formatOption]
  /-- How many operands it needs. -/
  least : Nat := 0
  /-- How many operands it takes; nothing, if there is no limit. -/
  most : Option Nat := some 0
  /-- Whether it needs further operands after a double dash. -/
  tail : Bool := false
deriving Repr

/-- A command that takes one operand. -/
def onServer (words : List String) (options : List OptionForm := [formatOption]) : Form :=
  { words, options, least := 1, most := some 1 }

/-- All commands. -/
def forms : List Form :=
  [{ onServer ["config", "args", "set"] [{ name := "bool-flag", arity := .values }, formatOption]
      with tail := true },
    { onServer ["config", "args", "remove"] with tail := true },
    onServer ["config", "args", "list"],
    onServer ["config", "args", "clear"] [forceOption, formatOption],
    { words := ["config", "env", "set"], least := 2, most := none },
    { words := ["config", "env", "remove"], least := 2, most := none },
    onServer ["config", "env", "list"],
    onServer ["config", "env", "clear"] [forceOption, formatOption],
    { words := ["config", "tools", "set"], least := 2, most := none },
    { words := ["config", "tools", "remove"], least := 2, most := none },
    onServer ["config", "tools", "list"],
    { words := ["config", "daemon", "set"], least := 1, most := none },
    { words := ["config", "daemon", "get"], most := some 1 },
    { words := ["config", "daemon", "list"],
      options := [{ name := "available", arity := .switch }, formatOption] },
    { words := ["config", "daemon", "remove"], least := 1, most := none },
    { words := ["config", "daemon", "validate"], options := [] },
    onServer ["config", "plugins", "add"]
      [categoryOption, { name := "flow", arity := .values },
        { name := "required", arity := .switch }, { name := "commit-hash" }, formatOption],
    { words := ["config", "plugins", "set"],
      options := [{ name := "dir" }, categoryOption, nameOption,
        { name := "flow", arity := .values }, { name := "required" }, { name := "commit-hash" },
        formatOption] },
    { words := ["config", "plugins", "get"],
      options := [categoryOption, nameOption, formatOption] },
    { words := ["config", "plugins", "list"], options := [categoryOption, formatOption] },
    { words := ["config", "plugins", "move"],
      options := [categoryOption, nameOption, { name := "to-category" }, { name := "before" },
        { name := "after" }, { name := "position", negative := true }, forceOption, formatOption] },
    { words := ["config", "plugins", "remove"],
      options := [categoryOption, nameOption, formatOption] },
    { words := ["config", "plugins", "validate"],
      options := [categoryOption, { name := "check-binaries", arity := .switch },
        { name := "verbose", arity := .switch, letter := some 'v' }] },
    { words := ["config", "export"],
      options := [{ name := "context-output" }, { name := "contract-output" },
        { name := "format" }] },
    onServer ["remove"]]

/-- The command that words call. -/
def form? (words : List String) : Option Form := forms.find? fun f => f.words == words

end FleetConfig.Cli
