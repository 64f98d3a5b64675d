import FleetConfig.Text.Split

/-!
# Configuration errors

Each error is the cause of a refusal with what its text needs. Checks that look at a whole document
gather their errors into one composite.

## Main definitions

* `ConfigError`, `ConfigError.message` — the causes and their texts.
* `ConfigError.leaves` — the errors in a nest of composites.
* `ConfigError.collect` — success if nothing was gathered.
-/

namespace FleetConfig

/-- Why an operation was refused. -/
inductive ConfigError where
  /-- What an operation addresses is not there. -/
  | notFound (what : String)
  /-- Something of the same name is there already. -/
  | alreadyExists (what : String)
  /-- The operation would destroy something and was not forced. -/
  | conflict (why : String)
  /-- A dotted path names no setting. -/
  | unknownKey (path : String)
  /-- A value was refused. -/
  | invalidValue (key reason : String)
  /-- An argument is missing. -/
  | missingArgument (what : String)
  /-- Something that has to hold something is empty. -/
  | emptyInput (what : String)
  /-- A file could not be read or written. -/
  | io (path cause : String)
  /-- Errors of one check. -/
  | composite (errors : List ConfigError)
  /-- A contract without servers has nothing to export. -/
  | emptyContract
  /-- A known request that is not supported. -/
  | unimplemented (what : String)
deriving Inhabited

namespace ConfigError

/-! ### Texts -/

mutual

/-- The text of an error. -/
def message : ConfigError → String
  | notFound what => what ++ " not found"
  | alreadyExists what => what ++ " already exists"
  | conflict why => why
  | unknownKey path => s!"unknown configuration key: '{path}'"
  | invalidValue key reason => key ++ ": " ++ reason
  | missingArgument what => "missing required argument: " ++ what
  | emptyInput what => what ++ " must not be empty"
  | io path cause => s!"I/O error at {path}: {cause}"
  | composite errors => toString errors.length ++ " validation error(s):" ++ bullets errors
  | emptyContract => "no servers declared in the project configuration, nothing to export"
  | unimplemented what => what ++ " is not implemented"

/-- One line for each error, after a dash. -/
def bullets : List ConfigError → String
  | [] => ""
  | e :: es => "\n  - " ++ message e ++ bullets es

end

/-- The name of an error's cause. -/
def kind : ConfigError → String
  | notFound _ => "NotFound"
  | alreadyExists _ => "AlreadyExists"
  | conflict _ => "Conflict"
  | unknownKey _ => "UnknownKey"
  | invalidValue _ _ => "InvalidValue"
  | missingArgument _ => "MissingArgument"
  | emptyInput _ => "EmptyInput"
  | io _ _ => "Io"
  | composite _ => "Composite"
  | emptyContract => "EmptyContract"
  | unimplemented _ => "Unimplemented"

/-! ### Composites -/

mutual

/-- The errors in a nest of composites, in order. -/
def leaves : ConfigError → List ConfigError
  | composite errors => leavesOfList errors
  | e => [e]

/-- The leaves of several errors, in order. -/
def leavesOfList : List ConfigError → List ConfigError
  | [] => []
  | e :: es => leaves e ++ leavesOfList es

end

/-- Success if no error was gathered, else all of them together. -/
def collect (errors : List ConfigError) : Except ConfigError Unit :=
  if errors.isEmpty then .ok () else .error (composite errors)

/-- The leaves of a failed check; none of one that passed. -/
def leavesOfResult {α : Type} : Except ConfigError α → List ConfigError
  | .ok _ => []
  | .error e => e.leaves

/-- Holds of every error but a composite. -/
def isLeaf : ConfigError → Bool
  | composite _ => false
  | _ => true

end ConfigError

end FleetConfig
