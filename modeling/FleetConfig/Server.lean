import FleetConfig.ConfigError
import FleetConfig.Sorted.Set
import FleetConfig.Text.Blank

/-!
# Servers

A contract declares servers. A server has a name and a package, and says which tools it offers and
which variables and flags it needs at run time.

## Main definitions

* `Server` — a server as it is declared.
* `Server.checkName` — succeeds on names of servers.
* `Server.violations`, `Server.validate` — what is wrong with one.
-/

namespace FleetConfig

/-- A server as it is declared. -/
structure Server where
  name : String
  /-- Where its program comes from. -/
  package : String
  /-- The tools that it offers. -/
  tools : NameSet := .empty
  /-- The variables that it needs. -/
  requiredEnv : NameSet := .empty
  /-- The flags that it needs, without values. -/
  requiredArgs : NameSet := .empty
  /-- Its arguments. -/
  args : List String := []
  /-- Its variables. -/
  env : NameMap String := .empty
deriving DecidableEq, Inhabited

namespace Server

/-! ### Names -/

/-- What is wrong with a name. -/
inductive NameFault where
  | empty
  | badChar (name : String)
deriving DecidableEq, Repr

/-- The error that reports a fault of a name. -/
def NameFault.toError : NameFault → ConfigError
  | empty => .emptyInput "server name"
  | badChar name =>
    .invalidValue "server name" s!"invalid server name '{name}' (allowed: [A-Za-z0-9._-]+)"

/-- Holds of the characters of names. -/
def isNameChar (c : Char) : Bool := c.isAlphanum || c == '.' || c == '_' || c == '-'

/-- What is wrong with a name, if anything. -/
def nameFault? (name : String) : Option NameFault :=
  if name = "" then some .empty
  else if name.toList.all isNameChar then none
  else some (.badChar name)

/-- Succeeds on names of servers. -/
def checkName (name : String) : Except ConfigError Unit :=
  match nameFault? name with
  | none => .ok ()
  | some fault => .error fault.toError

/-! ### Validation -/

/-- What is wrong with a server. -/
inductive Violation where
  | badName (fault : NameFault)
  | blankPackage (server : String)
  | badFlag (server flag : String)
deriving DecidableEq, Repr

/-- The error that reports a violation. -/
def Violation.toError : Violation → ConfigError
  | badName fault => fault.toError
  | blankPackage server => .invalidValue s!"server '{server}'" "package must not be empty"
  | badFlag server flag =>
    .invalidValue s!"server '{server}'" s!"required arg '{flag}' must be a bare --flag"

/-- Holds of a token that starts with two dashes and has no value. -/
def isBareFlag (flag : String) : Bool :=
  match flag.toList with
  | '-' :: '-' :: cs => !cs.contains '='
  | _ => false

/-- All violations of a server, in the order of their report. -/
def violations (s : Server) : List Violation :=
  (nameFault? s.name).toList.map .badName ++
    (if Text.isBlankText s.package then [.blankPackage s.name] else []) ++
    (s.requiredArgs.toList.filter (!isBareFlag ·)).map (.badFlag s.name)

/-- Succeeds if there is no violation. -/
def validate (s : Server) : Except ConfigError Unit :=
  ConfigError.collect (s.violations.map Violation.toError)

end Server

end FleetConfig
