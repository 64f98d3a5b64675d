import FleetConfig.ConfigError
import FleetConfig.Files.Access

/-!
# Failures of commands

A command fails for one cause. On the way out the failure collects what was being done, the
outermost context first.

## Main definitions

* `Failure`, `Failure.Cause` — why a command failed, and while doing what.
* `Failure.chain`, `Failure.message` — the texts of a failure.
* `Action` — a computation that can fail.
-/

namespace FleetConfig

/-- Why a command failed. -/
inductive Failure.Cause where
  /-- The operation was refused. -/
  | refused (error : ConfigError)
  /-- A document could not be read as such. -/
  | unreadable (report : String)
  /-- An operation on files failed. -/
  | files (fault : FileFault)
  /-- A path names no file. -/
  | badPath (path : Path)
  /-- There is no home directory. -/
  | noHome

/-- The failure of a command. -/
structure Failure where
  /-- What was being done, the outermost first. -/
  contexts : List String := []
  /-- Why it failed. -/
  cause : Failure.Cause

namespace Failure

/-- The text of a cause. -/
def Cause.message : Cause → String
  | refused e => e.message
  | unreadable report => report
  | files fault => fault.message
  | badPath path => "Invalid file path: " ++ path.text
  | noHome => "Could not determine home directory"

/-- The texts of a failure, the outermost context first. -/
def chain (f : Failure) : List String := f.contexts ++ [f.cause.message]

/-- The text of a failure on one line. -/
def message (f : Failure) : String := Text.join ": " f.chain

/-- The failure of an operation that was refused. -/
def ofError (e : ConfigError) : Failure := { cause := .refused e }

/-- A failure in one more context. -/
def within (context : String) (f : Failure) : Failure :=
  { f with contexts := context :: f.contexts }

end Failure

/-- A computation that can fail. -/
abbrev Action (m : Type → Type) (α : Type) : Type := ExceptT Failure m α

namespace Action

variable {m : Type → Type} [Monad m] {α ε : Type}

/-- Refuses to go on. -/
def refuse (e : ConfigError) : Action m α := throw (.ofError e)

/-- Goes on with the value of an operation that was not refused. -/
def ofExcept : Except ConfigError α → Action m α
  | .ok a => pure a
  | .error e => refuse e

/-- Goes on with the result of a computation; a fault is a cause of failure. -/
def lift (toCause : ε → Failure.Cause) (x : m (Except ε α)) : Action m α :=
  ExceptT.mk do
    match ← x with
    | .ok a => return .ok a
    | .error fault => return .error { cause := toCause fault }

/-- A computation whose failures tell what was being done. -/
def within (context : String) (x : Action m α) : Action m α :=
  ExceptT.mk do
    match ← x.run with
    | .ok a => return .ok a
    | .error f => return .error (f.within context)

end Action

end FleetConfig
