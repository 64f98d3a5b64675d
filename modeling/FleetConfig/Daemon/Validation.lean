import FleetConfig.Daemon.Key
import FleetConfig.Net.Origin

/-!
# Validation of the daemon section

Settings that are read from a file are checked as a whole. Every violation is reported, in a fixed
order: the listen address, the methods and the origins of other origins' requests, and durations of
no length in the order of their keys.

## Main definitions

* `Daemon.Violation`, `Daemon.Violation.toError` — what is wrong with one setting.
* `Daemon.violations`, `Daemon.validate` — all that is wrong.
-/

namespace FleetConfig.Daemon

/-! ### Violations -/

/-- What is wrong with one setting. -/
inductive Violation where
  | badAddress (addr : String) (fault : Net.Address.Fault)
  | badMethod (method : String)
  | badOrigin (origin : String) (fault : Net.Origin.Fault)
  | zeroDuration (key : Key)
deriving DecidableEq

/-- The methods that requests from other origins can be allowed to use. -/
def allowedMethods : List String :=
  ["GET", "HEAD", "POST", "PUT", "PATCH", "DELETE", "OPTIONS", "CONNECT", "TRACE"]

/-- The error that reports a violation. -/
def Violation.toError : Violation → ConfigError
  | badAddress addr fault =>
    .invalidValue Key.apiAddr.path ("invalid API address '" ++ addr ++ "': " ++ fault.message)
  | badMethod method =>
    .invalidValue Key.corsMethods.path
      ("invalid HTTP method '" ++ method ++ "' (allowed: " ++ Text.join ", " allowedMethods ++ ")")
  | badOrigin origin fault =>
    .invalidValue Key.corsAllowOrigins.path
      ("invalid origin '" ++ origin ++ "': " ++ fault.message)
  | zeroDuration key => .invalidValue key.path "duration must be greater than zero"

/-! ### Checks -/

/-- The violation of a listen address. -/
def addressViolations (addr : String) : List Violation :=
  match Net.Address.check addr with
  | .ok () => []
  | .error fault => [.badAddress addr fault]

/-- The methods that are not allowed, whatever the case of their letters. -/
def methodViolations (methods : List String) : List Violation :=
  (methods.filter fun m => !allowedMethods.contains m.toUpper).map .badMethod

/-- The violation of an origin. -/
def originViolations (origin : String) : List Violation :=
  match Net.Origin.check origin with
  | .ok () => []
  | .error fault => [.badOrigin origin fault]

/-- The violations in what other origins are allowed. -/
def Cors.violations (c : Cors) : List Violation :=
  methodViolations c.methods ++ c.allowOrigins.flatMap originViolations

/-- The violations in the interface's section. -/
def Api.violations (a : Api) : List Violation :=
  a.addr.toList.flatMap addressViolations ++ a.cors.toList.flatMap Cors.violations

/-- The keys whose duration has no length. -/
def zeroDurations (d : Daemon) : List Key :=
  Key.all.filter fun k =>
    match k.read d with
    | some (.duration t) => t.isZero
    | _ => false

/-- All violations, in the order of their report. -/
def violations (d : Daemon) : List Violation :=
  d.api.toList.flatMap Api.violations ++ d.zeroDurations.map .zeroDuration

/-- Succeeds if there is no violation. -/
def validate (d : Daemon) : Except ConfigError Unit :=
  ConfigError.collect (d.violations.map Violation.toError)

end FleetConfig.Daemon
