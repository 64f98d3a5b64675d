import FleetConfig.Net.Address
import FleetConfig.Url.Basic

/-!
# Origins

The daemon allows requests from other origins: from any (`*`), from a web address without a path, or
from a host name with an optional port.

## Main definitions

* `Net.Origin.Fault` — why a text is no origin.
* `Net.Origin.check` — succeeds on origins.
-/

namespace FleetConfig.Net.Origin

/-- Why a text is no origin. -/
inductive Fault where
  | badUrl (fault : Url.Fault)
  | noHost
  /-- A web address has more than a scheme and an authority. -/
  | hasPath
  | badAddress (fault : Address.Fault)
deriving DecidableEq, Repr

/-- The text of a fault. -/
def Fault.message : Fault → String
  | badUrl fault => fault.message
  | noHost => "missing host"
  | hasPath => "origin must not contain a path, query or fragment"
  | badAddress fault => fault.message

/-- Succeeds if a web address is an origin: it has a host and nothing after its authority. -/
def checkUrl (url : Url) : Except Fault Unit :=
  if url.host.isNone then .error .noHost
  else if (url.path.isEmpty || url.path = ['/']) && url.query.isNone && url.fragment.isNone then
    .ok ()
  else .error .hasPath

/-- Succeeds if a text is a host name with an optional port. -/
def checkHostPort (cs : List Char) : Except Fault Unit :=
  Except.mapError .badAddress <|
    match Text.cutLast ':' cs with
    | none => Address.checkHostname cs
    | some (host, port) => do
      Address.checkPort port
      Address.checkHostname host

/-- Succeeds if a text is an origin. -/
def check (s : String) : Except Fault Unit := do
  if s = "*" then return ()
  if Text.occursIn "://".toList s.toList then
    checkUrl (← (Url.parse s).mapError .badUrl)
  else checkHostPort s.toList

end FleetConfig.Net.Origin
