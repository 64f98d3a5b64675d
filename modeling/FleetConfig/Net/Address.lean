import FleetConfig.Net.Host
import FleetConfig.Net.Port

/-!
# Listen addresses

The daemon listens on an address `host:port`. The host may be empty, which means all interfaces, an
internet address or a host name; brackets around a version 6 address keep its colons apart.

## Main definitions

* `Net.Address.Fault` — why a text is no listen address.
* `Net.Address.check` — succeeds on listen addresses.
-/

namespace FleetConfig.Net.Address

/-- Why a text is no listen address. -/
inductive Fault where
  | noPort
  | badPort (fault : Port.Fault)
  /-- An opening bracket is not closed before the port. -/
  | openBracket
  | badIpv6 (text : String)
  | badHost (text : String)
deriving DecidableEq, Repr

/-- The text of a fault. -/
def Fault.message : Fault → String
  | noPort => "expected host:port"
  | badPort fault => fault.message
  | openBracket => "unterminated IPv6 literal"
  | badIpv6 text => s!"invalid IPv6 address '{text}'"
  | badHost text => s!"invalid host '{text}'"

/-- Succeeds if a text is a host name. -/
def checkHostname (host : List Char) : Except Fault Unit :=
  if isHostname host then .ok () else .error (.badHost (String.ofList host))

/-- Succeeds if what follows an opening bracket is a version 6 address and a closing bracket. -/
def checkBracketed (inner : List Char) : Except Fault Unit :=
  if inner.getLast? = some ']' then
    if isIpv6 inner.dropLast then .ok () else .error (.badIpv6 (String.ofList inner.dropLast))
  else .error .openBracket

/-- Succeeds if a text is the host of a listen address. -/
def checkHost : List Char → Except Fault Unit
  | [] => .ok ()
  | '[' :: inner => checkBracketed inner
  | host => if isIpv4 host || isIpv6 host then .ok () else checkHostname host

/-- Succeeds if a text is a port. -/
def checkPort (port : List Char) : Except Fault Unit :=
  (Port.check (String.ofList port)).mapError .badPort

/-- Succeeds if a text is a listen address. -/
def check (s : String) : Except Fault Unit :=
  match Text.cutLast ':' s.toList with
  | none => .error .noPort
  | some (host, port) => do
    checkPort port
    checkHost host

end FleetConfig.Net.Address
