import FleetConfig.Net.Host
import FleetConfig.Url.Domain

/-!
# Hosts of web addresses

On the web a host is a version 6 address in brackets, a version 4 address or a domain. Other schemes
take almost any text as a host.

A domain whose last part is a number is a version 4 address. Its parts may be decimal, octal after a
zero or hexadecimal after `0x`; there may be fewer than four, and then the last one fills the bytes
that are left.

## Main definitions

* `Url.Ipv4.endsInNumber` — decides whether a host is to be read as a version 4 address.
* `Url.Ipv4.isAddress` — decides whether its parts make an address.
* `Url.Fault`, `Url.Fault.message` — why a text is no web address.
* `Url.Host.parse`, `Url.Host.parseOpaque` — the host that a text denotes.
-/

namespace FleetConfig.Url

/-! ### Version 4 addresses -/

namespace Ipv4

/-- The number of a part. A mark of the base without digits is zero. -/
def number? : List Char → Option Nat
  | [] => none
  | '0' :: 'x' :: ds => if ds.all Number.isHexDigit then some (Number.ofDigits 16 ds) else none
  | '0' :: 'X' :: ds => if ds.all Number.isHexDigit then some (Number.ofDigits 16 ds) else none
  | '0' :: d :: ds => Number.natural? 8 (d :: ds)
  | ds => if ds.all Char.isDigit then some (Number.ofDigits 10 ds) else none

/-- The parts of a host between dots; an empty one at the end does not count. -/
def parts (host : List Char) : List (List Char) :=
  let ps := Text.pieces '.' host
  if 2 ≤ ps.length && ps.getLast? == some [] then ps.dropLast else ps

/-- Decides whether the last part of a host is a number. -/
def endsInNumber (host : List Char) : Bool :=
  match (parts host).getLast? with
  | some last => (!last.isEmpty && last.all Char.isDigit) || (number? last).isSome
  | none => false

/-- Decides whether the parts of a host make an address: at most four numbers, of which all but the
last fit a byte, and the last one the bytes that are left. -/
def isAddress (host : List Char) : Bool :=
  match (parts host).mapM number? with
  | none => false
  | some numbers =>
    numbers.length ≤ 4 && numbers.dropLast.all (· ≤ 255) &&
      numbers.getLast?.any (· < Nat.pow 256 (5 - numbers.length))

end Ipv4

/-! ### Hosts -/

/-- Why a text is no web address. -/
inductive Fault where
  /-- There is no scheme in front. -/
  | noScheme
  | emptyHost
  | badPort
  | badIpv4
  | badIpv6
  /-- A host outside the web holds a character that no host can hold. -/
  | badHostChar
  /-- A domain has no form in ASCII. -/
  | badDomain
deriving DecidableEq, Repr

/-- The text of a fault. -/
def Fault.message : Fault → String
  | noScheme => "relative URL without a base"
  | emptyHost => "empty host"
  | badPort => "invalid port number"
  | badIpv4 => "invalid IPv4 address"
  | badIpv6 => "invalid IPv6 address"
  | badHostChar => "invalid domain character"
  | badDomain => "invalid international domain name"

namespace Host

/-- The version 6 address in the brackets whose opening one has been read. -/
def parseBracketed (inner : List Char) : Except Fault (List Char) :=
  if inner.getLast? = some ']' && Net.isIpv6 inner.dropLast then .ok ('[' :: inner)
  else .error .badIpv6

/-- The domain or version 4 address that a text denotes. -/
def parseDomain (text : List Char) : Except Fault (List Char) :=
  match Domain.folded? text with
  | none => .error .badDomain
  | some domain =>
    if domain.isEmpty then .error .emptyHost
    else if Ipv4.endsInNumber domain && !Ipv4.isAddress domain then .error .badIpv4
    else .ok domain

/-- The host of an address on the web. -/
def parse : List Char → Except Fault (List Char)
  | [] => .error .emptyHost
  | '[' :: inner => parseBracketed inner
  | text => parseDomain text

/-- Holds of the characters that stand in no host. -/
def isForbidden (c : Char) : Bool :=
  ['\x00', '\t', '\n', '\r', ' ', '#', '/', ':', '<', '>', '?', '@', '[', '\\', ']', '^',
    '|'].contains c

/-- The host of an address outside the web, as it is written; it may be empty. -/
def parseOpaque : List Char → Except Fault (List Char)
  | '[' :: inner => parseBracketed inner
  | text => if text.any isForbidden then .error .badHostChar else .ok text

end Host

end FleetConfig.Url
