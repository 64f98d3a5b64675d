import FleetConfig.Number.Digits
import FleetConfig.Text.Split

/-!
# Hosts in text

A host is named by a host name or by an internet address. A host name is a row of labels between
dots. A label holds ASCII letters, digits and dashes, and neither starts nor ends with a dash.

## Main definitions

* `Net.isLabel`, `Net.isHostname` — labels and host names.
* `Net.isIpv4` — four decimal bytes, without leading zeros, between dots.
* `Net.isIpv6` — eight groups of up to four hexadecimal digits between colons. One run of zero
  groups may be left out, and a version 4 address may stand for the last two groups.
-/

namespace FleetConfig.Net

/-! ### Host names -/

/-- Holds of the characters of labels. -/
def isLabelChar (c : Char) : Bool := c.isAlphanum || c == '-'

/-- Decides whether characters form a label. -/
def isLabel (cs : List Char) : Bool :=
  !cs.isEmpty && cs.head? != some '-' && cs.getLast? != some '-' && cs.all isLabelChar

/-- Decides whether a text is a host name. -/
def isHostname (cs : List Char) : Bool := (Text.pieces '.' cs).all isLabel

/-! ### Version 4 -/

/-- Decides whether digits write a byte in decimal, without a leading zero. -/
def isDecimalByte : List Char → Bool
  | [a] => a.isDigit
  | [a, b] => a.isDigit && b.isDigit && a != '0'
  | [a, b, c] =>
    a.isDigit && b.isDigit && c.isDigit && a != '0' &&
      100 * (a.toNat - 48) + 10 * (b.toNat - 48) + (c.toNat - 48) ≤ 255
  | _ => false

/-- Decides whether a text is a version 4 address. -/
def isIpv4 (cs : List Char) : Bool :=
  let parts := Text.pieces '.' cs
  parts.length == 4 && parts.all isDecimalByte

/-! ### Version 6 -/

/-- Decides whether digits write a group of a version 6 address. -/
def isGroup (cs : List Char) : Bool := 1 ≤ cs.length && cs.length ≤ 4 && cs.all Number.isHexDigit

/-- The number of groups that parts between colons write, if they are groups and, where
`mayEndInIpv4`, a version 4 address at the end. -/
def countGroups (mayEndInIpv4 : Bool) : List (List Char) → Option Nat
  | [] => some 0
  | [part] =>
    if isGroup part then some 1
    else if mayEndInIpv4 && isIpv4 part then some 2
    else none
  | part :: next :: rest =>
    if isGroup part then (countGroups mayEndInIpv4 (next :: rest)).map (· + 1) else none

/-- The number of groups in one side of an abbreviated address; an empty side has none. -/
def groupsIn (mayEndInIpv4 : Bool) (cs : List Char) : Option Nat :=
  if cs.isEmpty then some 0 else countGroups mayEndInIpv4 (Text.pieces ':' cs)

/-- What stands before and after the first two colons in a row. -/
def cutAtGap : List Char → Option (List Char × List Char)
  | ':' :: ':' :: cs => some ([], cs)
  | [] => none
  | c :: cs => (cutAtGap cs).map fun p => (c :: p.1, p.2)

/-- Decides whether a text is a version 6 address. The gap stands for at least one group. -/
def isIpv6 (cs : List Char) : Bool :=
  match cutAtGap cs with
  | none => groupsIn true cs == some 8
  | some (before, after) =>
    match groupsIn false before, groupsIn true after with
    | some m, some n => m + n ≤ 7
    | _, _ => false

end FleetConfig.Net
