import FleetConfig.Number.Digits

/-!
# Port numbers

A port is written in decimal, with an optional plus sign, and lies between 1 and 65535.

## Main definitions

* `Net.Port.Fault`, `Net.Port.check` — why a text is no port.
-/

namespace FleetConfig.Net.Port

/-- Why a text is no port. -/
inductive Fault where
  /-- The text is no number, or one that does not fit 32 bits. -/
  | notANumber (text : String)
  /-- The number is no port. -/
  | outOfRange (number : Nat)
deriving DecidableEq, Repr

/-- The text of a fault. -/
def Fault.message : Fault → String
  | notANumber text => s!"invalid port '{text}'"
  | outOfRange number => s!"port {number} out of range 1-65535"

/-- The digits of a number, after an optional plus sign. -/
def unsigned : List Char → List Char
  | '+' :: cs => cs
  | cs => cs

/-- The largest number that is read at all. -/
def maxNumber : Nat := 4294967295

/-- The number that a text denotes, if it fits 32 bits. -/
def number? (text : String) : Option Nat :=
  (Number.natural? 10 (unsigned text.toList)).filter (· ≤ maxNumber)

/-- Succeeds if a text is a port. -/
def check (text : String) : Except Fault Unit :=
  match number? text with
  | none => .error (.notANumber text)
  | some n => if 1 ≤ n ∧ n ≤ 65535 then .ok () else .error (.outOfRange n)

end FleetConfig.Net.Port
