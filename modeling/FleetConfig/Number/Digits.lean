/-!
# Digits

Natural numbers as digits in a base of at most 16. Digits above nine are letters in either case.

## Main definitions

* `Number.isDigitIn`, `Number.digitValue` — digits of a base, and their values.
* `Number.ofDigits`, `Number.natural?` — the number that digits denote.
* `Number.lowerDigit`, `Number.upperDigit` — the digit of a value.
-/

namespace FleetConfig.Number

/-! ### Reading -/

/-- The value of a digit; other characters have one too, but no meaning. -/
def digitValue (c : Char) : Nat :=
  if c.isDigit then c.toNat - 48
  else if 'a' ≤ c && c ≤ 'f' then c.toNat - 87
  else c.toNat - 55

/-- Holds of hexadecimal digits. -/
def isHexDigit (c : Char) : Bool :=
  c.isDigit || ('a' ≤ c && c ≤ 'f') || ('A' ≤ c && c ≤ 'F')

/-- Holds of the digits of a base. -/
def isDigitIn (base : Nat) (c : Char) : Bool := isHexDigit c && digitValue c < base

/-- The number that digits denote in a base. -/
def ofDigits (base : Nat) (ds : List Char) : Nat :=
  ds.foldl (fun n c => base * n + digitValue c) 0

/-- The number that a text denotes in a base: one or more digits. -/
def natural? (base : Nat) (cs : List Char) : Option Nat :=
  if !cs.isEmpty && cs.all (isDigitIn base) then some (ofDigits base cs) else none

/-! ### Writing -/

/-- The digit of a value below 16, with small letters. -/
def lowerDigit (n : Nat) : Char := Char.ofNat (if n < 10 then 48 + n else 87 + n)

/-- The digit of a value below 16, with capital letters. -/
def upperDigit (n : Nat) : Char := Char.ofNat (if n < 10 then 48 + n else 55 + n)

end FleetConfig.Number
