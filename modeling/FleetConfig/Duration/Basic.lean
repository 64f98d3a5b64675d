/-!
# Durations

A duration is a whole number of nanoseconds. It is written with the largest unit that divides it
evenly, which is also the shortest exact text with a single unit.

## Main definitions

* `Duration`, `Duration.Unit` — a count of nanoseconds and the six units.
* `Duration.text` — the canonical text.
-/

namespace FleetConfig

/-- A length of time. -/
structure Duration where
  /-- Its nanoseconds. -/
  nanos : Nat
deriving DecidableEq, Inhabited

namespace Duration

/-! ### Units -/

/-- The units that a duration is written in. -/
inductive Unit where
  | hour | minute | second | millisecond | microsecond | nanosecond
deriving DecidableEq, Repr

/-- The nanoseconds in one unit. -/
def Unit.nanos : Unit → Nat
  | hour => 3600000000000
  | minute => 60000000000
  | second => 1000000000
  | millisecond => 1000000
  | microsecond => 1000
  | nanosecond => 1

/-- What is written after a count of the unit. -/
def Unit.suffix : Unit → String
  | hour => "h"
  | minute => "m"
  | second => "s"
  | millisecond => "ms"
  | microsecond => "us"
  | nanosecond => "ns"

/-- All units, the largest first. -/
def Unit.all : List Unit := [.hour, .minute, .second, .millisecond, .microsecond, .nanosecond]

/-! ### Values -/

/-- The duration of no length. -/
def zero : Duration := ⟨0⟩

/-- Holds of the duration of no length. -/
def isZero (d : Duration) : Bool := d.nanos == 0

/-- The longest duration that a text can denote: a count in 64 bits. -/
def maxNanos : Nat := 18446744073709551615

/-- So many nanoseconds. -/
def ofNanos (n : Nat) : Duration := ⟨n⟩

/-- So many seconds. -/
def ofSeconds (n : Nat) : Duration := ⟨n * Unit.second.nanos⟩

/-- The largest unit that divides a duration evenly; every duration is whole in nanoseconds. -/
def largestUnit (d : Duration) : Unit :=
  (Unit.all.find? fun u => d.nanos % u.nanos == 0).getD .nanosecond

/-- The canonical text: a count of the largest unit that divides the duration, and `0s` for none. -/
def text (d : Duration) : String :=
  if d.isZero then "0s"
  else toString (d.nanos / d.largestUnit.nanos) ++ d.largestUnit.suffix

end Duration

end FleetConfig
