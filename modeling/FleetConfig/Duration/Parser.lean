import FleetConfig.Duration.Basic
import FleetConfig.Number.Digits
import FleetConfig.Text.Blank

/-!
# Reading durations

A duration is written as `0` or as one or more *terms*, such as `1h30m` or `1.5s`. A term is a
decimal number and a unit; the number may lack its whole part or its fraction, but not both. A term
counts for its whole nanoseconds, and the duration is the sum of its terms.

## Main definitions

* `Duration.Term` — one number with its unit.
* `Duration.Fault`, `Duration.Fault.message` — why a text is no duration.
* `Duration.parse` — the duration that a text denotes.
-/

namespace FleetConfig.Duration

/-! ### Faults -/

/-- Why a text is no duration. -/
inductive Fault where
  /-- Nothing but blanks. -/
  | empty
  /-- A term does not start with a number, or its whole part does not fit 128 bits. -/
  | malformed
  /-- A number has no unit. -/
  | missingUnit
  /-- What follows a number is no unit. -/
  | unknownUnit (unit : String)
  /-- The sum does not fit 64 bits. -/
  | outOfRange
deriving DecidableEq, Repr

/-- The text of a fault in the given input. -/
def Fault.message (input : String) : Fault → String
  | empty => "empty duration"
  | malformed => s!"invalid duration '{input}'"
  | missingUnit => s!"missing unit in duration '{input}'"
  | unknownUnit unit => s!"unknown unit '{unit}' in duration '{input}'"
  | outOfRange => s!"duration '{input}' is out of range"

/-! ### Terms -/

/-- The unit of a name; microseconds have two spellings with a Greek letter besides their suffix. -/
def Unit.ofChars? : List Char → Option Unit
  | ['n', 's'] => some .nanosecond
  | ['u', 's'] => some .microsecond
  | ['\u00b5', 's'] => some .microsecond
  | ['\u03bc', 's'] => some .microsecond
  | ['m', 's'] => some .millisecond
  | ['s'] => some .second
  | ['m'] => some .minute
  | ['h'] => some .hour
  | _ => none

/-- One number with its unit, as digits. -/
structure Term where
  /-- Digits before the point. -/
  whole : List Char
  /-- Digits after the point. -/
  fraction : List Char
  /-- The unit. -/
  unit : Unit
deriving DecidableEq

/-- As many digits of a fraction count; with them every unit is resolved below a nanosecond. -/
def fractionDigits : Nat := 18

/-- The whole nanoseconds of a term. -/
def Term.nanos (t : Term) : Nat :=
  let digits := t.fraction.take fractionDigits
  Number.ofDigits 10 t.whole * t.unit.nanos +
    Number.ofDigits 10 digits * t.unit.nanos / Nat.pow 10 digits.length

/-- The whole nanoseconds of all terms. -/
def totalNanos : List Term → Nat
  | [] => 0
  | t :: ts => t.nanos + totalNanos ts

/-- Holds of the characters that a unit's name runs over: all that cannot start a number. -/
def inUnitName (c : Char) : Bool := !c.isDigit && c != '.'

/-- The digits after a point, if a point stands here, and what follows. -/
def fractionAndRest : List Char → List Char × List Char
  | '.' :: cs => (cs.takeWhile Char.isDigit, cs.dropWhile Char.isDigit)
  | cs => ([], cs)

/-- The whole part of a number has to fit 128 bits. -/
def maxWhole : Nat := 340282366920938463463374607431768211455

/-- Reads the first term and gives what follows it. -/
def readTerm (cs : List Char) : Except Fault (Term × List Char) :=
  let whole := cs.takeWhile Char.isDigit
  let (fraction, rest) := fractionAndRest (cs.dropWhile Char.isDigit)
  if whole.isEmpty && fraction.isEmpty then .error .malformed
  else
    let name := rest.takeWhile inUnitName
    match Unit.ofChars? name with
    | none =>
      .error (if name.isEmpty then .missingUnit else .unknownUnit (String.ofList name))
    | some unit =>
      if maxWhole < Number.ofDigits 10 whole then .error .malformed
      else .ok (⟨whole, fraction, unit⟩, rest.dropWhile inUnitName)

theorem length_fractionAndRest_le (cs : List Char) :
    (fractionAndRest cs).2.length ≤ cs.length := by
  unfold fractionAndRest
  split
  · exact Nat.le_succ_of_le (List.dropWhile_sublist _).length_le
  · exact Nat.le_refl _

/-- A unit's name is not empty, so reading a term leaves less to read. -/
theorem length_lt_of_readTerm {cs rest : List Char} {t : Term} (h : readTerm cs = .ok (t, rest)) :
    rest.length < cs.length := by
  have hdrop := (List.dropWhile_sublist (l := cs) Char.isDigit).length_le
  have hrest := length_fractionAndRest_le (cs.dropWhile Char.isDigit)
  simp only [readTerm] at h
  split at h
  · cases h
  · split at h
    · cases h
    · split at h
      · cases h
      · rename_i unit hunit _
        generalize hr : (fractionAndRest (cs.dropWhile Char.isDigit)).2 = r at *
        cases h
        cases r with
        | nil => simp [Unit.ofChars?] at hunit
        | cons c r =>
          by_cases hc : inUnitName c
          · have := (List.dropWhile_sublist (l := r) inUnitName).length_le
            simp only [List.dropWhile, hc, List.length_cons] at *
            omega
          · simp [List.takeWhile, hc, Unit.ofChars?] at hunit

/-- Reads terms to the end. -/
def readTerms (cs : List Char) : Except Fault (List Term) :=
  match cs with
  | [] => .ok []
  | c :: cs =>
    match _h : readTerm (c :: cs) with
    | .error f => .error f
    | .ok (t, rest) => (readTerms rest).map (t :: ·)
termination_by cs.length
decreasing_by exact length_lt_of_readTerm ‹_›

/-! ### Durations -/

/-- The nanoseconds of a trimmed text. -/
def parseTrimmed : List Char → Except Fault Duration
  | [] => .error .empty
  | ['0'] => .ok zero
  | cs => do
    let total := totalNanos (← readTerms cs)
    if maxNanos < total then .error .outOfRange else .ok ⟨total⟩

/-- The duration that a text denotes; blanks around it do not count. -/
def parse (s : String) : Except Fault Duration := parseTrimmed (Text.trimList s.toList)

end FleetConfig.Duration
