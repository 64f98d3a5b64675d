/-!
# Punycode

A label with letters beyond ASCII has a form in ASCII: its ASCII characters, a dash if there are
any, and digits that say where the other characters go. Each *delta* is a number with variable digit
weights; the weights adapt to the deltas read so far.

## Main definitions

* `Url.Domain.Punycode.decode?` — the label of an ASCII form.
-/

namespace FleetConfig.Url.Domain.Punycode

/-- The number of digits. -/
def base : Nat := 36

/-- The largest code point. -/
def maxCodePoint : Nat := 0x10FFFF

/-- The value of a digit: letters in either case count from 0, decimal digits from 26. -/
def digit? (c : Char) : Option Nat :=
  if 'a' ≤ c && c ≤ 'z' then some (c.toNat - 97)
  else if 'A' ≤ c && c ≤ 'Z' then some (c.toNat - 65)
  else if c.isDigit then some (c.toNat - 48 + 26)
  else none

/-- Brings a delta down until its digits have their usual weight; the second number grows by the
base with each step. -/
def scaleDown (delta steps : Nat) : Nat :=
  if 455 < delta then scaleDown (delta / 35) (steps + base)
  else steps + 36 * delta / (delta + 38)
termination_by delta
decreasing_by omega

/-- The bias for the next delta. -/
def adapt (delta count : Nat) (first : Bool) : Nat :=
  let delta := if first then delta / 700 else delta / 2
  scaleDown (delta + delta / count) 0

/-- The threshold of a digit position: a digit below it ends a delta. -/
def threshold (position bias : Nat) : Nat :=
  if position ≤ bias then 1 else if bias + 26 ≤ position then 26 else position - bias

/-- Reads one delta and adds it to `sum`. -/
def readDelta (bias : Nat) : List Char → Nat → Nat → Nat → Option (Nat × List Char)
  | [], _, _, _ => none
  | c :: cs, position, weight, sum =>
    match digit? c with
    | none => none
    | some d =>
      let sum := sum + d * weight
      if 0xFFFFFFFF < sum then none
      else
        let t := threshold position bias
        if d < t then some (sum, cs)
        else readDelta bias cs (position + base) (weight * (base - t)) sum

theorem length_lt_of_readDelta {bias position weight sum sum' : Nat} {cs rest : List Char}
    (h : readDelta bias cs position weight sum = some (sum', rest)) : rest.length < cs.length := by
  induction cs generalizing position weight sum with
  | nil => simp [readDelta] at h
  | cons c cs ih =>
    simp only [readDelta] at h
    split at h
    · cases h
    · split at h
      · cases h
      · split at h
        · cases h
          exact Nat.lt_succ_self _
        · exact Nat.lt_succ_of_lt (ih h)

/-- Inserts the characters that the deltas describe. `code` is the last code point inserted and
`index` the place after it. -/
def insertAll (cs out : List Char) (code index bias : Nat) : Option (List Char) :=
  match cs with
  | [] => some out
  | c :: cs' =>
    match _h : readDelta bias (c :: cs') base 1 index with
    | none => none
    | some (index', rest) =>
      let count := out.length + 1
      let code' := code + index' / count
      let place := index' % count
      if maxCodePoint < code' || (0xD800 ≤ code' && code' ≤ 0xDFFF) then none
      else
        insertAll rest (out.take place ++ Char.ofNat code' :: out.drop place) code' (place + 1)
          (adapt (index' - index) count (index == 0))
termination_by cs.length
decreasing_by exact length_lt_of_readDelta ‹_›

/-- The basic characters and the deltas: what stands before and after the last dash. A dash with
nothing before it separates nothing. -/
def cutAtLastDash (cs : List Char) : List Char × List Char :=
  let after := (cs.reverse.takeWhile (· != '-')).reverse
  match cs.take (cs.length - after.length - 1) with
  | [] => ([], cs)
  | basic => (basic, after)

/-- The label whose ASCII form, without its marker, is given. -/
def decode? (cs : List Char) : Option (List Char) :=
  let (basic, deltas) := cutAtLastDash cs
  if basic.all (fun c => c.toNat < 128) then insertAll deltas basic 128 0 72 else none

end FleetConfig.Url.Domain.Punycode
