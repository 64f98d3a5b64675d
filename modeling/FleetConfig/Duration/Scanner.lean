import FleetConfig.Duration.Parser

/-!
# Reading durations in place

A machine reads a duration over the bytes of its text, from position to position, and counts in
words of 128 bits. Two things would stop it that are no faults of the text: to cut out a part of
the text that starts or ends inside a character, and to multiply words whose product does not fit.
Here these are results of their own, so that it can be said that they do not occur.

## Main definitions

* `Duration.Scan.Trap`, `Duration.Scan.Work` — what stops a machine, and what it works out.
* `Duration.Scan.Word` — words, with sums that stop at the largest word and products that have to
  fit.
* `Duration.Scan.step`, `Duration.Scan.run` — reads one term, and all terms.
* `Duration.scan` — the duration that a text denotes, read in place.
-/

namespace FleetConfig.Duration

namespace Scan

/-! ### Traps -/

/-- What stops a machine. -/
inductive Trap where
  /-- A part of a text is to be cut out whose ends do not both lie between characters, or lie the
  wrong way round. -/
  | insideCharacter
  /-- A product does not fit a word. -/
  | overflow
deriving DecidableEq, Repr

/-- What a machine works out, unless it is stopped: a result, or a fault of the text. -/
abbrev Work (α : Type) := ExceptT Fault (Except Trap) α

theorem Work.bind_eq_ok {α β : Type} {x : Work α} {f : α → Work β} {b : β} :
    (x >>= f).run = .ok (.ok b) ↔ ∃ a, x.run = .ok (.ok a) ∧ (f a).run = .ok (.ok b) := by
  rw [ExceptT.run_bind]
  constructor
  · intro h
    match hx : x.run, h with
    | .ok (.ok a), h => exact ⟨a, rfl, h⟩
  · rintro ⟨a, hx, h⟩
    rw [hx]
    exact h

theorem Work.lift_eq_ok {α : Type} {x : Except Trap α} {a : α} :
    (liftM x : Work α).run = .ok (.ok a) ↔ x = .ok a := by
  cases x with
  | error e => exact ⟨nofun, nofun⟩
  | ok a' => exact ⟨fun h => by cases h; rfl, fun h => by cases h; rfl⟩

/-! ### Words -/

/-- A word of 128 bits. -/
abbrev Word := BitVec 128

/-- A sum, or the largest word if the sum does not fit. -/
def Word.plus (a b : Word) : Word := if a.uaddOverflow b then BitVec.allOnes 128 else a + b

/-- A product, or the largest word if the product does not fit. -/
def Word.times (a b : Word) : Word := if a.umulOverflow b then BitVec.allOnes 128 else a * b

/-- A product that has to fit. -/
def Word.product (a b : Word) : Except Trap Word :=
  if a.umulOverflow b then .error .overflow else .ok (a * b)

/-- A power of ten that has to fit. -/
def Word.powerOfTen : Nat → Except Trap Word
  | 0 => .ok 1
  | n + 1 => do (← powerOfTen n).product 10

/-- The word that digits denote; nothing, if there are no digits or they do not fit. -/
def Word.ofDigits? (digits : String) : Option Word :=
  let n := Number.ofDigits 10 digits.toList
  if digits.isEmpty || maxWhole < n then none else some (BitVec.ofNat 128 n)

/-- The nanoseconds in one unit. -/
def Word.ofUnit (u : Unit) : Word := BitVec.ofNat 128 u.nanos

/-! ### Positions -/

/-- The bytes of a text. -/
def bytes (s : String) : List UInt8 := s.toByteArray.data.toList

/-- Holds of the bytes of digits. -/
def isDigit (b : UInt8) : Bool := 48 ≤ b && b ≤ 57

/-- Holds of the byte of a point. -/
def isPoint (b : UInt8) : Bool := b == 46

/-- Holds of the bytes that a unit's name runs over. -/
def inName (b : UInt8) : Bool := !isDigit b && !isPoint b

/-- The position behind the bytes of a kind that stand at a position. -/
def skip (kind : UInt8 → Bool) (s : String) (pos : Nat) : Nat :=
  pos + (((bytes s).drop pos).takeWhile kind).length

/-- The part of a text between two positions, which have to be between characters. -/
def cut (s : String) (start stop : Nat) : Except Trap String :=
  if h : (⟨start⟩ : String.Pos.Raw).IsValid s ∧ (⟨stop⟩ : String.Pos.Raw).IsValid s ∧
      start ≤ stop then
    .ok (s.extract ⟨⟨start⟩, h.1⟩ ⟨⟨stop⟩, h.2.1⟩)
  else .error .insideCharacter

theorem le_skip (kind : UInt8 → Bool) (s : String) (pos : Nat) : pos ≤ skip kind s pos :=
  Nat.le_add_right _ _

/-- Between a position and itself there is nothing. -/
theorem eq_empty_of_cut {s part : String} {pos : Nat} (h : cut s pos pos = .ok part) :
    part = "" := by
  rw [cut] at h
  split at h
  · cases h
    simp [← String.toByteArray_inj]
  · cases h

/-! ### Terms -/

/-- The digits behind a point, if there is one at a position, and the position behind them. -/
def readFraction (s : String) (pos : Nat) : Work (String × Nat) := do
  if ((bytes s)[pos]?).any isPoint then
    let stop := skip isDigit s (pos + 1)
    return (← cut s (pos + 1) stop, stop)
  else return ("", pos)

/-- The unit at a position, and the position behind it. -/
def readUnit (s : String) (pos : Nat) : Work (Unit × Nat) := do
  let stop := skip inName s pos
  let name ← cut s pos stop
  match Unit.ofChars? name.toList with
  | some unit => return (unit, stop)
  | none => throw (if name.isEmpty then .missingUnit else .unknownUnit name)

/-- Adds the nanoseconds of the digits before the point. -/
def addWhole (total : Word) (digits : String) (unit : Unit) : Work Word := do
  if digits.isEmpty then return total
  else
    match Word.ofDigits? digits with
    | some whole => return total.plus (whole.times (Word.ofUnit unit))
    | none => throw .malformed

/-- Adds the whole nanoseconds of the digits behind the point that count. -/
def addFraction (total : Word) (digits : String) (unit : Unit) : Work Word := do
  if digits.isEmpty then return total
  else
    let counted ← cut digits 0 (min digits.utf8ByteSize fractionDigits)
    match Word.ofDigits? counted with
    | some numerator =>
      let scale ← Word.powerOfTen counted.utf8ByteSize
      return total.plus ((← numerator.product (Word.ofUnit unit)) / scale)
    | none => throw .malformed

/-- Reads the term at a position: gives the position behind it and the new total. -/
def step (s : String) (pos : Nat) (total : Word) : Work (Nat × Word) := do
  let whole ← cut s pos (skip isDigit s pos)
  let (fraction, stop) ← readFraction s (skip isDigit s pos)
  if whole.isEmpty && fraction.isEmpty then throw .malformed
  else
    let (unit, stop) ← readUnit s stop
    let total ← addWhole total whole unit
    return (stop, ← addFraction total fraction unit)

theorem le_of_readFraction {s part : String} {pos stop : Nat}
    (h : (readFraction s pos).run = .ok (.ok (part, stop))) : pos ≤ stop := by
  rw [readFraction] at h
  split at h
  · obtain ⟨part, -, h⟩ := Work.bind_eq_ok.1 h
    cases h
    exact Nat.le_of_succ_le (le_skip isDigit s (pos + 1))
  · cases h
    exact Nat.le_refl pos

/-- Units have names. -/
theorem lt_of_readUnit {s : String} {pos stop : Nat} {u : Unit}
    (h : (readUnit s pos).run = .ok (.ok (u, stop))) : pos < stop := by
  obtain ⟨name, hname, h⟩ := Work.bind_eq_ok.1 h
  split at h
  · rename_i unit hunit
    cases h
    refine Nat.lt_of_le_of_ne (le_skip inName s pos) fun heq => ?_
    rw [← heq, Work.lift_eq_ok] at hname
    rw [eq_empty_of_cut hname] at hunit
    cases hunit
  · cases h

/-- A term is not empty, so reading one gets on. -/
theorem lt_of_step {s : String} {pos next : Nat} {total total' : Word}
    (h : (step s pos total).run = .ok (.ok (next, total'))) : pos < next := by
  obtain ⟨whole, -, h⟩ := Work.bind_eq_ok.1 h
  obtain ⟨⟨fraction, stop⟩, hfraction, h⟩ := Work.bind_eq_ok.1 h
  simp only at h
  split at h
  · cases h
  · obtain ⟨⟨unit, stop'⟩, hunit, h⟩ := Work.bind_eq_ok.1 h
    obtain ⟨total₁, -, h⟩ := Work.bind_eq_ok.1 h
    obtain ⟨total₂, -, h⟩ := Work.bind_eq_ok.1 h
    cases h
    calc pos
        ≤ skip isDigit s pos := le_skip isDigit s pos
      _ ≤ stop := le_of_readFraction hfraction
      _ < stop' := lt_of_readUnit hunit

/-- Reads all terms from a position on. -/
def run (s : String) (pos : Nat) (total : Word) : Work Word :=
  if pos < s.utf8ByteSize then
    match _h : (step s pos total).run with
    | .ok (.ok (next, total')) => run s next total'
    | .ok (.error fault) => throw fault
    | .error trap => throwThe Trap trap
  else return total
termination_by s.utf8ByteSize - pos
decreasing_by
  have := lt_of_step _h
  omega

end Scan

/-- The duration that a text denotes, read in place. -/
def scan (s : String) : Scan.Work Duration := do
  let trimmed := Text.trim s
  if trimmed.isEmpty then throw .empty
  else if trimmed = "0" then return zero
  else
    let total ← Scan.run trimmed 0 0
    if maxNanos < total.toNat then throw .outOfRange else return ⟨total.toNat⟩

end FleetConfig.Duration
