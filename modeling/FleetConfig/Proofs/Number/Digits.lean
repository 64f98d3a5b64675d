import FleetConfig.Number.Digits
import Mathlib.Algebra.Ring.Nat
import Mathlib.Data.List.Basic
import Mathlib.Data.List.Induction

/-!
# Decimal digits

Decimal digits denote what the digits of a natural number do, so a number is read back from the
digits that it is written with.

## Main results

* `Number.isDigit_iff` — which characters are digits.
* `Number.ofDigits_ten` — what decimal digits denote.
* `Number.ofDigits_ten_lt` — so many digits denote a number with no more digits.
* `Number.ofDigits_toDigits` — a number is read back.
* `Number.length_toString_le` — a smaller number is not written with more digits.
-/

namespace FleetConfig.Number

variable {c : Char} {ds : List Char}

theorem isDigit_iff : c.isDigit = true ↔ 48 ≤ c.toNat ∧ c.toNat ≤ 57 := by
  simp only [Char.isDigit, Bool.and_eq_true, decide_eq_true_eq, UInt32.le_iff_toNat_le]
  rfl

theorem ofDigits_nil (base : Nat) : ofDigits base [] = 0 := rfl

theorem digitValue_of_isDigit (h : c.isDigit = true) : digitValue c = c.toNat - 48 :=
  if_pos h

/-- Decimal digits denote a number as the digits of a natural number do. -/
theorem ofDigits_ten (h : ∀ c ∈ ds, c.isDigit = true) :
    ofDigits 10 ds = Nat.ofDigitChars 10 ds 0 := by
  rw [ofDigits, Nat.ofDigitChars_eq_foldl]
  refine List.foldl_ext _ _ _ fun acc c hc => ?_
  rw [digitValue_of_isDigit (h c hc)]
  rfl

/-- So many digits denote a number with no more digits. -/
theorem ofDigits_ten_lt (h : ∀ c ∈ ds, c.isDigit = true) : ofDigits 10 ds < 10 ^ ds.length := by
  induction ds using List.reverseRecOn with
  | nil => decide
  | append_singleton ds c ih =>
    have hds := ih fun x hx => h x (List.mem_append_left _ hx)
    have hc : c.isDigit = true := h c (by simp)
    have hstep : ofDigits 10 (ds ++ [c]) = 10 * ofDigits 10 ds + (c.toNat - 48) := by
      rw [← digitValue_of_isDigit hc, ofDigits, List.foldl_append, ← ofDigits]
      rfl
    rw [isDigit_iff] at hc
    rw [hstep, List.length_append, List.length_singleton, Nat.pow_succ]
    omega

theorem isDigit_toDigits (n : Nat) : ∀ c ∈ Nat.toDigits 10 n, c.isDigit = true := fun _ hc =>
  Nat.isDigit_of_mem_toDigits (by decide) (by decide) hc

/-- The digits that a number is written with denote it. -/
theorem ofDigits_toDigits (n : Nat) : ofDigits 10 (Nat.toDigits 10 n) = n := by
  rw [ofDigits_ten (isDigit_toDigits n), Nat.ofDigitChars_ten_toDigits]

/-- A smaller number is not written with more digits. -/
theorem length_toString_le {m n : Nat} (h : m ≤ n) :
    (toString m).length ≤ (toString n).length := by
  have hpos : 0 < (Nat.toDigits 10 n).length := Nat.length_toDigits_pos
  have hn : n < 10 ^ (Nat.toDigits 10 n).length :=
    (Nat.length_toDigits_le_iff (by decide) hpos).1 (Nat.le_refl _)
  have hm := (Nat.length_toDigits_le_iff (by decide) hpos).2 (Nat.lt_of_le_of_lt h hn)
  simpa only [← String.length_toList, Nat.toString_eq_repr, Nat.toList_repr] using hm

end FleetConfig.Number
