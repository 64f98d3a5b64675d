import FleetConfig.Proofs.Duration.Grammar
import Mathlib.Algebra.Order.Floor.Semifield
import Mathlib.Data.Rat.Floor

/-!
# Digits that do not count

Of the digits behind a point only the first 18 count. The others come to less than a nanosecond, but
an item counts for whole nanoseconds: where the digits that count come close below a whole one, the
others may reach it, and the item falls short of it. It does not happen to a unit that is a power of
ten nanoseconds, for what its digits lack of a nanosecond is a multiple of the last digit that
counts. It does happen to minutes and hours.

## Main definitions

* `Duration.Item.value`, `Duration.Item.exactNanos` — the number of an item with all its digits, and
  its whole nanoseconds.
* `Duration.Item.FallsShort` — holds of an item that counts for one nanosecond less.

## Main results

* `Duration.Item.exactNanos_eq` — no item lacks more than the nanosecond that it falls short of.
* `Duration.Item.long_of_fallsShort` — only minutes and hours with more than 18 digits fall short.
* `Duration.exactNanos_of_parse` — what a text denotes, compared to its exact value.
-/

namespace FleetConfig.Duration

/-- A quotient grows by one at most when its numerator and its denominator are continued: it does if
what is appended makes up for what the numerator lacks of the next multiple. -/
theorem div_append {a b s m : Nat} (hb : b < s * m) :
    (a * m + b) / (s * m) = a / s + if (s - a % s) * m ≤ b then 1 else 0 := by
  have hsm : 0 < s * m := Nat.zero_lt_of_lt hb
  have hrest : a % s * m < s * m := by
    have hs := Nat.pos_of_mul_pos_right hsm
    exact Nat.mul_lt_mul_of_pos_right (Nat.mod_lt a hs) (Nat.pos_of_mul_pos_left hsm)
  have hsplit : a * m + b = s * m * (a / s) + (a % s * m + b) := by
    conv_lhs => rw [← Nat.div_add_mod a s]
    ring
  rw [hsplit, Nat.mul_add_div hsm, Nat.sub_mul]
  congr 1
  by_cases h : s * m - a % s * m ≤ b
  · rw [if_pos h]
    exact Nat.div_eq_of_lt_le (by omega) (by omega)
  · rw [if_neg h, Nat.div_eq_of_lt (by omega)]

namespace Item

/-- The digits behind the point that count. -/
def counted (i : Item) : List Char := i.decimals.take 18

/-- The digits behind the point that do not count. -/
def dropped (i : Item) : List Char := i.decimals.drop 18

/-- The number of an item, with all its digits. -/
def value (i : Item) : ℚ :=
  Nat.ofDigitChars 10 i.whole 0 + Nat.ofDigitChars 10 i.decimals 0 / 10 ^ i.decimals.length

/-- The whole nanoseconds of an item, with all its digits. -/
def exactNanos (i : Item) : Nat := ⌊i.value * i.unit.nanos⌋₊

/-- Holds of an item whose digits that do not count make up for the part of a nanosecond that the
digits that count lack. Both sides count parts of a nanosecond, as many as all digits tell apart. -/
def FallsShort (i : Item) : Prop :=
  (10 ^ i.counted.length -
      Nat.ofDigitChars 10 i.counted 0 * i.unit.nanos % 10 ^ i.counted.length) *
    10 ^ i.dropped.length ≤ Nat.ofDigitChars 10 i.dropped 0 * i.unit.nanos

instance (i : Item) : Decidable i.FallsShort := inferInstanceAs (Decidable (_ ≤ _))

theorem exactNanos_eq_div (i : Item) :
    i.exactNanos = Nat.ofDigitChars 10 i.whole 0 * i.unit.nanos +
      Nat.ofDigitChars 10 i.decimals 0 * i.unit.nanos / 10 ^ i.decimals.length := by
  have hvalue : i.value * i.unit.nanos =
      (Nat.ofDigitChars 10 i.whole 0 * i.unit.nanos : Nat) +
        (Nat.ofDigitChars 10 i.decimals 0 * i.unit.nanos : Nat) /
          (10 ^ i.decimals.length : Nat) := by
    push_cast [value]
    ring
  rw [exactNanos, hvalue, add_comm, Nat.floor_add_natCast (by positivity), Nat.floor_div_eq_div,
    add_comm]

theorem ofDigitChars_dropped_lt (i : Item) :
    Nat.ofDigitChars 10 i.dropped 0 < 10 ^ i.dropped.length := by
  have hdigits : ∀ c ∈ i.dropped, c.isDigit = true := fun c hc =>
    i.isDigit_fraction c (List.mem_of_mem_drop hc)
  rw [← Number.ofDigits_ten hdigits]
  exact Number.ofDigits_ten_lt hdigits

/-- All digits count, or 18 do. -/
theorem dropped_cases (i : Item) :
    i.dropped = [] ∨ 18 < i.decimals.length ∧ i.counted.length = 18 := by
  rw [dropped, List.drop_eq_nil_iff, counted, List.length_take]
  omega

/-- What the digits that do not count add is less than a nanosecond. -/
theorem dropped_lt (i : Item) :
    Nat.ofDigitChars 10 i.dropped 0 * i.unit.nanos <
      10 ^ i.counted.length * 10 ^ i.dropped.length := by
  rcases i.dropped_cases with hnil | ⟨-, hcounted⟩
  · rw [hnil, Nat.ofDigitChars_nil, Nat.zero_mul]
    positivity
  · have hunit : i.unit.nanos ≤ 10 ^ 18 := by cases i.unit <;> decide
    rw [hcounted, Nat.mul_comm (10 ^ 18)]
    exact Nat.mul_lt_mul_of_lt_of_le i.ofDigitChars_dropped_lt hunit (by positivity)

/-- No item lacks more than the nanosecond that it falls short of. -/
theorem exactNanos_eq (i : Item) : i.exactNanos = i.nanos + if i.FallsShort then 1 else 0 := by
  have hdecimals : i.decimals = i.counted ++ i.dropped := (List.take_append_drop 18 _).symm
  have hnumber : Nat.ofDigitChars 10 i.decimals 0 * i.unit.nanos =
      Nat.ofDigitChars 10 i.counted 0 * i.unit.nanos * 10 ^ i.dropped.length +
        Nat.ofDigitChars 10 i.dropped 0 * i.unit.nanos := by
    rw [hdecimals, Nat.ofDigitChars_append, Nat.ofDigitChars_eq_ofDigitChars_zero]
    ring
  have hscale : 10 ^ i.decimals.length = 10 ^ i.counted.length * 10 ^ i.dropped.length := by
    rw [hdecimals, List.length_append, Nat.pow_add]
  rw [exactNanos_eq_div, hnumber, hscale, div_append i.dropped_lt, ← Nat.add_assoc]
  rfl

/-- Only minutes and hours with more than 18 digits fall short. -/
theorem long_of_fallsShort {i : Item} (h : i.FallsShort) :
    18 < i.decimals.length ∧ (i.unit = .minute ∨ i.unit = .hour) := by
  rw [FallsShort] at h
  have hlacks : Nat.ofDigitChars 10 i.counted 0 * i.unit.nanos % 10 ^ i.counted.length <
      10 ^ i.counted.length := Nat.mod_lt _ (by positivity)
  rcases i.dropped_cases with hnil | ⟨hlong, hcounted⟩
  · rw [hnil, Nat.ofDigitChars_nil, Nat.zero_mul, List.length_nil, Nat.pow_zero] at h
    omega
  · refine ⟨hlong, ?_⟩
    by_contra hunit
    -- What is lacking is a multiple of the unit, too, and so one unit at least.
    have hdvd : i.unit.nanos ∣ 10 ^ 18 := by
      cases hu : i.unit <;> simp [hu, Unit.nanos] at hunit ⊢
    rw [hcounted] at h hlacks
    have hmod := (Nat.dvd_mod_iff hdvd).2
      (Nat.dvd_mul_left i.unit.nanos (Nat.ofDigitChars 10 i.counted 0))
    have hunits := Nat.le_of_dvd (Nat.sub_pos_of_lt hlacks) (Nat.dvd_sub hdvd hmod)
    refine absurd h (Nat.not_le.2 ?_)
    calc Nat.ofDigitChars 10 i.dropped 0 * i.unit.nanos
        < 10 ^ i.dropped.length * i.unit.nanos :=
          Nat.mul_lt_mul_of_pos_right i.ofDigitChars_dropped_lt (by cases i.unit <;> decide)
      _ = i.unit.nanos * 10 ^ i.dropped.length := Nat.mul_comm _ _
      _ ≤ _ := Nat.mul_le_mul_right _ hunits

end Item

/-! ### Durations -/

theorem sum_exactNanos (items : List Item) :
    (items.map Item.exactNanos).sum = (items.map Item.nanos).sum + items.countP (·.FallsShort) := by
  induction items with
  | nil => rfl
  | cons i items ih =>
    simp only [List.map_cons, List.sum_cons, List.countP_cons, ih, Item.exactNanos_eq,
      decide_eq_true_eq]
    omega

/-- A text is `0` or a row of items. It denotes the whole nanoseconds of each of its items, but
lacks one for each item that falls short; only minutes and hours with more than 18 digits do. -/
theorem exactNanos_of_parse {s : String} {d : Duration} (h : parse s = .ok d) :
    (Text.trim s = "0" ∧ d = zero ∨
      ∃ items : List Item, items ≠ [] ∧ (Text.trim s).toList = items.flatMap Item.text) ∧
    ∀ items : List Item, (Text.trim s).toList = items.flatMap Item.text →
      d.nanos + items.countP (·.FallsShort) = (items.map Item.exactNanos).sum ∧
      ∀ i ∈ items, i.exactNanos = i.nanos + (if i.FallsShort then 1 else 0) ∧
        (i.FallsShort → 18 < i.decimals.length ∧ (i.unit = .minute ∨ i.unit = .hour)) := by
  constructor
  · rcases parse_eq_ok_iff.1 h with hzero | ⟨items, hne, htext, -⟩
    · exact .inl hzero
    · exact .inr ⟨items, hne, htext⟩
  · intro items htext
    refine ⟨?_, fun i _ => ⟨i.exactNanos_eq, Item.long_of_fallsShort⟩⟩
    rw [nanos_of_parse h htext, sum_exactNanos]

/-- Digits of a minute that come to a nanosecond only with the last two, which do not count. -/
def shortMinute : Item where
  whole := ['0']
  fraction := some "00000000001666666667".toList
  unit := .minute
  spelling := "m"
  isDigit_whole := by simp
  isDigit_fraction := by simp
  digits := .inl (by decide)
  spelled := by decide

theorem parse_shortMinute : parse "0.00000000001666666667m" = .ok ⟨0⟩ :=
  parse_eq_ok_iff.2
    (.inr ⟨[shortMinute], List.cons_ne_nil _ _, by decide, by decide, by decide⟩)

theorem exactNanos_of_parse_shortMinute :
    parse "0.00000000001666666667m" = .ok ⟨0⟩ ∧
      0 + [shortMinute].countP (·.FallsShort) = ([shortMinute].map Item.exactNanos).sum ∧
      ∀ i ∈ [shortMinute], i.exactNanos = i.nanos + (if i.FallsShort then 1 else 0) ∧
        (i.FallsShort → 18 < i.decimals.length ∧ (i.unit = .minute ∨ i.unit = .hour)) :=
  ⟨parse_shortMinute, (exactNanos_of_parse parse_shortMinute).2 [shortMinute] (by decide)⟩

/-- Digits that do not count may come to a nanosecond. -/
theorem shortMinute_lacks_nanosecond :
    shortMinute.text = "0.00000000001666666667m".toList ∧ shortMinute.exactNanos = 1 ∧
      parse "0.00000000001666666667m" = .ok ⟨0⟩ := by
  have hnanos : shortMinute.nanos = 0 := by decide
  have hshort : shortMinute.FallsShort := by decide
  refine ⟨by decide, ?_, parse_shortMinute⟩
  rw [Item.exactNanos_eq, hnanos, if_pos hshort]

end FleetConfig.Duration
