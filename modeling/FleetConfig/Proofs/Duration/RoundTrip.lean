import FleetConfig.Proofs.Duration.Grammar
import FleetConfig.Proofs.Text.Trimming

/-!
# Durations read back

The canonical text of a duration is a single item without a fraction. Reading a text of that shape
gives the count times the unit, so the canonical text denotes its duration.

The canonical text counts the largest unit that divides a duration. Any other unit that divides it
is smaller: there are at least as many of it, and its suffix is no shorter. So no exact text with a
single unit is shorter than the canonical one.

## Main definitions

* `Duration.Item.count` — a count with a unit, as an item.

## Main results

* `Duration.parse_count` — what a count with a unit denotes.
* `Duration.parse_text_eq`, `Duration.parse_text` — what the canonical text denotes.
* `Duration.nanos_le_of_parse` — no text denotes a longer duration than the longest.
* `Duration.nanos_le_largestUnit` — no unit that divides a duration is larger.
* `Duration.length_text_le` — no exact text with a single unit is shorter.
* `Duration.text_denotes_and_is_shortest` — what the text of a duration made from a count of
  nanoseconds or seconds denotes, and that no such text is shorter.
-/

namespace FleetConfig.Duration

/-! ### Units -/

/-- A unit is spelled with its suffix. -/
theorem Unit.suffix_mem_spellings (u : Unit) : u.suffix ∈ u.spellings := by
  cases u <;> decide

theorem Unit.isBlank_suffix (u : Unit) : ∀ c ∈ u.suffix.toList, Text.isBlank c = false := by
  cases u <;> simp [suffix, Text.isBlank]

/-- The largest unit of a duration divides it. -/
theorem largestUnit_dvd (d : Duration) : d.largestUnit.nanos ∣ d.nanos := by
  cases h : Unit.all.find? fun u => d.nanos % u.nanos == 0 with
  | none =>
    have hns := List.find?_eq_none.1 h .nanosecond (by decide)
    exact absurd (beq_iff_eq.2 (Nat.mod_one d.nanos)) hns
  | some u =>
    have hu := List.find?_some h
    rw [largestUnit, h]
    exact Nat.dvd_of_mod_eq_zero (beq_iff_eq.1 hu)

/-! ### Counts -/

/-- A count with a unit, as it is written. -/
def Item.count (n : Nat) (u : Unit) : Item where
  whole := Nat.toDigits 10 n
  fraction := none
  unit := u
  spelling := u.suffix
  isDigit_whole := Number.isDigit_toDigits n
  isDigit_fraction := nofun
  digits := .inl Nat.toDigits_ne_nil
  spelled := u.suffix_mem_spellings

theorem Item.text_count (n : Nat) (u : Unit) :
    (count n u).text = (toString n ++ u.suffix).toList := by
  rw [String.toList_append, Nat.toString_eq_repr, Nat.toList_repr]
  rfl

theorem Item.nanos_count (n : Nat) (u : Unit) : (count n u).nanos = n * u.nanos := by
  simp [nanos, count, decimals]

theorem isBlank_of_isDigit {c : Char} (h : c.isDigit = true) : Text.isBlank c = false := by
  rw [Number.isDigit_iff] at h
  simp only [Text.isBlank, Bool.or_eq_false_iff, Bool.and_eq_false_iff, beq_eq_false_iff_ne,
    decide_eq_false_iff_not]
  omega

/-- A count starts with a digit and a unit ends with a letter. -/
theorem trimList_count (n : Nat) (u : Unit) :
    Text.trimList (Item.count n u).text = (Item.count n u).text := by
  have hsuffix := Unit.spelling_ne_nil _ u.suffix_mem_spellings
  obtain ⟨d, ds, hds⟩ := List.exists_cons_of_ne_nil (Nat.toDigits_ne_nil (n := n) (b := 10))
  have htext : (Item.count n u).text = Nat.toDigits 10 n ++ u.suffix.toList := rfl
  rw [htext]
  refine Text.trimList_of_ends (fun x hx => ?_) fun x hx => ?_
  · rw [hds, List.cons_append, List.head?_cons, Option.mem_some_iff] at hx
    exact isBlank_of_isDigit
      (Number.isDigit_toDigits n x (by rw [hds, hx]; exact List.mem_cons_self))
  · rw [List.getLast?_append, List.getLast?_eq_some_getLast hsuffix, Option.some_or,
      Option.mem_some_iff] at hx
    exact u.isBlank_suffix x (hx ▸ List.getLast_mem hsuffix)

/-- What a count with a unit denotes. -/
theorem parse_count {n : Nat} (hn : n ≤ maxWhole) (u : Unit) :
    parse (toString n ++ u.suffix) =
      if maxNanos < n * u.nanos then .error .outOfRange else .ok ⟨n * u.nanos⟩ := by
  have hrow : [Item.count n u].flatMap Item.text = (Item.count n u).text := List.append_nil _
  have hfits : ∀ i ∈ [Item.count n u], Number.ofDigits 10 i.whole ≤ maxWhole := by
    rw [List.forall_mem_singleton]
    exact (Number.ofDigits_toDigits n).trans_le hn
  obtain ⟨hempty, hlong⟩ := flatMap_text_ne (List.cons_ne_nil (Item.count n u) [])
  rw [parse, ← Item.text_count, trimList_count, ← hrow, parseTrimmed_eq hempty (hlong '0'),
    readTerms_eq_ok_iff.2 ⟨_, rfl, rfl, hfits⟩]
  show (if maxNanos < totalNanos _ then _ else _) = _
  rw [totalNanos_map_term, List.map_singleton, List.sum_singleton, Item.nanos_count]

/-! ### Canonical texts -/

/-- What the canonical text denotes: its duration, if a text can denote that at all. -/
theorem parse_text_eq {d : Duration} (h : d.nanos ≤ maxWhole) :
    parse d.text = if maxNanos < d.nanos then .error .outOfRange else .ok d := by
  by_cases hz : d.isZero
  · have hd : d = ⟨0 * Unit.second.nanos⟩ := by
      cases d
      simpa [isZero, Nat.zero_mul] using hz
    rw [text, if_pos hz, hd]
    exact parse_count (n := 0) (by decide) .second
  · have hmul : d.nanos / d.largestUnit.nanos * d.largestUnit.nanos = d.nanos :=
      Nat.div_mul_cancel d.largestUnit_dvd
    have hcount : d.nanos / d.largestUnit.nanos ≤ maxWhole := (Nat.div_le_self _ _).trans h
    rw [text, if_neg hz, parse_count hcount, hmul]

/-- The canonical text denotes its duration. -/
theorem parse_text (d : Duration) (h : d.nanos ≤ maxNanos) : parse d.text = .ok d :=
  (parse_text_eq (h.trans (by decide))).trans (if_neg (Nat.not_lt.2 h))

/-- No text denotes a longer duration than the longest. -/
theorem nanos_le_of_parse {s : String} {d : Duration} (h : parse s = .ok d) :
    d.nanos ≤ maxNanos := by
  rcases parse_eq_ok_iff.1 h with ⟨-, rfl⟩ | ⟨items, -, -, hrange, rfl⟩
  · exact Nat.zero_le _
  · exact hrange

/-! ### Units by size -/

theorem Unit.mem_all (u : Unit) : u ∈ Unit.all := by cases u <;> decide

theorem Unit.pairwise_all : Unit.all.Pairwise fun u v => v.nanos < u.nanos := by decide

/-- A larger unit has no longer suffix. -/
theorem Unit.length_suffix_le {u v : Unit} (h : u.nanos ≤ v.nanos) :
    v.suffix.length ≤ u.suffix.length := by
  revert h
  cases u <;> cases v <;> decide

/-- No unit that divides a duration is larger than the unit of its text. -/
theorem nanos_le_largestUnit {d : Duration} {u : Unit} (h : u.nanos ∣ d.nanos) :
    u.nanos ≤ d.largestUnit.nanos := by
  have hdivides : (d.nanos % u.nanos == 0) = true := beq_iff_eq.2 (Nat.mod_eq_zero_of_dvd h)
  cases hfind : Unit.all.find? fun u => d.nanos % u.nanos == 0 with
  | none => exact absurd hdivides (List.find?_eq_none.1 hfind u u.mem_all)
  | some v =>
    -- Units before the first that divides the duration do not divide it; all others are smaller.
    obtain ⟨-, before, after, hall, hbefore⟩ := List.find?_eq_some_iff_append.1 hfind
    have hordered := hall ▸ Unit.pairwise_all
    have hsmaller := (List.pairwise_cons.1 (List.pairwise_append.1 hordered).2.1).1
    rw [largestUnit, hfind, Option.getD_some]
    rcases List.mem_append.1 (hall ▸ u.mem_all) with hu | hu
    · have hnot := hbefore u hu
      rw [hdivides] at hnot
      cases hnot
    · rcases List.mem_cons.1 hu with rfl | hu
      · exact Nat.le_refl _
      · exact (hsmaller u hu).le

/-! ### Exact texts -/

/-- A count with a unit is two characters at least. -/
theorem two_le_length_count (n : Nat) (u : Unit) : 2 ≤ (toString n ++ u.suffix).length := by
  have hcount : (toString 0).length ≤ (toString n).length :=
    Number.length_toString_le (Nat.zero_le n)
  have hsuffix : 1 ≤ u.suffix.length := by cases u <;> decide
  rw [String.length_append]
  exact Nat.add_le_add hcount hsuffix

/-- No exact text with a single unit is shorter than the canonical one. -/
theorem length_text_le {d : Duration} {k : Nat} {u : Unit} (h : k * u.nanos = d.nanos) :
    d.text.length ≤ (toString k ++ u.suffix).length := by
  by_cases hz : d.isZero
  · rw [text, if_pos hz]
    exact two_le_length_count k u
  · have hlarger : u.nanos ≤ d.largestUnit.nanos :=
      nanos_le_largestUnit (h ▸ Nat.dvd_mul_left u.nanos k)
    have hpos : 0 < u.nanos := by cases u <;> decide
    have hcount : d.nanos / d.largestUnit.nanos ≤ k :=
      calc d.nanos / d.largestUnit.nanos ≤ d.nanos / u.nanos := Nat.div_le_div_left hlarger hpos
        _ = k := by rw [← h, Nat.mul_div_cancel k hpos]
    rw [text, if_neg hz, String.length_append, String.length_append]
    exact Nat.add_le_add (Number.length_toString_le hcount) (Unit.length_suffix_le hlarger)

/-- The text of a duration made from a count of nanoseconds or seconds in 64 bits denotes that
duration, or is out of range exactly if a text can denote no duration so long. No exact text with a
single unit is shorter. -/
theorem text_denotes_and_is_shortest (n : UInt64) {d : Duration}
    (hd : d = .ofNanos n.toNat ∨ d = .ofSeconds n.toNat) :
    parse d.text = (if d.nanos ≤ maxNanos then .ok d else .error .outOfRange) ∧
      ∀ (k : Nat) (u : Unit), k * u.nanos = d.nanos →
        d.text.length ≤ (toString k ++ u.suffix).length := by
  have hn : n.toNat < 2 ^ 64 := n.toNat_lt
  have hwhole : d.nanos ≤ maxWhole := by
    rcases hd with rfl | rfl
    · simp only [ofNanos, maxWhole]
      omega
    · simp only [ofSeconds, Unit.nanos, maxWhole]
      omega
  refine ⟨?_, fun k u => length_text_le⟩
  rw [parse_text_eq hwhole]
  by_cases hfits : d.nanos ≤ maxNanos
  · rw [if_neg (Nat.not_lt.2 hfits), if_pos hfits]
  · rw [if_pos (Nat.not_le.1 hfits), if_neg hfits]

/-- The least count of seconds that no text denotes. -/
theorem text_denotes_and_is_shortest_out_of_range :
    parse "18446744074s" = .error .outOfRange ∧
      ∀ (k : Nat) (u : Unit), k * u.nanos = 18446744074000000000 →
        12 ≤ (toString k ++ u.suffix).length :=
  text_denotes_and_is_shortest 18446744074 (d := .ofSeconds 18446744074) (.inr rfl)

end FleetConfig.Duration
