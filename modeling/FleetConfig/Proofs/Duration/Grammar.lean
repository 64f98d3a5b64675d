import FleetConfig.Duration.Parser
import FleetConfig.Proofs.Number.Digits
import FleetConfig.Proofs.Results
import FleetConfig.Proofs.Text.Cutting
import Mathlib.Algebra.Order.BigOperators.Group.List
import Mathlib.Algebra.Order.Group.Nat
import Mathlib.Data.List.TakeWhile

/-!
# How durations are written

A duration is written as a row of *items*. An item is a number and a spelling of a unit; the number
has digits before or behind its point, or on both sides, and the point may be missing if no digits
follow it. This module says so without reading anything, and shows that exactly these rows are read,
each item as the term that it spells.

## Main definitions

* `Duration.Unit.spellings` — how a unit is spelled.
* `Duration.Item` — a number with its unit, as it is written.
* `Duration.Item.text`, `Duration.Item.nanos` — its characters, and the nanoseconds it counts for.

## Main results

* `Duration.readTerm_append` — an item is read up to what follows it.
* `Duration.exists_item_of_readTerm` — nothing but items is read.
* `Duration.readTerms_flatMap`, `Duration.readTerms_eq_ok_iff` — exactly the rows of items are read.
* `Duration.parse_eq_ok_iff` — which texts denote a duration, and which one.
* `Duration.nanos_of_parse` — there are no two ways to read a text.
-/

namespace FleetConfig.Duration

/-! ### Spellings -/

/-- The spellings of a unit. Microseconds are spelled with the micro sign, too, and with the Greek
letter that looks like it. -/
def Unit.spellings : Unit → List String
  | hour => ["h"]
  | minute => ["m"]
  | second => ["s"]
  | millisecond => ["ms"]
  | microsecond => ["us", "\u00b5s", "\u03bcs"]
  | nanosecond => ["ns"]

/-- Units are read from their spellings. -/
theorem Unit.ofChars?_eq_some_iff {cs : List Char} {u : Unit} :
    Unit.ofChars? cs = some u ↔ ∃ s ∈ u.spellings, s.toList = cs := by
  constructor
  · intro h
    unfold ofChars? at h
    split at h <;> simp at h <;> subst h <;> simp [spellings]
  · rintro ⟨s, hs, rfl⟩
    revert s
    cases u <;> decide

theorem Unit.spelling_ne_nil {u : Unit} : ∀ s ∈ u.spellings, s.toList ≠ [] := by
  cases u <;> decide

theorem Unit.inUnitName_spelling {u : Unit} :
    ∀ s ∈ u.spellings, ∀ c ∈ s.toList, inUnitName c = true := by
  cases u <;> simp [spellings, inUnitName]

/-! ### Items -/

/-- A number with its unit, as it is written. -/
structure Item where
  /-- Digits before the point. -/
  whole : List Char
  /-- Digits behind the point, if there is a point. -/
  fraction : Option (List Char)
  /-- The unit. -/
  unit : Unit
  /-- How the unit is spelled. -/
  spelling : String
  isDigit_whole : ∀ c ∈ whole, c.isDigit = true
  isDigit_fraction : ∀ c ∈ fraction.getD [], c.isDigit = true
  /-- There are digits on one side of the point at least. -/
  digits : whole ≠ [] ∨ fraction.getD [] ≠ []
  spelled : spelling ∈ unit.spellings

namespace Item

/-- The digits behind the point. -/
def decimals (i : Item) : List Char := i.fraction.getD []

/-- The point with the digits behind it, if there is a point. -/
def pointed : Option (List Char) → List Char
  | none => []
  | some ds => '.' :: ds

/-- The characters of an item. -/
def text (i : Item) : List Char := i.whole ++ (pointed i.fraction ++ i.spelling.toList)

/-- The whole nanoseconds of an item: those of the digits before the point, and the whole part of
those of the first 18 digits behind it. -/
def nanos (i : Item) : Nat :=
  let counted := i.decimals.take 18
  Nat.ofDigitChars 10 i.whole 0 * i.unit.nanos +
    Nat.ofDigitChars 10 counted 0 * i.unit.nanos / 10 ^ counted.length

/-- The term that an item spells. -/
def term (i : Item) : Term := ⟨i.whole, i.decimals, i.unit⟩

variable {i : Item}

theorem nanos_term (i : Item) : i.term.nanos = i.nanos := by
  have hcounted : ∀ c ∈ i.decimals.take 18, c.isDigit := fun c hc =>
    i.isDigit_fraction c (List.mem_of_mem_take hc)
  simp only [Term.nanos, term, nanos, fractionDigits, Number.ofDigits_ten i.isDigit_whole,
    Number.ofDigits_ten hcounted]
  rfl

/-- A unit starts with a letter. -/
theorem exists_spelling_eq (i : Item) :
    ∃ c cs, i.spelling.toList = c :: cs ∧ c.isDigit = false ∧ c ≠ '.' := by
  obtain ⟨c, cs, hcs⟩ := List.exists_cons_of_ne_nil (Unit.spelling_ne_nil _ i.spelled)
  have hc := Unit.inUnitName_spelling _ i.spelled c (hcs ▸ List.mem_cons_self)
  exact ⟨c, cs, hcs, by simpa [inUnitName] using hc⟩

/-- The whole part of a number ends at a point or at the unit. -/
theorem isDigit_head_pointed (i : Item) (rest : List Char) :
    ∀ c ∈ (pointed i.fraction ++ (i.spelling.toList ++ rest)).head?, c.isDigit = false := by
  obtain ⟨s, ss, hs, hdigit, -⟩ := i.exists_spelling_eq
  cases i.fraction with
  | none => simpa [pointed, hs] using hdigit
  | some ds => simp [pointed]

/-- The fraction ends at the unit. -/
theorem fractionAndRest_pointed (i : Item) (rest : List Char) :
    fractionAndRest (pointed i.fraction ++ (i.spelling.toList ++ rest)) =
      (i.decimals, i.spelling.toList ++ rest) := by
  obtain ⟨s, ss, hs, hdigit, hpoint⟩ := i.exists_spelling_eq
  have hdigits := i.isDigit_fraction
  rw [decimals]
  cases hfraction : i.fraction with
  | none =>
    rw [pointed, List.nil_append, hs, List.cons_append, fractionAndRest]
    · rfl
    · intro cs heq
      exact hpoint (List.cons.inj heq).1
  | some ds =>
    rw [hfraction, Option.getD_some] at hdigits
    have hhead : ∀ c ∈ (i.spelling.toList ++ rest).head?, c.isDigit = false := by
      simpa [hs] using hdigit
    rw [pointed, List.cons_append, fractionAndRest, Text.takeWhile_run hdigits hhead,
      Text.dropWhile_run hdigits hhead, Option.getD_some]

/-- Items start with a digit or a point. -/
theorem inUnitName_head_text (i : Item) (rest : List Char) :
    ∀ c ∈ (i.text ++ rest).head?, inUnitName c = false := by
  have hwhole := i.isDigit_whole
  have hdigits := i.digits
  rw [text]
  cases h : i.whole with
  | nil =>
    cases hfraction : i.fraction with
    | none => simp [h, hfraction] at hdigits
    | some ds => simp [pointed, inUnitName]
  | cons d ds =>
    rw [h] at hwhole
    have hd := hwhole d List.mem_cons_self
    simp [inUnitName, hd]

/-- An item is two characters at least: a digit and one of its unit. -/
theorem two_le_length_text (i : Item) : 2 ≤ i.text.length := by
  have hspelling := List.length_pos_of_ne_nil (Unit.spelling_ne_nil _ i.spelled)
  have hnumber : 0 < i.whole.length + (pointed i.fraction).length := by
    rcases i.digits with h | h
    · have := List.length_pos_of_ne_nil h
      omega
    · cases hfraction : i.fraction with
      | none => simp [hfraction] at h
      | some ds =>
        rw [pointed, List.length_cons]
        omega
  rw [text, List.length_append, List.length_append]
  omega

end Item

/-! ### Reading items -/

/-- An item is read up to what follows it, unless its whole part is too large. -/
theorem readTerm_append (i : Item) {rest : List Char}
    (hrest : ∀ c ∈ rest.head?, inUnitName c = false) :
    readTerm (i.text ++ rest) =
      if maxWhole < Number.ofDigits 10 i.whole then .error .malformed
      else .ok (i.term, rest) := by
  have htext : i.text ++ rest =
      i.whole ++ (Item.pointed i.fraction ++ (i.spelling.toList ++ rest)) := by
    simp only [Item.text, List.append_assoc]
  have hwhole := Text.takeWhile_run i.isDigit_whole (i.isDigit_head_pointed rest)
  have hbehind := Text.dropWhile_run i.isDigit_whole (i.isDigit_head_pointed rest)
  have hname := Unit.inUnitName_spelling _ i.spelled
  have hunit : Unit.ofChars? i.spelling.toList = some i.unit :=
    Unit.ofChars?_eq_some_iff.2 ⟨_, i.spelled, rfl⟩
  have hdigits : (i.whole.isEmpty && i.decimals.isEmpty) = false := by
    rcases i.digits with h | h
    · simp [h]
    · simp [Item.decimals, h]
  simp only [readTerm, htext, hwhole, hbehind, Item.fractionAndRest_pointed, hdigits,
    Text.takeWhile_run hname hrest, Text.dropWhile_run hname hrest, hunit, Item.term,
    Bool.false_eq_true, if_false]

/-- What stands behind the whole part is a point with digits, or nothing, and what follows. -/
theorem exists_pointed (cs : List Char) :
    ∃ fraction : Option (List Char), fraction.getD [] = (fractionAndRest cs).1 ∧
      (∀ c ∈ fraction.getD [], c.isDigit = true) ∧
      cs = Item.pointed fraction ++ (fractionAndRest cs).2 := by
  unfold fractionAndRest
  split
  · rename_i cs
    refine ⟨some (cs.takeWhile Char.isDigit), rfl, fun c => List.mem_takeWhile_imp, ?_⟩
    rw [Item.pointed, List.cons_append, List.takeWhile_append_dropWhile]
  · exact ⟨none, rfl, nofun, rfl⟩

/-- Nothing but items is read. -/
theorem exists_item_of_readTerm {cs rest : List Char} {t : Term}
    (h : readTerm cs = .ok (t, rest)) :
    ∃ i : Item, cs = i.text ++ rest ∧ i.term = t ∧ Number.ofDigits 10 i.whole ≤ maxWhole := by
  obtain ⟨fraction, hfraction, hdigits, hcs⟩ := exists_pointed (cs.dropWhile Char.isDigit)
  simp only [readTerm] at h
  split at h
  · cases h
  · rename_i hsome
    split at h
    · cases h
    · rename_i unit hunit
      split at h
      · cases h
      · rename_i hwhole
        obtain ⟨spelling, hspelling, hname⟩ := Unit.ofChars?_eq_some_iff.1 hunit
        rw [← hfraction] at h hsome
        obtain ⟨rfl, rfl⟩ := Prod.mk.inj (Except.ok.inj h)
        rw [Bool.and_eq_true, List.isEmpty_iff, List.isEmpty_iff, not_and_or] at hsome
        let i : Item := ⟨cs.takeWhile Char.isDigit, fraction, unit, spelling,
          fun c => List.mem_takeWhile_imp, hdigits, hsome, hspelling⟩
        refine ⟨i, ?_, rfl, Nat.not_lt.1 hwhole⟩
        show cs = (cs.takeWhile Char.isDigit ++ (Item.pointed fraction ++ spelling.toList)) ++ _
        rw [List.append_assoc, List.append_assoc, hname, List.takeWhile_append_dropWhile, ← hcs,
          List.takeWhile_append_dropWhile]

/-- Terms are read one by one. -/
theorem readTerms_of_readTerm {cs rest : List Char} {t : Term}
    (h : readTerm cs = .ok (t, rest)) : readTerms cs = (readTerms rest).map (t :: ·) := by
  cases cs with
  | nil => cases h
  | cons c cs =>
    rw [readTerms]
    split
    · rename_i heq
      rw [h] at heq
      cases heq
    · rename_i heq
      rw [h] at heq
      cases heq
      rfl

/-- The first fault ends the reading. -/
theorem readTerms_of_fault {cs : List Char} {fault : Fault} (hcs : cs ≠ [])
    (h : readTerm cs = .error fault) : readTerms cs = .error fault := by
  obtain ⟨c, cs, rfl⟩ := List.exists_cons_of_ne_nil hcs
  rw [readTerms]
  split
  · rename_i heq
    rw [h] at heq
    cases heq
    rfl
  · rename_i heq
    rw [h] at heq
    cases heq

theorem inUnitName_head_flatMap (items : List Item) :
    ∀ c ∈ (items.flatMap Item.text).head?, inUnitName c = false := by
  cases items with
  | nil => exact nofun
  | cons i items => exact i.inUnitName_head_text _

/-- A row of items is read as the terms that they spell, unless a whole part is too large. -/
theorem readTerms_flatMap (items : List Item) :
    readTerms (items.flatMap Item.text) =
      if ∀ i ∈ items, Number.ofDigits 10 i.whole ≤ maxWhole then .ok (items.map Item.term)
      else .error .malformed := by
  induction items with
  | nil =>
    rw [if_pos nofun, List.flatMap_nil, readTerms]
    rfl
  | cons i items ih =>
    have hread := readTerm_append i (inUnitName_head_flatMap items)
    simp only [List.flatMap_cons, List.forall_mem_cons]
    by_cases hi : Number.ofDigits 10 i.whole ≤ maxWhole
    · rw [if_neg (Nat.not_lt.2 hi)] at hread
      rw [readTerms_of_readTerm hread, ih]
      by_cases hitems : ∀ i ∈ items, Number.ofDigits 10 i.whole ≤ maxWhole
      · rw [if_pos hitems, if_pos ⟨hi, hitems⟩]
        rfl
      · rw [if_neg hitems, if_neg fun h => hitems h.2]
        rfl
    · have hne : i.text ++ items.flatMap Item.text ≠ [] := by
        have hlength := i.two_le_length_text
        rw [Ne, List.append_eq_nil_iff, ← List.length_eq_zero_iff]
        omega
      rw [if_pos (Nat.not_le.1 hi)] at hread
      rw [if_neg fun h => hi h.1, readTerms_of_fault hne hread]

/-- Exactly the rows of items are read whose whole parts are not too large. -/
theorem readTerms_eq_ok_iff {cs : List Char} {ts : List Term} :
    readTerms cs = .ok ts ↔ ∃ items : List Item, cs = items.flatMap Item.text ∧
      ts = items.map Item.term ∧ ∀ i ∈ items, Number.ofDigits 10 i.whole ≤ maxWhole := by
  constructor
  · intro h
    fun_induction readTerms cs generalizing ts with
    | case1 =>
      cases h
      exact ⟨[], rfl, rfl, nofun⟩
    | case2 => cases h
    | case3 c cs t rest hread ih =>
      obtain ⟨ts, hts, rfl⟩ := map_eq_ok.1 h
      obtain ⟨items, rfl, rfl, hitems⟩ := ih hts
      obtain ⟨i, htext, rfl, hi⟩ := exists_item_of_readTerm hread
      exact ⟨i :: items, htext, rfl, List.forall_mem_cons.2 ⟨hi, hitems⟩⟩
  · rintro ⟨items, rfl, rfl, hitems⟩
    rw [readTerms_flatMap, if_pos hitems]

/-! ### Durations -/

theorem totalNanos_map_term (items : List Item) :
    totalNanos (items.map Item.term) = (items.map Item.nanos).sum := by
  induction items with
  | nil => rfl
  | cons i items ih => simp [totalNanos, Item.nanos_term, ih]

/-- All other texts denote what their terms come to. -/
theorem parseTrimmed_eq {cs : List Char} (hempty : cs ≠ []) (hzero : cs ≠ ['0']) :
    parseTrimmed cs = readTerms cs >>= fun ts =>
      if maxNanos < totalNanos ts then .error .outOfRange else .ok ⟨totalNanos ts⟩ := by
  rw [parseTrimmed]
  · exact hempty
  · exact hzero

/-- A row of items is longer than a text that denotes nothing. -/
theorem two_le_length_flatMap {items : List Item} (h : items ≠ []) :
    2 ≤ (items.flatMap Item.text).length := by
  obtain ⟨i, items, rfl⟩ := List.exists_cons_of_ne_nil h
  have hi := i.two_le_length_text
  rw [List.flatMap_cons, List.length_append]
  omega

theorem flatMap_text_ne {items : List Item} (h : items ≠ []) :
    items.flatMap Item.text ≠ [] ∧ ∀ c, items.flatMap Item.text ≠ [c] := by
  have hlength := two_le_length_flatMap h
  exact ⟨fun heq => by simp [heq] at hlength, fun c heq => by simp [heq] at hlength⟩

/-- No whole part of a row is too large if the row is in range. -/
theorem ofDigits_whole_le {items : List Item} (h : (items.map Item.nanos).sum ≤ maxNanos) :
    ∀ i ∈ items, Number.ofDigits 10 i.whole ≤ maxWhole := by
  intro i hi
  have hpos : 0 < i.unit.nanos := by cases i.unit <;> decide
  have hsum : i.nanos ≤ (items.map Item.nanos).sum := List.le_sum_of_mem (List.mem_map_of_mem hi)
  have hrange : maxNanos ≤ maxWhole := by decide
  rw [Number.ofDigits_ten i.isDigit_whole]
  calc Nat.ofDigitChars 10 i.whole 0
      ≤ Nat.ofDigitChars 10 i.whole 0 * i.unit.nanos := Nat.le_mul_of_pos_right _ hpos
    _ ≤ i.nanos := Nat.le_add_right _ _
    _ ≤ maxWhole := by omega

/-- A trimmed text denotes a duration if it is `0`, or a row of items in range. -/
theorem parseTrimmed_eq_ok_iff {cs : List Char} {d : Duration} :
    parseTrimmed cs = .ok d ↔ cs = ['0'] ∧ d = zero ∨
      ∃ items : List Item, items ≠ [] ∧ cs = items.flatMap Item.text ∧
        (items.map Item.nanos).sum ≤ maxNanos ∧ d = ⟨(items.map Item.nanos).sum⟩ := by
  constructor
  · intro h
    unfold parseTrimmed at h
    split at h
    · cases h
    · cases h
      exact .inl ⟨rfl, rfl⟩
    · rename_i hne _
      obtain ⟨ts, hts, h⟩ := bind_eq_ok.1 h
      obtain ⟨items, rfl, rfl, -⟩ := readTerms_eq_ok_iff.1 hts
      change (if maxNanos < totalNanos _ then _ else _) = _ at h
      rw [totalNanos_map_term] at h
      split at h
      · cases h
      · rename_i hfits
        cases h
        exact .inr ⟨items, fun hnil => hne (hnil ▸ rfl), rfl, Nat.not_lt.1 hfits, rfl⟩
  · rintro (⟨rfl, rfl⟩ | ⟨items, hne, rfl, hfits, rfl⟩)
    · rfl
    · rw [parseTrimmed_eq (flatMap_text_ne hne).1 ((flatMap_text_ne hne).2 _),
        readTerms_eq_ok_iff.2 ⟨items, rfl, rfl, ofDigits_whole_le hfits⟩]
      show (if maxNanos < totalNanos _ then _ else _) = _
      rw [totalNanos_map_term, if_neg (Nat.not_lt.2 hfits)]

/-- A text denotes a duration if it is `0` when trimmed, or a row of items in range. -/
theorem parse_eq_ok_iff {s : String} {d : Duration} :
    parse s = .ok d ↔ Text.trim s = "0" ∧ d = zero ∨
      ∃ items : List Item, items ≠ [] ∧ (Text.trim s).toList = items.flatMap Item.text ∧
        (items.map Item.nanos).sum ≤ maxNanos ∧ d = ⟨(items.map Item.nanos).sum⟩ := by
  have hchars : (Text.trim s).toList = Text.trimList s.toList := String.toList_ofList
  have hzero : Text.trim s = "0" ↔ Text.trimList s.toList = ['0'] := by
    rw [← String.toList_inj, hchars]
    rfl
  rw [parse, parseTrimmed_eq_ok_iff, hzero, hchars]

/-- A text is a row of items in one way only, as far as the terms matter that they spell. -/
theorem nanos_of_parse {s : String} {d : Duration} {items : List Item} (h : parse s = .ok d)
    (htext : (Text.trim s).toList = items.flatMap Item.text) :
    d.nanos = (items.map Item.nanos).sum := by
  rcases parse_eq_ok_iff.1 h with ⟨hzero, -⟩ | ⟨items', -, htext', hrange, rfl⟩
  · by_cases hne : items = []
    · rw [hzero, hne] at htext
      cases htext
    · exact absurd (htext.symm.trans (hzero ▸ rfl)) ((flatMap_text_ne hne).2 '0')
  · have hread := readTerms_flatMap items'
    rw [if_pos (ofDigits_whole_le hrange), ← htext', htext, readTerms_flatMap] at hread
    split at hread
    · rw [← totalNanos_map_term, ← totalNanos_map_term, Except.ok.inj hread]
    · cases hread

end FleetConfig.Duration
