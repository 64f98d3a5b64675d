import FleetConfig.Proofs.Duration.Grammar
import FleetConfig.Proofs.Duration.Positions

/-!
# Reading in place never stops

A machine that reads a duration in place does the same as a reader of its characters, step by step:
it stands at a position between characters, and its word holds the nanoseconds so far, or the
largest word if there are more. So it cuts the text between characters only, its products fit, and
it ends with what the text denotes.

## Main definitions

* `Duration.Scan.clamp` — the word that holds a number, or the largest word.

## Main results

* `Duration.Scan.step_cases` — one step reads one term.
* `Duration.Scan.run_eq` — a whole run reads all terms.
* `Duration.run_scan` — a machine is never stopped, and reads what the text denotes.
* `Duration.parse_exact` — which texts denote a duration, which one, and that a machine reads it.
-/

namespace FleetConfig.Duration

namespace Scan

variable {n : Nat}

/-! ### Words -/

/-- The word that holds a number, or the largest word if none does. -/
def clamp (n : Nat) : Word := BitVec.ofNat 128 (min n maxWhole)

theorem toNat_clamp (n : Nat) : (clamp n).toNat = min n maxWhole := by
  rw [clamp, BitVec.toNat_ofNat]
  exact Nat.mod_eq_of_lt (Nat.lt_of_le_of_lt (Nat.min_le_right _ _) (by decide))

theorem plus_clamp (m n : Nat) : (clamp m).plus (clamp n) = clamp (m + n) := by
  apply BitVec.eq_of_toNat_eq
  have hoverflow : (clamp m).uaddOverflow (clamp n) =
      decide (maxWhole < min m maxWhole + min n maxWhole) := by
    rw [BitVec.uaddOverflow, toNat_clamp, toNat_clamp]
    rfl
  rw [Word.plus, hoverflow, toNat_clamp]
  by_cases h : maxWhole < min m maxWhole + min n maxWhole
  · rw [if_pos (decide_eq_true h), Nat.min_eq_right (by omega)]
    decide
  · rw [if_neg (by simpa using h), BitVec.toNat_add, toNat_clamp, toNat_clamp,
      Nat.mod_eq_of_lt (Nat.lt_of_le_of_lt (Nat.not_lt.1 h) (by decide))]
    omega

theorem umulOverflow_clamp {m n : Nat} (hm : m ≤ maxWhole) (hn : n ≤ maxWhole) :
    (clamp m).umulOverflow (clamp n) = decide (maxWhole < m * n) := by
  rw [BitVec.umulOverflow, toNat_clamp, toNat_clamp, Nat.min_eq_left hm, Nat.min_eq_left hn]
  rfl

theorem toNat_mul_clamp {m n : Nat} (h : m * n ≤ maxWhole) (hm : m ≤ maxWhole)
    (hn : n ≤ maxWhole) : (clamp m * clamp n).toNat = m * n := by
  rw [BitVec.toNat_mul, toNat_clamp, toNat_clamp, Nat.min_eq_left hm, Nat.min_eq_left hn,
    Nat.mod_eq_of_lt (Nat.lt_of_le_of_lt h (by decide))]

theorem times_clamp {m n : Nat} (hm : m ≤ maxWhole) (hn : n ≤ maxWhole) :
    (clamp m).times (clamp n) = clamp (m * n) := by
  apply BitVec.eq_of_toNat_eq
  rw [Word.times, umulOverflow_clamp hm hn, toNat_clamp]
  by_cases h : maxWhole < m * n
  · rw [if_pos (decide_eq_true h), Nat.min_eq_right (Nat.le_of_lt h)]
    decide
  · have hfits := Nat.not_lt.1 h
    rw [if_neg (by simpa using h), toNat_mul_clamp hfits hm hn, Nat.min_eq_left hfits]

/-- A product that fits is no trap. -/
theorem product_clamp {m n : Nat} (hm : m ≤ maxWhole) (hn : n ≤ maxWhole)
    (h : m * n ≤ maxWhole) : (clamp m).product (clamp n) = .ok (clamp (m * n)) := by
  rw [Word.product, umulOverflow_clamp hm hn, if_neg (by simpa using h), Except.ok.injEq]
  apply BitVec.eq_of_toNat_eq
  rw [toNat_mul_clamp h hm hn, toNat_clamp, Nat.min_eq_left h]

theorem div_clamp {m n : Nat} (hm : m ≤ maxWhole) (hn : n ≤ maxWhole) :
    clamp m / clamp n = clamp (m / n) := by
  apply BitVec.eq_of_toNat_eq
  rw [BitVec.toNat_udiv, toNat_clamp, toNat_clamp, toNat_clamp, Nat.min_eq_left hm,
    Nat.min_eq_left hn, Nat.min_eq_left ((Nat.div_le_self m n).trans hm)]

theorem powerOfTen_eq (h : 10 ^ n ≤ maxWhole) : Word.powerOfTen n = .ok (clamp (10 ^ n)) := by
  induction n with
  | zero => rfl
  | succ n ih =>
    have hsmaller : 10 ^ n ≤ maxWhole := (Nat.pow_le_pow_right (by decide) (Nat.le_succ n)).trans h
    rw [Word.powerOfTen, ih hsmaller]
    exact product_clamp hsmaller (by decide) h

theorem ofDigits?_eq {ds : List Char} (hds : ds ≠ []) :
    Word.ofDigits? (String.ofList ds) =
      if maxWhole < Number.ofDigits 10 ds then none else some (clamp (Number.ofDigits 10 ds)) := by
  rw [Word.ofDigits?, isEmpty_ofList_of_ne_nil hds, Bool.false_or, String.toList_ofList]
  by_cases h : maxWhole < Number.ofDigits 10 ds
  · rw [if_pos h, if_pos (by simpa using h)]
  · rw [if_neg h, if_neg (by simpa using h), clamp, Nat.min_eq_left (Nat.not_lt.1 h)]

theorem ofUnit_eq (u : Unit) : Word.ofUnit u = clamp u.nanos := by
  cases u <;> rfl

/-- The hour is the largest unit. -/
theorem nanos_le_hour (u : Unit) : u.nanos ≤ Unit.hour.nanos := by
  cases u <;> decide

/-- A unit fits a word. -/
theorem nanos_le_maxWhole (u : Unit) : u.nanos ≤ maxWhole :=
  (nanos_le_hour u).trans (by decide)

/-! ### Results -/

section Results

variable {α β : Type} {x : Work α} {f : α → Work β}

theorem Work.run_bind_of_ok {a : α} (h : x.run = .ok (.ok a)) : (x >>= f).run = (f a).run := by
  rw [ExceptT.run_bind, h]
  rfl

theorem Work.run_lift_bind {y : Except Trap α} {a : α} (h : y = .ok a) :
    ((liftM y : Work α) >>= f).run = (f a).run :=
  run_bind_of_ok (lift_eq_ok.2 h)

theorem Work.run_bind_of_fault {fault : Fault} (h : x.run = .ok (.error fault)) :
    (x >>= f).run = .ok (.error fault) := by
  rw [ExceptT.run_bind, h]
  rfl

end Results

/-! ### Numbers -/

/-- Digits are as many bytes. -/
theorem position_digits {ds : List Char} (h : ∀ c ∈ ds, c.isDigit = true) :
    position ds = ds.length := by
  induction ds with
  | nil => rfl
  | cons d ds ih =>
    obtain ⟨hd, hds⟩ := List.forall_mem_cons.1 h
    rw [Number.isDigit_iff] at hd
    rw [position, encode, List.flatMap_cons, utf8EncodeChar_of_lt (by omega), List.length_append,
      ← encode, ← position, ih hds, List.length_cons, List.length_nil, List.length_cons,
      Nat.zero_add, Nat.add_comm]

theorem run_addWhole (n : Nat) (ds : List Char) (u : Unit) :
    (addWhole (clamp n) (String.ofList ds) u).run =
      .ok (if maxWhole < Number.ofDigits 10 ds then .error .malformed
        else .ok (clamp (n + Number.ofDigits 10 ds * u.nanos))) := by
  by_cases hds : ds = []
  · subst hds
    rw [Number.ofDigits_nil, if_neg (Nat.not_lt_zero _), Nat.zero_mul, Nat.add_zero]
    rfl
  · rw [addWhole, isEmpty_ofList_of_ne_nil hds, if_neg Bool.false_ne_true, ofDigits?_eq hds]
    by_cases h : maxWhole < Number.ofDigits 10 ds
    · rw [if_pos h, if_pos h]
      rfl
    · rw [if_neg h, if_neg h, ← plus_clamp, ← times_clamp (Nat.not_lt.1 h) (nanos_le_maxWhole u),
        ofUnit_eq]
      rfl

/-- So few digits denote a number that fits a word, and so does its product with a unit. -/
theorem digits_fit {ds : List Char} (hds : ∀ c ∈ ds, c.isDigit = true)
    (hlength : ds.length ≤ fractionDigits) (u : Unit) :
    10 ^ ds.length ≤ maxWhole ∧ Number.ofDigits 10 ds ≤ maxWhole ∧
      Number.ofDigits 10 ds * u.nanos ≤ maxWhole := by
  have hscale : 10 ^ ds.length ≤ 10 ^ fractionDigits := Nat.pow_le_pow_right (by decide) hlength
  have hnumber : Number.ofDigits 10 ds ≤ 10 ^ fractionDigits :=
    (Number.ofDigits_ten_lt hds).le.trans hscale
  have hproduct := Nat.mul_le_mul hnumber (nanos_le_hour u)
  exact ⟨hscale.trans (by decide), hnumber.trans (by decide), hproduct.trans (by decide)⟩

/-- The digits that count are cut out. -/
theorem cut_counted {ds : List Char} (hds : ∀ c ∈ ds, c.isDigit = true) :
    cut (String.ofList ds) 0 (min (String.ofList ds).utf8ByteSize fractionDigits) =
      .ok (String.ofList (ds.take fractionDigits)) := by
  have hcounted : ∀ c ∈ ds.take fractionDigits, c.isDigit = true := fun c hc =>
    hds c (List.mem_of_mem_take hc)
  have hstop : min (String.ofList ds).utf8ByteSize fractionDigits =
      position (ds.take fractionDigits) := by
    rw [utf8ByteSize_ofList, position_digits hds, position_digits hcounted, List.length_take,
      Nat.min_comm]
  have hcut := cut_eq [] (ds.take fractionDigits) (ds.drop fractionDigits)
  rw [List.take_append_drop] at hcut
  rw [hstop]
  exact hcut

/-- The digits that count are so few that no product is too large. -/
theorem run_addFraction (n : Nat) {ds : List Char} (hds : ∀ c ∈ ds, c.isDigit = true) (u : Unit) :
    (addFraction (clamp n) (String.ofList ds) u).run =
      .ok (.ok (clamp (n + Number.ofDigits 10 (ds.take fractionDigits) * u.nanos /
        10 ^ (ds.take fractionDigits).length))) := by
  by_cases hnil : ds = []
  · subst hnil
    rw [List.take_nil, Number.ofDigits_nil, Nat.zero_mul, Nat.zero_div, Nat.add_zero]
    rfl
  · have hcounted : ∀ c ∈ ds.take fractionDigits, c.isDigit = true := fun c hc =>
      hds c (List.mem_of_mem_take hc)
    have hne : ds.take fractionDigits ≠ [] := by simpa [fractionDigits] using hnil
    obtain ⟨hscale, hnumber, hproduct⟩ :=
      digits_fit hcounted (List.length_take_le _ _) u
    rw [addFraction, isEmpty_ofList_of_ne_nil hnil, if_neg Bool.false_ne_true,
      Work.run_lift_bind (cut_counted hds), ofDigits?_eq hne, if_neg (Nat.not_lt.2 hnumber),
      utf8ByteSize_ofList, position_digits hcounted]
    simp only
    rw [Work.run_lift_bind (powerOfTen_eq hscale), ofUnit_eq,
      Work.run_lift_bind (product_clamp hnumber (nanos_le_maxWhole u) hproduct),
      div_clamp hproduct hscale, plus_clamp]
    rfl

/-! ### Terms -/

/-- A machine finds the fraction that follows, and gets behind it. -/
theorem run_readFraction (front rest : List Char) :
    ∃ back, front ++ rest = back ++ (fractionAndRest rest).2 ∧
      (readFraction (String.ofList (front ++ rest)) (position front)).run =
        .ok (.ok (String.ofList (fractionAndRest rest).1, position back)) := by
  rw [readFraction, tells_isPoint.any_getElem?]
  unfold fractionAndRest
  split
  · rename_i cs
    have hpoint : position front + 1 = position (front ++ ['.']) := by
      rw [position_append]
      rfl
    have hchars : front ++ '.' :: cs = (front ++ ['.']) ++ cs := by simp
    refine ⟨(front ++ ['.']) ++ cs.takeWhile Char.isDigit, ?_, ?_⟩
    · rw [List.append_assoc, List.takeWhile_append_dropWhile, hchars]
    · rw [if_pos (by simp), hchars, hpoint, tells_isDigit.skip_eq,
        Work.run_lift_bind (cut_takeWhile _ _ _)]
      rfl
  · rename_i hne
    have hpoint : ¬rest.head?.any (· == '.') = true := by
      cases rest with
      | nil => simp
      | cons c cs => simpa using fun hc : c = '.' => hne cs (by rw [hc])
    refine ⟨front, rfl, ?_⟩
    rw [if_neg hpoint]
    rfl

/-- A machine finds the name that follows, and gets behind it. -/
theorem run_readUnit (front rest : List Char) :
    (readUnit (String.ofList (front ++ rest)) (position front)).run =
      .ok (match Unit.ofChars? (rest.takeWhile inUnitName) with
        | none => .error (if (rest.takeWhile inUnitName).isEmpty then .missingUnit
            else .unknownUnit (String.ofList (rest.takeWhile inUnitName)))
        | some u => .ok (u, position (front ++ rest.takeWhile inUnitName))) := by
  rw [readUnit, tells_inName.skip_eq, Work.run_lift_bind (cut_takeWhile _ _ _),
    String.toList_ofList]
  cases Unit.ofChars? (rest.takeWhile inUnitName) with
  | some u => rfl
  | none =>
    simp only [isEmpty_ofList]
    rfl

/-- One step reads one term: both fail alike, or a machine gets behind the term and adds its
nanoseconds. -/
theorem step_cases (n : Nat) (front rest : List Char) :
    (∃ fault, readTerm rest = .error fault ∧
      (step (String.ofList (front ++ rest)) (position front) (clamp n)).run =
        .ok (.error fault)) ∨
    ∃ t rest' back, readTerm rest = .ok (t, rest') ∧ front ++ rest = back ++ rest' ∧
      (step (String.ofList (front ++ rest)) (position front) (clamp n)).run =
        .ok (.ok (position back, clamp (n + t.nanos))) := by
  have hchars : (front ++ rest.takeWhile Char.isDigit) ++ rest.dropWhile Char.isDigit =
      front ++ rest := by
    rw [List.append_assoc, List.takeWhile_append_dropWhile]
  obtain ⟨behind, hbehind, hfraction⟩ :=
    run_readFraction (front ++ rest.takeWhile Char.isDigit) (rest.dropWhile Char.isDigit)
  obtain ⟨pointed, hpointed, hdecimals, -⟩ := exists_pointed (rest.dropWhile Char.isDigit)
  rw [hchars] at hbehind hfraction
  rw [hpointed] at hdecimals
  rw [step, tells_isDigit.skip_eq, Work.run_lift_bind (cut_takeWhile _ _ _),
    Work.run_bind_of_ok hfraction]
  simp only [readTerm, isEmpty_ofList]
  split
  · exact .inl ⟨_, rfl, rfl⟩
  · have hunit := run_readUnit behind (fractionAndRest (rest.dropWhile Char.isDigit)).2
    rw [← hbehind] at hunit
    split
    · rename_i hname
      rw [hname] at hunit
      exact .inl ⟨_, rfl, Work.run_bind_of_fault hunit⟩
    · rename_i unit hname
      rw [hname] at hunit
      have hwhole := run_addWhole n (rest.takeWhile Char.isDigit) unit
      rw [Work.run_bind_of_ok hunit]
      simp only
      by_cases hfits : maxWhole < Number.ofDigits 10 (rest.takeWhile Char.isDigit)
      · rw [if_pos hfits] at hwhole ⊢
        exact .inl ⟨_, rfl, Work.run_bind_of_fault hwhole⟩
      · rw [if_neg hfits] at hwhole ⊢
        refine .inr ⟨_, _,
          behind ++ (fractionAndRest (rest.dropWhile Char.isDigit)).2.takeWhile inUnitName, rfl,
          ?_, ?_⟩
        · rw [hbehind, List.append_assoc, List.takeWhile_append_dropWhile]
        · rw [Work.run_bind_of_ok hwhole, Work.run_bind_of_ok (run_addFraction _ hdecimals unit),
            Nat.add_assoc]
          rfl

/-! ### Runs -/

theorem run_of_step {s : String} {pos next : Nat} {total total' : Word}
    (hpos : pos < s.utf8ByteSize) (h : (step s pos total).run = .ok (.ok (next, total'))) :
    (run s pos total).run = (run s next total').run := by
  rw [run, if_pos hpos]
  split <;> rename_i heq <;> rw [h] at heq <;> cases heq
  rfl

theorem run_of_fault {s : String} {pos : Nat} {total : Word} {fault : Fault}
    (hpos : pos < s.utf8ByteSize) (h : (step s pos total).run = .ok (.error fault)) :
    (run s pos total).run = .ok (.error fault) := by
  rw [run, if_pos hpos]
  split <;> rename_i heq <;> rw [h] at heq <;> cases heq
  rfl

/-- A machine goes on while there are characters to read. -/
theorem position_lt (front : List Char) (c : Char) (cs : List Char) :
    position front < (String.ofList (front ++ c :: cs)).utf8ByteSize := by
  have hpos : 0 < position (c :: cs) := by
    rw [position, encode, List.flatMap_cons, List.length_append]
    exact Nat.lt_add_right _ (List.length_pos_of_ne_nil String.utf8EncodeChar_ne_nil)
  rw [utf8ByteSize_ofList, position_append]
  exact Nat.lt_add_of_pos_right hpos

/-- A machine ends behind the last character. -/
theorem run_nil (front : List Char) (total : Word) :
    (run (String.ofList (front ++ [])) (position front) total).run = .ok (.ok total) := by
  rw [run, if_neg (by rw [List.append_nil, utf8ByteSize_ofList]; exact Nat.lt_irrefl _)]
  rfl

/-- A whole run reads all terms and adds up their nanoseconds. -/
theorem run_eq (n : Nat) (front rest : List Char) :
    (run (String.ofList (front ++ rest)) (position front) (clamp n)).run =
      .ok ((readTerms rest).map fun ts => clamp (n + totalNanos ts)) := by
  fun_induction readTerms rest generalizing front n with
  | case1 => exact run_nil front (clamp n)
  | case2 c cs fault hread =>
    have hcases := step_cases n front (c :: cs)
    rw [hread] at hcases
    rcases hcases with ⟨_, ⟨⟩, hstep⟩ | ⟨_, _, _, ⟨⟩, -⟩
    exact run_of_fault (position_lt front c cs) hstep
  | case3 c cs t rest hread ih =>
    have hcases := step_cases n front (c :: cs)
    rw [hread] at hcases
    rcases hcases with ⟨_, ⟨⟩, -⟩ | ⟨_, _, back, ⟨⟩, hback, hstep⟩
    rw [run_of_step (position_lt front c cs) hstep, hback, ih]
    cases readTerms rest with
    | error fault => rfl
    | ok ts =>
      show Except.ok (Except.ok (clamp (n + t.nanos + totalNanos ts))) = _
      rw [Nat.add_assoc]
      rfl

end Scan

/-- A machine is never stopped, and reads what the text denotes. -/
theorem run_scan (s : String) : (scan s).run = .ok (parse s) := by
  have hchars : Text.trim s = String.ofList (Text.trimList s.toList) := rfl
  rw [scan, parse, hchars]
  generalize Text.trimList s.toList = cs
  have hzero : String.ofList cs = "0" ↔ cs = ['0'] := String.ofList_inj
  have hrun := Scan.run_eq 0 [] cs
  simp only [Scan.isEmpty_ofList, hzero, List.isEmpty_iff]
  by_cases hempty : cs = []
  · rw [hempty]
    rfl
  · by_cases hone : cs = ['0']
    · rw [hone]
      rfl
    · rw [if_neg hempty, if_neg hone, parseTrimmed_eq hempty hone]
      cases hterms : readTerms cs with
      | error fault =>
        rw [hterms] at hrun
        exact Scan.Work.run_bind_of_fault hrun
      | ok ts =>
        have htotal : (Scan.clamp (0 + totalNanos ts)).toNat = min (totalNanos ts) maxWhole := by
          rw [Scan.toNat_clamp, Nat.zero_add]
        have hrange : maxNanos < maxWhole := by decide
        rw [hterms] at hrun
        refine (Scan.Work.run_bind_of_ok hrun).trans ?_
        show _ = Except.ok (if maxNanos < totalNanos ts then _ else _)
        rw [htotal]
        by_cases hfits : maxNanos < totalNanos ts
        · rw [if_pos hfits, if_pos (by omega)]
          rfl
        · rw [if_neg hfits, Nat.min_eq_left (by omega), if_neg hfits]
          rfl

/-- A text denotes a duration exactly if it is `0` when trimmed, or a row of items that come to 64
bits; then it denotes their sum. A machine reads it without cutting inside a character and without a
product that does not fit. -/
theorem parse_exact (s : String) :
    (∀ d, parse s = .ok d ↔ Text.trim s = "0" ∧ d = zero ∨
      ∃ items : List Item, items ≠ [] ∧ (Text.trim s).toList = items.flatMap Item.text ∧
        (items.map Item.nanos).sum ≤ maxNanos ∧ d = ⟨(items.map Item.nanos).sum⟩) ∧
    (scan s).run = .ok (parse s) :=
  ⟨fun _ => parse_eq_ok_iff, run_scan s⟩

end FleetConfig.Duration
