import FleetConfig.Net.Host
import FleetConfig.Proofs.Number.Digits
import FleetConfig.Proofs.Text.Joining

/-!
# The grammar of hosts

A host name is written as labels between dots, a version 4 address as four numbers between dots, and
a version 6 address as groups between colons, of which one row may be left out. The decisions that
cut a text into pieces and look at each of them accept these texts and no others.

## Main definitions

* `Net.IsLabel`, `Net.IsHostname` — labels and host names.
* `Net.WritesIpv4` — four numbers of a byte between dots.
* `Net.WritesGroups`, `Net.WritesIpv6` — groups between colons, whole or with a gap.

## Main results

* `Net.isHostname_iff`, `Net.isIpv4_iff`, `Net.isIpv6_iff` — the decisions and the grammar.
-/

namespace FleetConfig.Net

variable {cs : List Char}

/-! ### Host names -/

/-- A label has letters, digits and dashes, and no dash at its ends. -/
structure IsLabel (cs : List Char) : Prop where
  ne_nil : cs ≠ []
  chars : ∀ c ∈ cs, c.isAlphanum = true ∨ c = '-'
  head : cs.head? ≠ some '-'
  last : cs.getLast? ≠ some '-'

/-- A host name is one or more labels with dots between them. -/
def IsHostname (cs : List Char) : Prop :=
  ∃ labels, labels ≠ [] ∧ (∀ label ∈ labels, IsLabel label) ∧ cs = ['.'].intercalate labels

theorem isLabel_iff : isLabel cs = true ↔ IsLabel cs := by
  simp only [isLabel, isLabelChar, Bool.and_eq_true, Bool.not_eq_true', List.isEmpty_eq_false_iff,
    bne_iff_ne, List.all_eq_true, Bool.or_eq_true, beq_iff_eq]
  exact ⟨fun ⟨⟨⟨hne, hhead⟩, hlast⟩, hchars⟩ => ⟨hne, hchars, hhead, hlast⟩,
    fun h => ⟨⟨⟨h.ne_nil, h.head⟩, h.last⟩, h.chars⟩⟩

theorem IsLabel.not_mem {c : Char} (h : IsLabel cs) (hc : c.isAlphanum = false) (hdash : c ≠ '-') :
    c ∉ cs := fun hmem => by
  rcases h.chars c hmem with halnum | heq
  · rw [hc] at halnum
    cases halnum
  · exact hdash heq

/-- A host name has letters, digits, dashes and dots. -/
theorem IsHostname.not_mem {c : Char} (h : IsHostname cs) (hc : c.isAlphanum = false)
    (hdash : c ≠ '-') (hdot : c ≠ '.') : c ∉ cs := fun hmem => by
  obtain ⟨labels, -, hlabels, rfl⟩ := h
  obtain heq | ⟨label, hlabel, hmem⟩ := Text.mem_of_mem_intercalate hmem
  · exact hdot heq
  · exact (hlabels label hlabel).not_mem hc hdash hmem

/-- A text is a host name if its pieces between dots are labels. -/
theorem isHostname_iff : isHostname cs = true ↔ IsHostname cs := by
  rw [isHostname, List.all_eq_true]
  constructor
  · intro h
    exact ⟨Text.pieces '.' cs, Text.pieces_ne_nil '.' cs, fun l hl => isLabel_iff.1 (h l hl),
      (Text.intercalate_pieces '.' cs).symm⟩
  · rintro ⟨labels, hne, hlabels, rfl⟩ l hl
    have hdot : ∀ l ∈ labels, '.' ∉ l := fun l hl => (hlabels l hl).not_mem (by decide) (by decide)
    rw [Text.pieces_intercalate hne hdot] at hl
    exact isLabel_iff.2 (hlabels l hl)

/-! ### Version 4 -/

/-- A version 4 address is four numbers up to 255, in decimal, with dots between them. -/
def WritesIpv4 (cs : List Char) : Prop :=
  ∃ bytes : List Nat, bytes.length = 4 ∧ (∀ n ∈ bytes, n ≤ 255) ∧
    cs = ['.'].intercalate (bytes.map (Nat.toDigits 10))

theorem isDecimalByte_toDigits : ∀ n ≤ 255, isDecimalByte (Nat.toDigits 10 n) = true := by
  decide +kernel

/-- The value of a digit is written with it. -/
theorem toDigits_of_isDigit {c : Char} (h : c.isDigit = true) :
    c.toNat - 48 < 10 ∧ Nat.toDigits 10 (c.toNat - 48) = [c] := by
  obtain ⟨hlo, hhi⟩ := Number.isDigit_iff.1 h
  have hlt : c.toNat - 48 < 10 := by omega
  refine ⟨hlt, ?_⟩
  have hc : (Nat.digitChar (c.toNat - 48)).toNat = c.toNat := by
    rw [Nat.toNat_digitChar_of_lt_ten hlt]
    omega
  rw [Nat.toDigits_of_lt_base hlt, Char.toNat_inj.1 hc]

theorem pos_of_ne_zero {c : Char} (h : c.isDigit = true) (hne : c ≠ '0') : 0 < c.toNat - 48 := by
  obtain ⟨hlo, -⟩ := Number.isDigit_iff.1 h
  have hne : c.toNat ≠ 48 := fun heq => hne (Char.toNat_inj.1 heq)
  omega

/-- The decision on a byte looks at one, two or three digits; a leading zero is only the number
itself. -/
theorem isDecimalByte_iff : isDecimalByte cs = true ↔ ∃ n ≤ 255, cs = Nat.toDigits 10 n := by
  refine ⟨fun h => ?_, fun ⟨n, hn, hcs⟩ => hcs ▸ isDecimalByte_toDigits n hn⟩
  unfold isDecimalByte at h
  split at h
  · rename_i a
    obtain ⟨hlt, ha⟩ := toDigits_of_isDigit h
    exact ⟨a.toNat - 48, by omega, ha.symm⟩
  · rename_i a b
    simp only [Bool.and_eq_true, bne_iff_ne] at h
    obtain ⟨⟨ha, hb⟩, hne⟩ := h
    obtain ⟨halt, haw⟩ := toDigits_of_isDigit ha
    obtain ⟨hblt, hbw⟩ := toDigits_of_isDigit hb
    refine ⟨10 * (a.toNat - 48) + (b.toNat - 48), by omega, ?_⟩
    rw [← Nat.toDigits_append_toDigits (by decide) (pos_of_ne_zero ha hne) hblt, haw, hbw]
    rfl
  · rename_i a b c
    simp only [Bool.and_eq_true, bne_iff_ne, decide_eq_true_eq] at h
    obtain ⟨⟨⟨⟨ha, hb⟩, hc⟩, hne⟩, hle⟩ := h
    obtain ⟨halt, haw⟩ := toDigits_of_isDigit ha
    obtain ⟨hblt, hbw⟩ := toDigits_of_isDigit hb
    obtain ⟨hclt, hcw⟩ := toDigits_of_isDigit hc
    have hpos := pos_of_ne_zero ha hne
    refine ⟨10 * (10 * (a.toNat - 48) + (b.toNat - 48)) + (c.toNat - 48), by omega, ?_⟩
    rw [← Nat.toDigits_append_toDigits (by decide) (by omega) hclt,
      ← Nat.toDigits_append_toDigits (by decide) hpos hblt, haw, hbw, hcw]
    rfl
  · cases h

theorem not_mem_toDigits {c : Char} (hc : c.isDigit = false) (n : Nat) :
    c ∉ Nat.toDigits 10 n := fun hmem => by
  rw [Number.isDigit_toDigits n c hmem] at hc
  cases hc

/-- A version 4 address has digits and dots. -/
theorem WritesIpv4.not_mem {c : Char} (h : WritesIpv4 cs) (hc : c.isDigit = false)
    (hdot : c ≠ '.') : c ∉ cs := fun hmem => by
  obtain ⟨bytes, -, -, rfl⟩ := h
  obtain heq | ⟨p, hp, hmem⟩ := Text.mem_of_mem_intercalate hmem
  · exact hdot heq
  · obtain ⟨n, -, rfl⟩ := List.mem_map.1 hp
    exact not_mem_toDigits hc n hmem

theorem WritesIpv4.dot_mem (h : WritesIpv4 cs) : '.' ∈ cs := by
  obtain ⟨bytes, hlength, -, rfl⟩ := h
  obtain _ | ⟨a, _ | ⟨b, bytes⟩⟩ := bytes
  · cases hlength
  · cases hlength
  · rw [List.map_cons, List.map_cons, List.intercalate_cons_cons]
    exact List.mem_append_left _ (List.mem_append_right _ (List.mem_singleton_self _))

/-- A text is a version 4 address if it has four pieces between dots, and each is a byte. -/
theorem isIpv4_iff : isIpv4 cs = true ↔ WritesIpv4 cs := by
  simp only [isIpv4, Bool.and_eq_true, beq_iff_eq, List.all_eq_true, isDecimalByte_iff]
  constructor
  · rintro ⟨hlength, hparts⟩
    choose! value hvalue using hparts
    refine ⟨(Text.pieces '.' cs).map value, by rw [List.length_map, hlength],
      List.forall_mem_map.2 fun p hp => (hvalue p hp).1, ?_⟩
    have hmap : ((Text.pieces '.' cs).map value).map (Nat.toDigits 10) = Text.pieces '.' cs := by
      rw [List.map_map]
      exact (List.map_congr_left fun p hp => (hvalue p hp).2.symm).trans (List.map_id _)
    rw [hmap, Text.intercalate_pieces]
  · rintro ⟨bytes, hlength, hbytes, rfl⟩
    have hne : bytes.map (Nat.toDigits 10) ≠ [] := by
      rw [Ne, List.map_eq_nil_iff]
      rintro rfl
      cases hlength
    rw [Text.pieces_intercalate hne
      (List.forall_mem_map.2 fun n _ => not_mem_toDigits (by decide) n)]
    exact ⟨by rw [List.length_map, hlength],
      List.forall_mem_map.2 fun n hn => ⟨n, hbytes n hn, rfl⟩⟩

/-! ### Version 6 -/

/-- A group is one to four hexadecimal digits. -/
def IsGroup (cs : List Char) : Prop :=
  1 ≤ cs.length ∧ cs.length ≤ 4 ∧ ∀ c ∈ cs, Number.isHexDigit c = true

/-- Characters write a number of groups between colons. A version 4 address may stand for the last
two of them where `v4`. -/
inductive WritesGroups (v4 : Bool) : Nat → List Char → Prop
  | group {cs : List Char} (h : IsGroup cs) : WritesGroups v4 1 cs
  | ipv4 {cs : List Char} (hv4 : v4 = true) (h : WritesIpv4 cs) : WritesGroups v4 2 cs
  | cons {n : Nat} {g cs : List Char} (hg : IsGroup g) (hcs : WritesGroups v4 n cs) :
      WritesGroups v4 (n + 1) (g ++ ':' :: cs)

/-- Characters beside a gap write some groups, or none. -/
def WritesSide (v4 : Bool) (n : Nat) (cs : List Char) : Prop :=
  (n = 0 ∧ cs = []) ∨ WritesGroups v4 n cs

/-- A version 6 address is eight groups, or fewer with a gap for the others. -/
def WritesIpv6 (cs : List Char) : Prop :=
  WritesGroups true 8 cs ∨ ∃ front back m n, cs = front ++ ':' :: ':' :: back ∧
    WritesSide false m front ∧ WritesSide true n back ∧ m + n ≤ 7

theorem IsGroup.not_mem {c : Char} (h : IsGroup cs) (hc : Number.isHexDigit c = false) : c ∉ cs :=
  fun hmem => by
    rw [h.2.2 c hmem] at hc
    cases hc

/-- Groups have digits, colons and dots. -/
theorem WritesGroups.not_mem {v4 : Bool} {n : Nat} {c : Char} (h : WritesGroups v4 n cs)
    (hc : Number.isHexDigit c = false) (hcolon : c ≠ ':') (hdot : c ≠ '.') : c ∉ cs := by
  have hdigit : c.isDigit = false := by
    rw [Number.isHexDigit, Bool.or_eq_false_iff, Bool.or_eq_false_iff] at hc
    exact hc.1.1
  induction h with
  | group hg => exact hg.not_mem hc
  | ipv4 _ h => exact h.not_mem hdigit hdot
  | cons hg _ ih =>
    rw [List.mem_append, List.mem_cons, not_or, not_or]
    exact ⟨hg.not_mem hc, hcolon, ih⟩

/-- A version 6 address has digits, colons and dots. -/
theorem WritesIpv6.not_mem {c : Char} (h : WritesIpv6 cs) (hc : Number.isHexDigit c = false)
    (hcolon : c ≠ ':') (hdot : c ≠ '.') : c ∉ cs := by
  have hside {v4 : Bool} {n : Nat} {cs : List Char} (h : WritesSide v4 n cs) : c ∉ cs :=
    h.elim (fun h => h.2 ▸ List.not_mem_nil) (·.not_mem hc hcolon hdot)
  obtain h | ⟨front, back, m, n, rfl, hfront, hback, -⟩ := h
  · exact h.not_mem hc hcolon hdot
  · simp only [List.mem_append, List.mem_cons, not_or]
    exact ⟨hside hfront, hcolon, hcolon, hside hback⟩

theorem isGroup_iff : isGroup cs = true ↔ IsGroup cs := by
  simp only [isGroup, IsGroup, Bool.and_eq_true, decide_eq_true_eq, List.all_eq_true, and_assoc]

/-- The number of groups that are written is the one that is counted. -/
theorem countGroups_of_writesGroups {v4 : Bool} {n : Nat} (h : WritesGroups v4 n cs) :
    countGroups v4 (Text.pieces ':' cs) = some n := by
  induction h with
  | group hg => rw [Text.pieces_of_not_mem (hg.not_mem (by decide)), countGroups,
      if_pos (isGroup_iff.2 hg)]
  | @ipv4 cs hv4 hcs =>
    have hcolon : ':' ∉ cs := hcs.not_mem (by decide) (by decide)
    have hgroup : ¬isGroup cs = true := fun hg =>
      (isGroup_iff.1 hg).not_mem (by decide) hcs.dot_mem
    rw [Text.pieces_of_not_mem hcolon, countGroups, if_neg hgroup, hv4, isIpv4_iff.2 hcs]
    rfl
  | @cons n g cs hg hcs ih =>
    obtain ⟨p, ps, hpieces⟩ := List.exists_cons_of_ne_nil (Text.pieces_ne_nil ':' cs)
    rw [Text.pieces_append (hg.not_mem (by decide)), hpieces, countGroups,
      if_pos (isGroup_iff.2 hg), ← hpieces, ih]
    rfl

theorem writesGroups_of_countGroups {v4 : Bool} {n : Nat} {parts : List (List Char)}
    (hne : parts ≠ []) (h : countGroups v4 parts = some n) :
    WritesGroups v4 n ([':'].intercalate parts) := by
  fun_induction countGroups v4 parts generalizing n with
  | case1 => exact absurd rfl hne
  | case2 part hg =>
    cases h
    rw [List.intercalate_singleton]
    exact .group (isGroup_iff.1 hg)
  | case3 part _ hv4 =>
    cases h
    rw [Bool.and_eq_true] at hv4
    rw [List.intercalate_singleton]
    exact .ipv4 hv4.1 (isIpv4_iff.1 hv4.2)
  | case4 => cases h
  | case5 part next rest hg ih =>
    obtain ⟨m, hm, rfl⟩ := Option.map_eq_some_iff.1 h
    rw [List.intercalate_cons_cons, List.append_assoc, List.singleton_append]
    exact .cons (isGroup_iff.1 hg) (ih (List.cons_ne_nil _ _) hm)
  | case6 => cases h

theorem countGroups_eq_some_iff {v4 : Bool} {n : Nat} :
    countGroups v4 (Text.pieces ':' cs) = some n ↔ WritesGroups v4 n cs := by
  refine ⟨fun h => ?_, countGroups_of_writesGroups⟩
  rw [← Text.intercalate_pieces ':' cs]
  exact writesGroups_of_countGroups (Text.pieces_ne_nil ':' cs) h

/-- Groups start with a character, and not with a colon. -/
theorem WritesGroups.exists_cons {v4 : Bool} {n : Nat} (h : WritesGroups v4 n cs) :
    ∃ c rest, c ≠ ':' ∧ cs = c :: rest := by
  have hstart {c : Char} {xs : List Char} (hmem : ':' ∉ c :: xs) : c ≠ ':' := fun hc =>
    hmem (hc ▸ List.mem_cons_self)
  cases h with
  | @group cs hg =>
    obtain _ | ⟨c, cs⟩ := cs
    · exact absurd hg.1 (by decide)
    · exact ⟨c, cs, hstart (hg.not_mem (by decide)), rfl⟩
  | @ipv4 cs _ h =>
    obtain _ | ⟨c, cs⟩ := cs
    · cases h.dot_mem
    · exact ⟨c, cs, hstart (h.not_mem (by decide) (by decide)), rfl⟩
  | @cons n g cs hg _ =>
    obtain _ | ⟨c, g⟩ := g
    · exact absurd hg.1 (by decide)
    · exact ⟨c, g ++ ':' :: cs, hstart (hg.not_mem (by decide)), rfl⟩

theorem groupsIn_eq_some_iff {v4 : Bool} {n : Nat} :
    groupsIn v4 cs = some n ↔ WritesSide v4 n cs := by
  cases cs with
  | nil =>
    refine ⟨fun h => .inl ⟨(Option.some.inj h).symm, rfl⟩, ?_⟩
    rintro (⟨rfl, -⟩ | h)
    · rfl
    · obtain ⟨c, rest, -, hcs⟩ := h.exists_cons
      cases hcs
  | cons c cs => exact countGroups_eq_some_iff.trans (or_iff_right nofun).symm

/-! ### The gap -/

theorem cutAtGap_cons {c : Char} (h : c ≠ ':' ∨ cs.head? ≠ some ':') :
    cutAtGap (c :: cs) = (cutAtGap cs).map fun p => (c :: p.1, p.2) := by
  rw [cutAtGap]
  rintro cs' rfl rfl
  rcases h with h | h <;> exact h rfl

/-- There is no gap where there is no colon. -/
theorem cutAtGap_append_of_not_mem (h : ':' ∉ cs) (tail : List Char) :
    cutAtGap (cs ++ tail) = (cutAtGap tail).map fun p => (cs ++ p.1, p.2) := by
  induction cs with
  | nil => exact Option.map_id'.symm
  | cons c cs ih =>
    obtain ⟨hc, hcs⟩ := not_or.1 (mt List.mem_cons.2 h)
    rw [List.cons_append, cutAtGap_cons (.inl (Ne.symm hc)), ih hcs, Option.map_map]
    rfl

/-- There is no gap in groups. -/
theorem WritesGroups.cutAtGap_append {v4 : Bool} {n : Nat} (h : WritesGroups v4 n cs)
    (tail : List Char) :
    cutAtGap (cs ++ tail) = (cutAtGap tail).map fun p => (cs ++ p.1, p.2) := by
  induction h with
  | group hg => exact cutAtGap_append_of_not_mem (hg.not_mem (by decide)) tail
  | ipv4 _ h => exact cutAtGap_append_of_not_mem (h.not_mem (by decide) (by decide)) tail
  | @cons n g cs hg hcs ih =>
    have hhead : (cs ++ tail).head? ≠ some ':' := by
      obtain ⟨c, rest, hc, rfl⟩ := hcs.exists_cons
      exact fun heq => hc (Option.some.inj heq)
    rw [List.append_assoc, cutAtGap_append_of_not_mem (hg.not_mem (by decide)), List.cons_append,
      cutAtGap_cons (.inr hhead), ih, Option.map_map, Option.map_map]
    refine Option.map_congr fun p _ => ?_
    simp

theorem WritesSide.cutAtGap_append {v4 : Bool} {n : Nat} (h : WritesSide v4 n cs)
    (back : List Char) : cutAtGap (cs ++ ':' :: ':' :: back) = some (cs, back) := by
  obtain ⟨-, rfl⟩ | h := h
  · rfl
  · rw [h.cutAtGap_append]
    simp [cutAtGap]

theorem append_of_cutAtGap {p : List Char × List Char} (h : cutAtGap cs = some p) :
    cs = p.1 ++ ':' :: ':' :: p.2 := by
  fun_induction cutAtGap cs generalizing p with
  | case1 cs =>
    cases h
    rfl
  | case2 => cases h
  | case3 c cs _ ih =>
    obtain ⟨q, hq, rfl⟩ := Option.map_eq_some_iff.1 h
    exact congrArg (c :: ·) (ih hq)

/-- A text is a version 6 address if it is eight groups, or if what stands before and after the
first gap is fewer. -/
theorem isIpv6_iff : isIpv6 cs = true ↔ WritesIpv6 cs := by
  rw [isIpv6]
  constructor
  · intro h
    split at h
    · rw [beq_iff_eq, groupsIn_eq_some_iff] at h
      exact .inl (h.resolve_left fun h => absurd h.1 (by decide))
    · rename_i front back hgap
      split at h
      · rename_i m n hm hn
        exact .inr ⟨front, back, m, n, append_of_cutAtGap hgap, groupsIn_eq_some_iff.1 hm,
          groupsIn_eq_some_iff.1 hn, of_decide_eq_true h⟩
      · cases h
  · rintro (h | ⟨front, back, m, n, rfl, hfront, hback, hle⟩)
    · have hgap : cutAtGap cs = none := by
        have hgap := h.cutAtGap_append []
        rwa [List.append_nil] at hgap
      rw [hgap]
      exact beq_iff_eq.2 (groupsIn_eq_some_iff.2 (.inr h))
    · simp only [hfront.cutAtGap_append, groupsIn_eq_some_iff.2 hfront,
        groupsIn_eq_some_iff.2 hback, decide_eq_true hle]

end FleetConfig.Net
