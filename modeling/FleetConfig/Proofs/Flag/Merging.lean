import FleetConfig.Flag
import Mathlib.Data.List.Nodup

/-!
# Equal tokens

Of equal tokens the first is kept. So of tokens that are appended to others, or merged into a list,
only those matter that do not stand before.

## Main results

* `Flag.dedup_eq_eraseDups` — the first of equal tokens are those that the library keeps.
* `Flag.dedup_append` — what is kept of tokens that are appended.
* `Flag.merge_eq` — what is merged into a list follows it.
* `Flag.merge_dedup` — to merge is to append and to keep the first of equal tokens.
-/

namespace FleetConfig.Flag

variable {xs ys : List String} {t : String}

/-! ### The first of equal tokens -/

theorem mem_dedup : t ∈ dedup xs ↔ t ∈ xs := by
  induction xs with
  | nil => rfl
  | cons x xs ih =>
    rw [dedup, List.mem_cons, List.mem_cons, List.mem_filter, ih, bne_iff_ne]
    by_cases h : t = x
    · simp [h]
    · simp [h]

theorem nodup_dedup (xs : List String) : (dedup xs).Nodup := by
  induction xs with
  | nil => exact List.nodup_nil
  | cons x xs ih =>
    refine List.nodup_cons.2 ⟨fun hx => ?_, ih.filter _⟩
    exact bne_iff_ne.1 (List.mem_filter.1 hx).2 rfl

theorem dedup_eq_self (h : xs.Nodup) : dedup xs = xs := by
  induction xs with
  | nil => rfl
  | cons x xs ih =>
    obtain ⟨hx, hxs⟩ := List.nodup_cons.1 h
    have hfilter : xs.filter (· != x) = xs :=
      List.filter_eq_self.2 fun y hy => bne_iff_ne.2 (ne_of_mem_of_not_mem hy hx)
    rw [dedup, ih hxs, hfilter]

theorem filter_dedup (p : String → Bool) (xs : List String) :
    (dedup xs).filter p = dedup (xs.filter p) := by
  induction xs with
  | nil => rfl
  | cons x xs ih =>
    rw [dedup]
    by_cases hp : p x
    · rw [List.filter_cons_of_pos hp, List.filter_cons_of_pos hp, dedup, ← ih, List.filter_comm]
    · have hother : ((dedup xs).filter (· != x)).filter p = (dedup xs).filter p := by
        rw [List.filter_filter]
        refine List.filter_congr fun y _ => ?_
        by_cases hy : y = x
        · simp [hy, hp]
        · simp [hy]
      rw [List.filter_cons_of_neg hp, List.filter_cons_of_neg hp, hother, ih]

theorem dedup_eq_eraseDups (xs : List String) : dedup xs = xs.eraseDups := by
  induction hlength : xs.length using Nat.strongRecOn generalizing xs with
  | ind length ih =>
    cases xs with
    | nil => rfl
    | cons x xs =>
      have hshorter : (xs.filter (· != x)).length < length := by
        have hle := List.length_filter_le (· != x) xs
        rw [List.length_cons] at hlength
        omega
      rw [dedup, filter_dedup, ih _ hshorter _ rfl, List.eraseDups_cons]
      rfl

/-! ### Tokens that are appended -/

/-- Of tokens that are appended those are kept that do not stand before. -/
theorem dedup_append (xs ys : List String) :
    dedup (xs ++ ys) = dedup xs ++ dedup (ys.filter (· ∉ xs)) := by
  have hnew : ys.removeAll xs = ys.filter (· ∉ xs) :=
    List.filter_congr fun y _ => by simp
  simp only [dedup_eq_eraseDups, List.eraseDups_append, hnew]

theorem dedup_append_of_subset (h : ∀ y ∈ ys, y ∈ xs) : dedup (xs ++ ys) = dedup xs := by
  have hnone : ys.filter (· ∉ xs) = [] := List.filter_eq_nil_iff.2 (by simpa using h)
  rw [dedup_append, hnone, dedup, List.append_nil]

theorem filter_eq_self_of_disjoint (h : ∀ y ∈ ys, y ∉ xs) : ys.filter (· ∉ xs) = ys :=
  List.filter_eq_self.2 (by simpa using h)

theorem dedup_append_of_disjoint (h : ∀ y ∈ ys, y ∉ xs) :
    dedup (xs ++ ys) = dedup xs ++ dedup ys := by
  rw [dedup_append, filter_eq_self_of_disjoint h]

/-- Tokens that are new keep their place behind what stands before. -/
theorem exists_dedup_append (h : ∀ y ∈ ys, y ∉ xs) (zs : List String) :
    ∃ after, dedup (xs ++ (ys ++ zs)) = dedup xs ++ (dedup ys ++ after) := by
  rw [dedup_append, List.filter_append, filter_eq_self_of_disjoint h, dedup_append ys]
  exact ⟨_, rfl⟩

/-! ### Neighbours -/

/-- What follows the first of equal tokens is kept if it is new. -/
theorem dedup_append_cons (h : t ∉ xs) (ys : List String) :
    dedup (xs ++ t :: ys) = dedup xs ++ t :: dedup (ys.filter (· ∉ xs ++ [t])) := by
  have hfront : dedup (xs ++ [t]) = dedup xs ++ [t] :=
    dedup_append_of_disjoint (List.forall_mem_singleton.2 h)
  rw [List.append_cons, dedup_append, hfront, List.append_assoc, List.singleton_append]

/-- A token that is kept is the first of its equals, and those around it are kept by themselves. -/
theorem exists_split_of_dedup {front back : List String} (h : dedup xs = front ++ t :: back) :
    ∃ before after, xs = before ++ t :: after ∧ t ∉ before ∧ dedup before = front ∧
      dedup (after.filter (· ∉ before ++ [t])) = back := by
  have ht : t ∈ xs := mem_dedup.1 (h ▸ List.mem_append_right front List.mem_cons_self)
  obtain ⟨before, after, rfl, hnew⟩ := List.eq_append_cons_of_mem ht
  rw [dedup_append_cons hnew] at h
  have hnodup : (front ++ t :: back).Nodup := by
    rw [← h, ← dedup_append_cons hnew]
    exact nodup_dedup _
  obtain ⟨hfront, hback⟩ := not_or.1 (mt List.mem_append.2 (List.nodup_middle.1 hnodup).notMem)
  obtain ⟨hbefore, -, hafter⟩ := (List.append_cons_inj_of_notMem hfront hback).1 h.symm
  exact ⟨before, after, rfl, hnew, hbefore.symm, hafter.symm⟩

/-- Tokens come to be neighbours if each of them is the first of its equals and all that stands
between them repeats what stands before. -/
theorem exists_neighbours_dedup_iff {s : String} :
    (∃ front back, dedup xs = front ++ s :: t :: back) ↔
      ∃ front gap back, xs = front ++ s :: (gap ++ t :: back) ∧ s ∉ front ∧ t ∉ front ++ [s] ∧
        ∀ u ∈ gap, u ∈ front ++ [s] := by
  constructor
  · rintro ⟨front, back, h⟩
    obtain ⟨before, after, rfl, hs, -, hback⟩ := exists_split_of_dedup h
    cases hkept : after.filter (· ∉ before ++ [s]) with
    | nil =>
      rw [hkept] at hback
      cases hback
    | cons u kept =>
      rw [hkept, dedup] at hback
      obtain ⟨rfl, -⟩ := List.cons.inj hback
      obtain ⟨gap, rest, rfl, hgap, ht, -⟩ := List.filter_eq_cons_iff.1 hkept
      refine ⟨before, gap, rest, rfl, hs, of_decide_eq_true ht, fun v hv => ?_⟩
      exact Decidable.not_not.1 (mt decide_eq_true (hgap v hv))
  · rintro ⟨front, gap, back, rfl, hs, ht, hgap⟩
    have hnone : gap.filter (· ∉ front ++ [s]) = [] :=
      List.filter_eq_nil_iff.2 fun u hu hnew => of_decide_eq_true hnew (hgap u hu)
    have hkept : (t :: back).filter (· ∉ front ++ [s]) = t :: back.filter (· ∉ front ++ [s]) :=
      List.filter_cons_of_pos (decide_eq_true ht)
    rw [dedup_append_cons hs, List.filter_append, hnone, List.nil_append, hkept, dedup]
    exact ⟨_, _, rfl⟩

/-! ### Tokens that are merged -/

/-- Of tokens that are merged into a list the new ones follow it, each once. -/
theorem merge_eq (xs ys : List String) : merge xs ys = xs ++ (dedup ys).filter (· ∉ xs) := by
  induction ys generalizing xs with
  | nil => exact (List.append_nil xs).symm
  | cons y ys ih =>
    show merge (if xs.contains y then xs else xs ++ [y]) ys = _
    rw [dedup]
    by_cases hy : y ∈ xs
    · have hfilter : ((dedup ys).filter (· != y)).filter (· ∉ xs) = (dedup ys).filter (· ∉ xs) := by
        rw [List.filter_filter]
        refine List.filter_congr fun z _ => ?_
        by_cases hz : z = y
        · simp [hz, hy]
        · simp [hz]
      rw [if_pos (List.contains_iff_mem.2 hy), ih, List.filter_cons_of_neg (by simpa using hy),
        hfilter]
    · have hfilter : (dedup ys).filter (· ∉ xs ++ [y]) =
          ((dedup ys).filter (· != y)).filter (· ∉ xs) := by
        rw [List.filter_filter]
        refine List.filter_congr fun z _ => ?_
        by_cases hz : z = y
        · simp [hz]
        · simp [hz]
      rw [if_neg (mt List.contains_iff_mem.1 hy), ih, hfilter,
        List.filter_cons_of_pos (by simpa using hy), List.append_assoc, List.singleton_append]

theorem mem_merge : t ∈ merge xs ys ↔ t ∈ xs ∨ t ∈ ys := by
  rw [merge_eq, List.mem_append, List.mem_filter, mem_dedup]
  by_cases h : t ∈ xs
  · simp [h]
  · simp [h]

theorem nodup_merge (h : xs.Nodup) : (merge xs ys).Nodup := by
  rw [merge_eq]
  refine h.append ((nodup_dedup ys).filter _) fun t ht ht' => ?_
  have hnew := (List.mem_filter.1 ht').2
  rw [decide_eq_true_eq] at hnew
  exact hnew ht

/-- To merge is to append and to keep the first of equal tokens. -/
theorem merge_dedup (xs ys : List String) : merge (dedup xs) ys = dedup (xs ++ ys) := by
  have hnew : ys.filter (· ∉ dedup xs) = ys.filter (· ∉ xs) :=
    List.filter_congr fun y _ => decide_eq_decide.2 (not_congr mem_dedup)
  rw [merge_eq, dedup_append, filter_dedup, hnew]

end FleetConfig.Flag
