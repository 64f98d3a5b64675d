import FleetConfig.Proofs.Flag.Merging
import FleetConfig.Proofs.Text.Trimming
import Mathlib.Data.List.Basic

/-!
# Argument lists in canonical form

A list of arguments is canonical if no token stands twice in it and each is trimmed and not empty.
Whatever tokens are given, normalising them makes a canonical list, and the set operations keep
lists canonical.

## Main definitions

* `Flag.Canonical` — no token stands twice, and each is trimmed and not empty.

## Main results

* `Flag.canonical_normalize` — the canonical form of any tokens is canonical.
* `Flag.Canonical.upsert`, `Flag.Canonical.remove` — set operations on canonical lists.
-/

namespace FleetConfig.Flag

open Text (Trimmed isBlank)

variable {xs ys : List String} {switches placed : List String} {t : String}

/-- A token as it is kept. -/
structure Tidy (t : String) : Prop where
  ne_empty : t ≠ ""
  trimmed : Trimmed t

/-- No token stands twice in a list, and each is trimmed and not empty. -/
structure Canonical (xs : List String) : Prop where
  nodup : xs.Nodup
  tidy : ∀ t ∈ xs, Tidy t

theorem Canonical.nil : Canonical [] := ⟨List.nodup_nil, nofun⟩

/-! ### Tokens -/

/-- A flag and its value are tidy as one token if they are tidy as two. -/
theorem Tidy.join {flag value : String} (hflag : Tidy flag) (hvalue : Tidy value) :
    Tidy (flag ++ "=" ++ value) where
  ne_empty heq := hvalue.ne_empty (String.append_eq_empty_iff.1 heq).2
  trimmed := Text.trimmed_append hflag.ne_empty hflag.trimmed hvalue.ne_empty hvalue.trimmed "="

/-! ### The canonical form -/

/-- Joining makes tidy tokens of trimmed ones. -/
theorem tidy_joinValues {tokens : List String} (h : ∀ t ∈ tokens, Trimmed t) :
    ∀ t ∈ joinValues switches tokens, Tidy t := by
  fun_induction joinValues switches tokens with
  | case1 => exact nofun
  | case2 => exact nofun
  | case3 token hne =>
    rw [List.forall_mem_singleton] at h ⊢
    exact ⟨hne, h⟩
  | case4 next rest ih => exact ih (List.forall_mem_cons.1 h).2
  | case5 token next rest hne hjoin ih =>
    obtain ⟨htoken, hnext, hrest⟩ := by simpa only [List.forall_mem_cons] using h
    have hvalue : next ≠ "" := by
      rw [Bool.and_eq_true, isValue, Bool.and_eq_true, bne_iff_ne] at hjoin
      exact hjoin.2.1
    exact List.forall_mem_cons.2 ⟨.join ⟨hne, htoken⟩ ⟨hvalue, hnext⟩, ih hrest⟩
  | case6 token next rest hne hjoin ih =>
    obtain ⟨htoken, hrest⟩ := List.forall_mem_cons.1 h
    exact List.forall_mem_cons.2 ⟨⟨hne, htoken⟩, ih hrest⟩

/-- The canonical form of any tokens is canonical. -/
theorem canonical_normalize (switches tokens : List String) :
    Canonical (normalize switches tokens) := by
  refine ⟨nodup_dedup _, fun t ht => tidy_joinValues ?_ t (mem_dedup.1 ht)⟩
  intro t ht
  obtain ⟨raw, -, rfl⟩ := List.mem_map.1 ht
  exact Text.trimmed_trim raw

/-! ### Set operations -/

/-- What stands in the slots of flags has been there or is new. -/
theorem mem_of_mem_replaceFlags (h : t ∈ replaceFlags ys placed xs) : t ∈ xs ∨ t ∈ ys := by
  fun_induction replaceFlags ys placed xs with
  | case1 => cases h
  | case2 placed token rest _ ih | case3 placed token rest _ _ _ _ ih =>
    rcases List.mem_cons.1 h with rfl | h
    · exact .inl List.mem_cons_self
    · exact (ih h).imp_left (List.mem_cons_of_mem _)
  | case4 placed token rest _ _ _ _ _ ih => exact (ih h).imp_left (List.mem_cons_of_mem _)
  | case5 placed token rest _ _ _ _ _ ih =>
    rcases List.mem_append.1 h with h | h
    · exact .inr (List.mem_filter.1 h).1
    · exact (ih h).imp_left (List.mem_cons_of_mem _)

/-- Setting canonical arguments in a canonical list makes a canonical list. -/
theorem Canonical.upsert (hxs : Canonical xs) (hys : Canonical ys) : Canonical (upsert xs ys) := by
  refine ⟨nodup_merge (nodup_dedup _), fun t ht => ?_⟩
  rcases mem_merge.1 ht with ht | ht
  · rcases mem_of_mem_replaceFlags (mem_dedup.1 ht) with ht | ht
    · exact hxs.tidy t ht
    · exact hys.tidy t ht
  · exact hys.tidy t ht

/-- What removing leaves of a canonical list is canonical. -/
theorem Canonical.remove (h : Canonical xs) (names : List String) : Canonical (remove xs names) :=
  ⟨h.nodup.filter _, fun t ht => h.tidy t (List.mem_filter.1 ht).1⟩

end FleetConfig.Flag
