import FleetConfig.Proofs.Flag.Replacing

/-!
# Arguments that are set

When tokens are set in a list, each flag among them has its incoming variants afterwards and no
others, in the slot of its first variant if it had one. All other tokens stay in their order, and
what is new and no flag follows them. So if the same tokens are removed again, what is left is what
they had nothing to do with.

The lists are arbitrary here: tokens may stand twice in the list and among the incoming ones.

## Main definitions

* `Flag.Stays` — holds of tokens whose flag is not among the incoming ones.
* `Flag.IsSet` — what a list is like after tokens have been set in another.

## Main results

* `Flag.upsert_eq_dedup` — the slots and the incoming tokens make up the list.
* `Flag.isSet_upsert` — what a list is like after tokens have been set in it.
* `Flag.remove_upsert` — what is left of it when they are removed again.
-/

namespace FleetConfig.Flag

variable {existing incoming placed xs ys : List String} {t n : String}

/-! ### What makes up the list -/

/-- The slots and the incoming tokens make up the list, each token once. -/
theorem upsert_eq_dedup (existing incoming : List String) :
    upsert existing incoming = dedup (replaceFlags incoming [] existing ++ incoming) :=
  merge_dedup _ _

/-! ### Tokens that stay -/

/-- Holds of a token that stays if tokens are set: none of them is the same flag. A token that is no
flag always stays. -/
def Stays (incoming : List String) (t : String) : Prop :=
  ∀ x ∈ incoming, name? x = name? t → name? t = none

instance (incoming : List String) (t : String) : Decidable (Stays incoming t) :=
  inferInstanceAs (Decidable (∀ x ∈ incoming, name? x = name? t → name? t = none))

theorem stays_iff : Stays incoming t ↔ ∀ n, name? t = some n → variants incoming n = [] := by
  constructor
  · intro h n hn
    refine variants_eq_nil fun x hx hname => ?_
    have hnone := h x hx (hname.trans hn.symm)
    simp [hn] at hnone
  · intro h x hx hname
    cases hn : name? t with
    | none => rfl
    | some n => exact absurd (h n hn) (variants_ne_nil hx (hname.trans hn))

/-- Of the incoming tokens those stay that are no flags. -/
theorem stays_iff_of_mem (ht : t ∈ incoming) : Stays incoming t ↔ name? t = none :=
  ⟨fun h => h t ht rfl, fun h _ _ _ => h⟩

/-- What stays is not moved. -/
theorem filter_replaceFlags (placed xs : List String) :
    (replaceFlags incoming placed xs).filter (Stays incoming ·) =
      xs.filter (Stays incoming ·) := by
  induction xs generalizing placed with
  | nil => rfl
  | cons x xs ih =>
    rcases slot_cases incoming placed x with hkeep | ⟨n, hn, hv, hplaced⟩
    · have hstays : Stays incoming x := stays_iff.2 hkeep
      rw [replaceFlags_cons_of_keep hkeep, List.filter_cons_of_pos (by simpa using hstays),
        List.filter_cons_of_pos (by simpa using hstays), ih]
    · have hgoes : ¬Stays incoming x := fun h => hv (stays_iff.1 h n hn)
      have hgone : (variants incoming n).filter (Stays incoming ·) = [] := by
        refine List.filter_eq_nil_iff.2 fun y hy => ?_
        have hname := (mem_variants.1 hy).2
        simpa using fun h : Stays incoming y => hv (stays_iff.1 h n hname)
      rw [List.filter_cons_of_neg (by simpa using hgoes)]
      rcases hplaced with hp | hp
      · rw [replaceFlags_cons_of_placed hn hv hp, ih]
      · rw [replaceFlags_cons_of_new hn hv hp, List.filter_append, hgone, List.nil_append, ih]

/-- The tokens that stay are those that were there, and the new ones that are no flags. -/
theorem filter_upsert (existing incoming : List String) :
    (upsert existing incoming).filter (Stays incoming ·) =
      dedup (existing.filter (Stays incoming ·) ++ incoming.filter (name? · = none)) := by
  have hnew : incoming.filter (Stays incoming ·) = incoming.filter (name? · = none) :=
    List.filter_congr fun t ht => decide_eq_decide.2 (stays_iff_of_mem ht)
  rw [upsert_eq_dedup, filter_dedup, List.filter_append, filter_replaceFlags, hnew]

/-! ### Flags that come in -/

/-- In the slots stand all the incoming variants of a flag, or none. -/
theorem variants_replaceFlags (hv : variants incoming n ≠ []) (placed xs : List String) :
    variants (replaceFlags incoming placed xs) n = [] ∨
      variants (replaceFlags incoming placed xs) n = variants incoming n := by
  induction xs generalizing placed with
  | nil => exact .inl rfl
  | cons x xs ih =>
    rcases slot_cases incoming placed x with hkeep | ⟨m, hm, hv', hp | hp⟩
    · have hx : name? x ≠ some n := fun hn => hv (hkeep n hn)
      rw [replaceFlags_cons_of_keep hkeep, variants, List.filter_cons_of_neg (by simpa using hx)]
      exact ih placed
    · rw [replaceFlags_cons_of_placed hm hv' hp]
      exact ih placed
    · rw [replaceFlags_cons_of_new hm hv' hp, variants_append]
      by_cases hmn : m = n
      · -- The slot of the flag: what follows has no variants any more.
        subst hmn
        have hself : variants (variants incoming m) m = variants incoming m :=
          variants_eq_self fun y hy => (mem_variants.1 hy).2
        have hlater : variants (replaceFlags incoming (m :: placed) xs) m = [] :=
          variants_replaceFlags_of_placed hv List.mem_cons_self
        exact .inr (by rw [hself, hlater, List.append_nil])
      · have hnone : variants (variants incoming m) n = [] := by
          refine variants_eq_nil fun y hy hname => hmn ?_
          rwa [(mem_variants.1 hy).2, Option.some.injEq] at hname
        rw [hnone, List.nil_append]
        exact ih (m :: placed)

/-- A flag that comes in has its incoming variants, each once. -/
theorem variants_upsert (hv : variants incoming n ≠ []) (existing : List String) :
    variants (upsert existing incoming) n = dedup (variants incoming n) := by
  rw [upsert_eq_dedup, variants, filter_dedup, ← variants, variants_append]
  rcases variants_replaceFlags hv [] existing with hnone | hall
  · rw [hnone, List.nil_append]
  · rw [hall, dedup_append_of_subset fun _ => id]

/-! ### Slots -/

/-- Tokens in front make their slots first, and place no flags but their own. -/
theorem exists_replaceFlags_append (incoming placed xs : List String) :
    ∃ placed', (∀ m ∈ placed', m ∈ placed ∨ variants xs m ≠ []) ∧
      ∀ ys, replaceFlags incoming placed (xs ++ ys) =
        replaceFlags incoming placed xs ++ replaceFlags incoming placed' ys := by
  induction xs generalizing placed with
  | nil => exact ⟨placed, fun _ => .inl, fun _ => rfl⟩
  | cons x xs ih =>
    have hlonger (m : String) (hm : variants xs m ≠ []) : variants (x :: xs) m ≠ [] := by
      obtain ⟨y, hy⟩ := List.exists_mem_of_ne_nil _ hm
      obtain ⟨hmem, hname⟩ := mem_variants.1 hy
      exact variants_ne_nil (List.mem_cons_of_mem x hmem) hname
    rcases slot_cases incoming placed x with hkeep | ⟨n, hn, hv, hp | hp⟩
    · obtain ⟨placed', hplaced, happend⟩ := ih placed
      refine ⟨placed', fun m hm => (hplaced m hm).imp_right (hlonger m), fun ys => ?_⟩
      rw [List.cons_append, replaceFlags_cons_of_keep hkeep, replaceFlags_cons_of_keep hkeep,
        happend, List.cons_append]
    · obtain ⟨placed', hplaced, happend⟩ := ih placed
      refine ⟨placed', fun m hm => (hplaced m hm).imp_right (hlonger m), fun ys => ?_⟩
      rw [List.cons_append, replaceFlags_cons_of_placed hn hv hp,
        replaceFlags_cons_of_placed hn hv hp, happend]
    · obtain ⟨placed', hplaced, happend⟩ := ih (n :: placed)
      refine ⟨placed', fun m hm => ?_, fun ys => ?_⟩
      · rcases hplaced m hm with hm | hm
        · rcases List.mem_cons.1 hm with rfl | hm
          · exact .inr (variants_ne_nil List.mem_cons_self hn)
          · exact .inl hm
        · exact .inr (hlonger m hm)
      · rw [List.cons_append, replaceFlags_cons_of_new hn hv hp, replaceFlags_cons_of_new hn hv hp,
          happend, List.append_assoc]

/-- The incoming variants of a flag follow what the tokens before its first variant have become. -/
theorem exists_upsert_eq (hv : variants incoming n ≠ []) (hn : name? t = some n)
    (hxs : variants xs n = []) (ys : List String) :
    ∃ after, upsert (xs ++ t :: ys) incoming =
      dedup (replaceFlags incoming [] xs) ++ (dedup (variants incoming n) ++ after) := by
  obtain ⟨placed, hplaced, happend⟩ := exists_replaceFlags_append incoming [] xs
  have hp : n ∉ placed := fun hmem => (hplaced n hmem).elim List.not_mem_nil fun h => h hxs
  have hnew : ∀ y ∈ variants incoming n, y ∉ replaceFlags incoming [] xs := by
    intro y hy
    have hname := (mem_variants.1 hy).2
    rw [mem_replaceFlags]
    rintro (⟨-, hkeep⟩ | ⟨m, hm, -, -, x, hx, hxm⟩)
    · exact hv (hkeep n hname)
    · rw [hname] at hm
      exact variants_ne_nil hx (hxm.trans hm.symm) hxs
  rw [upsert_eq_dedup, happend, replaceFlags_cons_of_new hn hv hp, List.append_assoc,
    List.append_assoc]
  exact exists_dedup_append hnew _

/-- What stands in slots before the first variant of a flag. -/
theorem mem_dedup_replaceFlags : t ∈ dedup (replaceFlags incoming [] xs) ↔
    t ∈ xs ∧ Stays incoming t ∨
      t ∈ incoming ∧ ∃ n, name? t = some n ∧ variants xs n ≠ [] := by
  rw [mem_dedup, mem_replaceFlags, stays_iff]
  refine or_congr_right ⟨?_, ?_⟩
  · rintro ⟨n, hn, ht, -, x, hx, hname⟩
    exact ⟨ht, n, hn, variants_ne_nil hx hname⟩
  · rintro ⟨ht, n, hn, hv⟩
    obtain ⟨x, hx⟩ := List.exists_mem_of_ne_nil _ hv
    exact ⟨n, hn, ht, List.not_mem_nil, x, mem_variants.1 hx⟩

/-! ### The list afterwards -/

/-- What a list is like after incoming tokens have been set in another. -/
structure IsSet (existing incoming result : List String) : Prop where
  /-- A flag that comes in has its incoming variants, in their order and each once. -/
  flags : ∀ n, variants incoming n ≠ [] →
    variants result n = (variants incoming n).eraseDups
  /-- All other tokens are those that were there and then those that come in and are no flags, in
  their order and each once. -/
  others : result.filter (Stays incoming ·) =
    (existing.filter (Stays incoming ·) ++ incoming.filter (name? · = none)).eraseDups
  /-- The incoming variants of a flag that was there start where its first variant was: before them
  stands what was before it and stays, and the incoming variants of flags that were before it. -/
  slots : ∀ front t back n, existing = front ++ t :: back → name? t = some n →
    variants front n = [] → variants incoming n ≠ [] →
    ∃ before after, result = before ++ ((variants incoming n).eraseDups ++ after) ∧
      ∀ x, x ∈ before ↔ x ∈ front ∧ Stays incoming x ∨
        x ∈ incoming ∧ ∃ m, name? x = some m ∧ variants front m ≠ []
  /-- No token stands there twice. -/
  nodup : result.Nodup

/-- What a list is like after tokens have been set in it, whatever the list and the tokens. -/
theorem isSet_upsert (existing incoming : List String) :
    IsSet existing incoming (upsert existing incoming) where
  flags n hv := by rw [variants_upsert hv, dedup_eq_eraseDups]
  others := by rw [filter_upsert, dedup_eq_eraseDups]
  slots front t back n hsplit hn hfront hv := by
    obtain ⟨after, hafter⟩ := exists_upsert_eq hv hn hfront back
    rw [dedup_eq_eraseDups (variants incoming n)] at hafter
    exact ⟨_, after, hsplit ▸ hafter, fun _ => mem_dedup_replaceFlags⟩
  nodup := by
    rw [upsert_eq_dedup]
    exact nodup_dedup _

/-- Two old values of a flag make way for two new ones in the slot of the first, and what is new
follows. -/
example : upsert ["x", "--a=1", "-v", "--a=2", "x"] ["--b", "--a=4", "--a=3", "-v"] =
    ["x", "--a=4", "--a=3", "-v", "--b"] := by decide

/-! ### Tokens that are set and removed -/

/-- To remove tokens is to keep what is none of them and no variant of a flag among them. -/
theorem remove_eq_filter (h : ∀ t ∈ incoming, Text.Trimmed t) (xs : List String) :
    remove xs incoming = xs.filter fun t => Stays incoming t ∧ t ∉ incoming := by
  have htrim : incoming.map Text.trim = incoming :=
    (List.map_congr_left h).trans (List.map_id incoming)
  have hflag (t : String) : (name? t).any (fun n => (incoming.filterMap name?).contains n) = false ↔
      Stays incoming t := by
    rw [stays_iff]
    cases hn : name? t with
    | none => simp
    | some n => simp [variants, List.filter_eq_nil_iff]
  rw [remove, htrim]
  refine List.filter_congr fun t _ => ?_
  rw [Bool.eq_iff_iff, Bool.and_eq_true, Bool.not_eq_true', Bool.not_eq_true', hflag]
  simp

/-- To remove the tokens that have been set leaves of a list what they have nothing to do with, in
its order and each token once: neither one of them nor a variant of a flag among them. -/
theorem remove_upsert (h : ∀ t ∈ incoming, Text.Trimmed t) (existing : List String) :
    remove (upsert existing incoming) incoming = remove existing.eraseDups incoming ∧
      remove existing.eraseDups incoming =
        existing.eraseDups.filter fun t => Stays incoming t ∧ t ∉ incoming := by
  refine ⟨?_, remove_eq_filter h _⟩
  have hfilter (xs : List String) : xs.filter (fun t => Stays incoming t ∧ t ∉ incoming) =
      (xs.filter (Stays incoming ·)).filter (· ∉ incoming) := by
    rw [List.filter_filter]
    exact List.filter_congr fun t _ => by rw [Bool.decide_and, Bool.and_comm]
  have hnone : (incoming.filter (name? · = none)).filter (· ∉ incoming) = [] :=
    List.filter_eq_nil_iff.2 fun t ht => by simpa using (List.mem_filter.1 ht).1
  -- What is new among the tokens that stay is removed because it came in.
  calc remove (upsert existing incoming) incoming
      = ((upsert existing incoming).filter (Stays incoming ·)).filter (· ∉ incoming) := by
        rw [remove_eq_filter h, hfilter]
    _ = dedup ((existing.filter (Stays incoming ·)).filter (· ∉ incoming)) := by
        rw [filter_upsert, filter_dedup, List.filter_append, hnone, List.append_nil]
    _ = remove existing.eraseDups incoming := by
        rw [remove_eq_filter h, hfilter, ← dedup_eq_eraseDups, filter_dedup, filter_dedup]

/-- Of old values, a new value, a short flag and a positional argument only what is no matter of
theirs is left. -/
theorem remove_upsert_values :
    remove (upsert ["x", "--a=1", "y", "--", "--a", "x"] ["--a=2", "-v", "y"])
      ["--a=2", "-v", "y"] = ["x", "--"] :=
  (remove_upsert (by decide) _).1.trans (by decide)

end FleetConfig.Flag
