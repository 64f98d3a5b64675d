import FleetConfig.Proofs.Flag.Canonical
import Mathlib.Data.List.Nodup

/-!
# Flags in their slots

Incoming variants of a flag take the slot of its first variant in a list. What stands in the slots
afterwards is known token by token, and to put the same variants there once more changes nothing.

## Main definitions

* `Flag.variants` — the tokens of a list that are a flag.

## Main results

* `Flag.mem_replaceFlags` — which tokens stand there afterwards.
* `Flag.dedup_replaceFlags` — equal tokens can be dropped before or after.
* `Flag.replaceFlags_append` — slots that are filled stay as they are.
-/

namespace FleetConfig.Flag

variable {incoming incoming' placed placed' xs ys ts : List String} {t token n : String}

/-! ### One token -/

/-- The tokens of a list that are the flag of a name. -/
def variants (tokens : List String) (n : String) : List String :=
  tokens.filter fun t => name? t == some n

theorem mem_variants : t ∈ variants xs n ↔ t ∈ xs ∧ name? t = some n := by
  rw [variants, List.mem_filter, beq_iff_eq]

theorem variants_append (xs ys : List String) (n : String) :
    variants (xs ++ ys) n = variants xs n ++ variants ys n :=
  List.filter_append _ _

theorem variants_eq_nil (h : ∀ x ∈ xs, name? x ≠ some n) : variants xs n = [] :=
  List.filter_eq_nil_iff.2 fun x hx => mt beq_iff_eq.1 (h x hx)

theorem variants_eq_self (h : ∀ x ∈ xs, name? x = some n) : variants xs n = xs :=
  List.filter_eq_self.2 fun x hx => beq_iff_eq.2 (h x hx)

/-- A token stays unless its flag has incoming variants. -/
theorem replaceFlags_cons_of_keep (h : ∀ n, name? t = some n → variants incoming n = []) :
    replaceFlags incoming placed (t :: ts) = t :: replaceFlags incoming placed ts := by
  rw [replaceFlags]
  split
  · rfl
  · rename_i n hn
    exact if_pos (List.isEmpty_iff.2 (h n hn))

/-- A later variant goes. -/
theorem replaceFlags_cons_of_placed (hn : name? t = some n) (hv : variants incoming n ≠ [])
    (hp : n ∈ placed) :
    replaceFlags incoming placed (t :: ts) = replaceFlags incoming placed ts := by
  rw [replaceFlags, hn]
  exact (if_neg (mt List.isEmpty_iff.1 hv)).trans (if_pos (List.contains_iff_mem.2 hp))

/-- The first variant makes room for the incoming ones. -/
theorem replaceFlags_cons_of_new (hn : name? t = some n) (hv : variants incoming n ≠ [])
    (hp : n ∉ placed) : replaceFlags incoming placed (t :: ts) =
      variants incoming n ++ replaceFlags incoming (n :: placed) ts := by
  rw [replaceFlags, hn]
  exact (if_neg (mt List.isEmpty_iff.1 hv)).trans (if_neg (mt List.contains_iff_mem.1 hp))

/-- One of the three happens to every token. -/
theorem slot_cases (incoming placed : List String) (t : String) :
    (∀ n, name? t = some n → variants incoming n = []) ∨
      ∃ n, name? t = some n ∧ variants incoming n ≠ [] ∧ (n ∈ placed ∨ n ∉ placed) := by
  cases hn : name? t with
  | none => exact .inl nofun
  | some n =>
    by_cases hv : variants incoming n = []
    · refine .inl fun m hm => ?_
      cases hm
      exact hv
    · exact .inr ⟨n, rfl, hv, Decidable.em _⟩

/-! ### The tokens afterwards -/

theorem variants_ne_nil (ht : t ∈ incoming) (hn : name? t = some n) : variants incoming n ≠ [] :=
  List.ne_nil_of_mem (mem_variants.2 ⟨ht, hn⟩)

/-- A token stands there if it was there and its flag has no incoming variants, or if it is one of
the incoming variants of a flag that was there and has not been placed. -/
theorem mem_replaceFlags : t ∈ replaceFlags incoming placed xs ↔
    (t ∈ xs ∧ ∀ n, name? t = some n → variants incoming n = []) ∨
      ∃ n, name? t = some n ∧ t ∈ incoming ∧ n ∉ placed ∧ ∃ x ∈ xs, name? x = some n := by
  induction xs generalizing placed with
  | nil => simp [replaceFlags]
  | cons x xs ih =>
    rcases slot_cases incoming placed x with hkeep | ⟨n, hn, hv, hp | hp⟩
    · rw [replaceFlags_cons_of_keep hkeep, List.mem_cons, ih]
      grind [variants_ne_nil]
    · rw [replaceFlags_cons_of_placed hn hv hp, ih]
      grind
    · rw [replaceFlags_cons_of_new hn hv hp, List.mem_append, ih, mem_variants]
      grind

/-- Of a flag that is placed nothing stands there. -/
theorem variants_replaceFlags_of_placed (hv : variants incoming n ≠ []) (hp : n ∈ placed) :
    variants (replaceFlags incoming placed xs) n = [] := by
  refine variants_eq_nil fun y hy hname => ?_
  rcases mem_replaceFlags.1 hy with ⟨-, hkeep⟩ | ⟨m, hm, -, hnew, -⟩
  · exact hv (hkeep n hname)
  · rw [hname, Option.some.injEq] at hm
    exact hnew (hm ▸ hp)

/-- Only the flags of the list matter: their incoming variants, and whether they are placed. -/
theorem replaceFlags_congr (h : ∀ x ∈ xs, ∀ n, name? x = some n →
      variants incoming n = variants incoming' n ∧ (n ∈ placed ↔ n ∈ placed')) :
    replaceFlags incoming placed xs = replaceFlags incoming' placed' xs := by
  induction xs generalizing placed placed' with
  | nil => rfl
  | cons x xs ih =>
    obtain ⟨hx, hxs⟩ := List.forall_mem_cons.1 h
    rcases slot_cases incoming placed x with hkeep | ⟨n, hn, hv, hp | hp⟩
    · have hkeep' : ∀ n, name? x = some n → variants incoming' n = [] := fun n hn => by
        rw [← (hx n hn).1, hkeep n hn]
      rw [replaceFlags_cons_of_keep hkeep, replaceFlags_cons_of_keep hkeep', ih hxs]
    · obtain ⟨hsame, hplaced⟩ := hx n hn
      rw [replaceFlags_cons_of_placed hn hv hp, ih hxs,
        replaceFlags_cons_of_placed hn (hsame ▸ hv) (hplaced.1 hp)]
    · obtain ⟨hsame, hplaced⟩ := hx n hn
      rw [replaceFlags_cons_of_new hn hv hp, hsame,
        replaceFlags_cons_of_new hn (hsame ▸ hv) (mt hplaced.2 hp)]
      congr 1
      refine ih fun y hy m hm => ⟨(hxs y hy m hm).1, ?_⟩
      rw [List.mem_cons, List.mem_cons, (hxs y hy m hm).2]

/-! ### Equal tokens -/

/-- A token that stays can be dropped before or after. -/
theorem replaceFlags_filter_ne (ht : ∀ n, name? t = some n → variants incoming n = []) :
    replaceFlags incoming placed (xs.filter (· != t)) =
      (replaceFlags incoming placed xs).filter (· != t) := by
  induction xs generalizing placed with
  | nil => rfl
  | cons x xs ih =>
    rcases slot_cases incoming placed x with hkeep | ⟨n, hn, hv, hplaced⟩
    · rw [replaceFlags_cons_of_keep hkeep]
      by_cases hx : x = t
      · rw [List.filter_cons_of_neg (by simpa using hx),
          List.filter_cons_of_neg (by simpa using hx), ih]
      · rw [List.filter_cons_of_pos (by simpa using hx),
          List.filter_cons_of_pos (by simpa using hx), replaceFlags_cons_of_keep hkeep, ih]
    · have hx : x ≠ t := fun heq => hv (ht n (heq ▸ hn))
      rw [List.filter_cons_of_pos (by simpa using hx)]
      rcases hplaced with hp | hp
      · rw [replaceFlags_cons_of_placed hn hv hp, replaceFlags_cons_of_placed hn hv hp, ih]
      · have hvariants : (variants incoming n).filter (· != t) = variants incoming n :=
          List.filter_eq_self.2 fun y hy => bne_iff_ne.2 fun heq =>
            hv (ht n (heq ▸ (mem_variants.1 hy).2))
        rw [replaceFlags_cons_of_new hn hv hp, replaceFlags_cons_of_new hn hv hp, ih,
          List.filter_append, hvariants]

/-- A later variant can be dropped. -/
theorem replaceFlags_filter_placed (hn : name? t = some n) (hv : variants incoming n ≠ [])
    (hp : n ∈ placed) : replaceFlags incoming placed (xs.filter (· != t)) =
      replaceFlags incoming placed xs := by
  induction xs generalizing placed with
  | nil => rfl
  | cons x xs ih =>
    by_cases hx : x = t
    · rw [List.filter_cons_of_neg (by simpa using hx), hx, replaceFlags_cons_of_placed hn hv hp,
        ih hp]
    · rw [List.filter_cons_of_pos (by simpa using hx)]
      rcases slot_cases incoming placed x with hkeep | ⟨m, hm, hv', hp' | hp'⟩
      · rw [replaceFlags_cons_of_keep hkeep, replaceFlags_cons_of_keep hkeep, ih hp]
      · rw [replaceFlags_cons_of_placed hm hv' hp', replaceFlags_cons_of_placed hm hv' hp', ih hp]
      · rw [replaceFlags_cons_of_new hm hv' hp', replaceFlags_cons_of_new hm hv' hp',
          ih (List.mem_cons_of_mem m hp)]

/-- Equal tokens can be dropped before or after. -/
theorem dedup_replaceFlags (hincoming : incoming.Nodup) (placed xs : List String) :
    dedup (replaceFlags incoming placed xs) = replaceFlags incoming placed (dedup xs) := by
  induction xs generalizing placed with
  | nil => rfl
  | cons x xs ih =>
    rw [dedup]
    rcases slot_cases incoming placed x with hkeep | ⟨n, hn, hv, hp | hp⟩
    · rw [replaceFlags_cons_of_keep hkeep, replaceFlags_cons_of_keep hkeep, dedup, ih,
        replaceFlags_filter_ne hkeep]
    · rw [replaceFlags_cons_of_placed hn hv hp, replaceFlags_cons_of_placed hn hv hp, ih,
        replaceFlags_filter_placed hn hv hp]
    · have hdisjoint : ∀ y ∈ replaceFlags incoming (n :: placed) xs, y ∉ variants incoming n :=
        fun y hy hy' => variants_ne_nil hy (mem_variants.1 hy').2
          (variants_replaceFlags_of_placed hv List.mem_cons_self)
      have hnodup : (variants incoming n).Nodup := hincoming.filter _
      rw [replaceFlags_cons_of_new hn hv hp, replaceFlags_cons_of_new hn hv hp,
        dedup_append_of_disjoint hdisjoint, dedup_eq_self hnodup, ih,
        replaceFlags_filter_placed hn hv List.mem_cons_self]

/-! ### Filled slots -/

/-- Variants of a flag that is placed go. -/
theorem replaceFlags_append_of_placed (hxs : ∀ x ∈ xs, name? x = some n)
    (hv : variants incoming n ≠ []) (hp : n ∈ placed) :
    replaceFlags incoming placed (xs ++ ys) = replaceFlags incoming placed ys := by
  induction xs with
  | nil => rfl
  | cons x xs ih =>
    obtain ⟨hx, hxs⟩ := List.forall_mem_cons.1 hxs
    rw [List.cons_append, replaceFlags_cons_of_placed hx hv hp, ih hxs]

/-- The incoming variants of a flag take the slot that they fill. -/
theorem replaceFlags_variants_append (hv : variants incoming n ≠ []) (hp : n ∉ placed) :
    replaceFlags incoming placed (variants incoming n ++ ys) =
      variants incoming n ++ replaceFlags incoming (n :: placed) ys := by
  obtain ⟨v, vs, hvs⟩ := List.exists_cons_of_ne_nil hv
  have hnames : ∀ x ∈ v :: vs, name? x = some n := fun x hx => (mem_variants.1 (hvs ▸ hx)).2
  obtain ⟨hhead, htail⟩ := List.forall_mem_cons.1 hnames
  conv_lhs => rw [hvs, List.cons_append, replaceFlags_cons_of_new hhead hv hp,
    replaceFlags_append_of_placed htail hv List.mem_cons_self]

/-- Slots that are filled stay as they are, before tokens that are other flags. -/
theorem replaceFlags_append
    (hother : ∀ x ∈ xs, ∀ n, name? x = some n → ∀ y ∈ ys, name? y ≠ some n) :
    replaceFlags incoming placed (replaceFlags incoming placed xs ++ ys) =
      replaceFlags incoming placed xs ++ replaceFlags incoming placed ys := by
  induction xs generalizing placed with
  | nil => rfl
  | cons x xs ih =>
    obtain ⟨hx, hxs⟩ := List.forall_mem_cons.1 hother
    rcases slot_cases incoming placed x with hkeep | ⟨n, hn, hv, hp | hp⟩
    · rw [replaceFlags_cons_of_keep hkeep, List.cons_append, replaceFlags_cons_of_keep hkeep,
        ih hxs, List.cons_append]
    · rw [replaceFlags_cons_of_placed hn hv hp, ih hxs]
    · -- The flag is none of those that follow, so it does not matter that it is placed.
      have hlater : replaceFlags incoming (n :: placed) ys = replaceFlags incoming placed ys :=
        replaceFlags_congr fun y hy m hm => ⟨rfl, List.mem_cons.trans (or_iff_right
          fun heq : m = n => hx n hn y hy (heq ▸ hm))⟩
      rw [replaceFlags_cons_of_new hn hv hp, List.append_assoc, replaceFlags_variants_append hv hp,
        ih hxs, hlater, List.append_assoc]

/-- To put the same variants into their slots once more changes nothing. -/
theorem replaceFlags_replaceFlags :
    replaceFlags incoming placed (replaceFlags incoming placed xs) =
      replaceFlags incoming placed xs := by
  have happend : replaceFlags incoming placed (replaceFlags incoming placed xs ++ []) =
      replaceFlags incoming placed xs ++ replaceFlags incoming placed [] :=
    replaceFlags_append fun _ _ _ _ => nofun
  rwa [List.append_nil, replaceFlags, List.append_nil] at happend

end FleetConfig.Flag
