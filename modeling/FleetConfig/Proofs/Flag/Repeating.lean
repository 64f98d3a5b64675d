import FleetConfig.Proofs.Flag.Replacing

/-!
# Arguments that are set again

Tokens that are new to a list are appended in the order in which they come, but variants of a flag
that is there take one slot together. So when the same tokens are set again, the variants of a flag
that was new move together, and the list stays as it is exactly if nothing stood between them. The
list has settled after the second time.

## Main definitions

* `Flag.added` — the incoming tokens that are new to a list.
* `Flag.Together` — nothing stands between two variants of a flag.

## Main results

* `Flag.upsert_eq` — the list after tokens are set for the first time.
* `Flag.upsert_upsert`, `Flag.upsert_upsert_upsert` — the list after the second and the third time.
* `Flag.replaceFlags_eq_self_iff` — when variants in their own slots stay where they are.
* `Flag.upsert_again_iff` — when tokens that are set again change nothing.
-/

namespace FleetConfig.Flag

variable {existing incoming xs ys ts : List String} {placed : List String} {t n : String}

/-! ### New tokens -/

/-- The incoming tokens that are new to a list: they are not there, and neither is their flag. -/
def added (existing incoming : List String) : List String :=
  incoming.filter fun t =>
    t ∉ existing ∧ ∀ x ∈ existing, name? x = name? t → name? t = none

/-- The list with the incoming variants in the slots of the flags that are there. -/
def filled (existing incoming : List String) : List String :=
  replaceFlags incoming [] (dedup existing)

theorem mem_added : t ∈ added existing incoming ↔
    t ∈ incoming ∧ t ∉ existing ∧ ∀ x ∈ existing, name? x = name? t → name? t = none := by
  rw [added, List.mem_filter, decide_eq_true_eq]

/-- The new tokens are those that stand in no slot. -/
theorem mem_added_iff : t ∈ added existing incoming ↔
    t ∈ incoming ∧ t ∉ filled existing incoming := by
  rw [mem_added, filled, mem_replaceFlags]
  refine and_congr_right fun ht => ?_
  cases hn : name? t with
  | none => simp [mem_dedup]
  | some n =>
    have hv := variants_ne_nil ht hn
    simp only [mem_dedup]
    grind

/-- The new tokens follow what stands in the slots. -/
theorem upsert_eq (hincoming : incoming.Nodup) (existing : List String) :
    upsert existing incoming = filled existing incoming ++ added existing incoming := by
  have hadded : incoming.filter (· ∉ filled existing incoming) = added existing incoming := by
    refine List.filter_congr fun t ht => decide_eq_decide.2 ?_
    rw [← and_iff_right (b := t ∉ filled existing incoming) ht, ← mem_added_iff, mem_added,
      and_iff_right ht]
  rw [upsert, dedup_replaceFlags hincoming, merge_eq, dedup_eq_self hincoming, ← filled, hadded]

/-! ### The second time -/

theorem nodup_filled (hincoming : incoming.Nodup) (existing : List String) :
    (filled existing incoming).Nodup := by
  rw [filled, ← dedup_replaceFlags hincoming]
  exact nodup_dedup _

theorem nodup_replaceFlags (hincoming : incoming.Nodup) (hxs : xs.Nodup) :
    (replaceFlags incoming placed xs).Nodup := by
  have hdedup := nodup_dedup (replaceFlags incoming placed xs)
  rwa [dedup_replaceFlags hincoming, dedup_eq_self hxs] at hdedup

/-- In slots of their own the new tokens are the same. -/
theorem mem_replaceFlags_iff_mem_added (h : ∀ t, t ∈ xs ↔ t ∈ added existing incoming)
    (t : String) : t ∈ replaceFlags incoming [] xs ↔ t ∈ added existing incoming := by
  rw [mem_replaceFlags]
  simp only [h, mem_added]
  cases hn : name? t with
  | none => simp
  | some n =>
    have hv := @variants_ne_nil incoming t n
    grind

/-- When the tokens are set once more, the new ones get slots of their own. -/
theorem upsert_append (hincoming : incoming.Nodup) (hxs : xs.Nodup)
    (hmem : ∀ t, t ∈ xs ↔ t ∈ added existing incoming) :
    upsert (filled existing incoming ++ xs) incoming =
      filled existing incoming ++ replaceFlags incoming [] xs := by
  have hother : ∀ x ∈ dedup existing, ∀ n, name? x = some n → ∀ y ∈ xs, name? y ≠ some n := by
    intro x hx n hn y hy hy'
    have hnone := (mem_added.1 ((hmem y).1 hy)).2.2 x (mem_dedup.1 hx) (hn.trans hy'.symm)
    rw [hnone] at hy'
    cases hy'
  have hslots : replaceFlags incoming [] (filled existing incoming ++ xs) =
      filled existing incoming ++ replaceFlags incoming [] xs := replaceFlags_append hother
  have hsame := mem_replaceFlags_iff_mem_added hmem
  have hnodup : (filled existing incoming ++ replaceFlags incoming [] xs).Nodup :=
    (nodup_filled hincoming existing).append (nodup_replaceFlags hincoming hxs)
      fun t ht ht' => (mem_added_iff.1 ((hsame t).1 ht')).2 ht
  have hnone : incoming.filter
      (· ∉ filled existing incoming ++ replaceFlags incoming [] xs) = [] := by
    refine List.filter_eq_nil_iff.2 fun t ht => ?_
    rw [decide_eq_true_eq, not_not, List.mem_append, hsame, mem_added_iff, and_iff_right ht]
    exact Decidable.em _
  rw [upsert, hslots, dedup_eq_self hnodup, merge_eq, dedup_eq_self hincoming, hnone,
    List.append_nil]

theorem upsert_upsert (hincoming : incoming.Nodup) (existing : List String) :
    upsert (upsert existing incoming) incoming =
      filled existing incoming ++ replaceFlags incoming [] (added existing incoming) := by
  rw [upsert_eq hincoming existing]
  exact upsert_append hincoming (hincoming.filter _) fun _ => Iff.rfl

/-- The list has settled after the second time. -/
theorem upsert_upsert_upsert (hincoming : incoming.Nodup) (existing : List String) :
    upsert (upsert (upsert existing incoming) incoming) incoming =
      upsert (upsert existing incoming) incoming := by
  have hnodup : (added existing incoming).Nodup := hincoming.filter _
  have hsecond := upsert_upsert hincoming existing
  rw [hsecond, upsert_append hincoming (nodup_replaceFlags hincoming hnodup)
    (mem_replaceFlags_iff_mem_added fun _ => Iff.rfl), replaceFlags_replaceFlags]

/-! ### Variants that stand together -/

/-- Nothing else stands between two variants of a flag. -/
def Together (ts : List String) : Prop :=
  ∀ a ∈ ts, ∀ b ∈ ts, ∀ c ∈ ts, [a, b, c].Sublist ts → name? a = name? c →
    name? b = name? a ∨ name? a = none

instance (ts : List String) : Decidable (Together ts) :=
  inferInstanceAs (Decidable (∀ a ∈ ts, ∀ b ∈ ts, ∀ c ∈ ts, _))

theorem together_iff : Together ts ↔ ∀ a b c, [a, b, c].Sublist ts → name? a = name? c →
    name? b = name? a ∨ name? a = none := by
  refine ⟨fun h a b c hsub => ?_, fun h a _ b _ c _ => h a b c⟩
  have hmem := hsub.subset
  exact h a (hmem (by simp)) b (hmem (by simp)) c (hmem (by simp)) hsub

theorem Together.sublist (h : Together ts) (hsub : xs.Sublist ts) : Together xs :=
  together_iff.2 fun a b c habc => together_iff.1 h a b c (habc.trans hsub)

/-- A token that is no flag can stand before tokens that stand together. -/
theorem Together.cons (hn : name? t = none) (h : Together ts) : Together (t :: ts) := by
  rw [together_iff] at h ⊢
  intro a b c hsub hname
  cases hsub with
  | cons _ hsub => exact h a b c hsub hname
  | cons_cons _ _ => exact .inr hn

/-- So can variants of a flag of which there are no variants among those tokens. -/
theorem Together.append (hxs : ∀ x ∈ xs, name? x = some n) (hys : ∀ y ∈ ys, name? y ≠ some n)
    (h : Together ys) : Together (xs ++ ys) := by
  rw [together_iff] at h ⊢
  intro a b c hsub hname
  obtain ⟨front, rest, hsplit, hfront, hrest⟩ := List.sublist_append_iff.1 hsub
  match front, hsplit, hfront with
  | [], hsplit, _ => exact h a b c (hsplit ▸ hrest) hname
  | a' :: front, hsplit, hfront =>
    obtain ⟨rfl, htail⟩ := List.cons.inj hsplit
    have ha := hxs a (hfront.subset List.mem_cons_self)
    match front, htail, hfront with
    | [], htail, _ =>
      -- The third token would be a variant after the others.
      obtain rfl : [b, c] = rest := htail
      have hc := hrest.subset (List.mem_cons_of_mem b List.mem_cons_self)
      exact absurd (hname.symm.trans ha) (hys c hc)
    | b' :: front, htail, hfront =>
      obtain ⟨rfl, -⟩ := List.cons.inj htail
      have hb := hxs b (hfront.subset (List.mem_cons_of_mem a List.mem_cons_self))
      exact .inl (hb.trans ha.symm)

/-- Incoming variants stand together in their slots. -/
theorem together_replaceFlags (hxs : ∀ x ∈ xs, x ∈ incoming) (placed : List String) :
    Together (replaceFlags incoming placed xs) := by
  induction xs generalizing placed with
  | nil => exact nofun
  | cons x xs ih =>
    obtain ⟨hx, hxs⟩ := List.forall_mem_cons.1 hxs
    rcases slot_cases incoming placed x with hkeep | ⟨n, hn, hv, hp | hp⟩
    · have hnone : name? x = none := by
        cases hn : name? x with
        | none => rfl
        | some n => exact absurd (hkeep n hn) (variants_ne_nil hx hn)
      rw [replaceFlags_cons_of_keep hkeep]
      exact (ih hxs placed).cons hnone
    · rw [replaceFlags_cons_of_placed hn hv hp]
      exact ih hxs placed
    · rw [replaceFlags_cons_of_new hn hv hp]
      refine .append (fun y hy => (mem_variants.1 hy).2) (fun y hy hname => ?_) (ih hxs _)
      rcases mem_replaceFlags.1 hy with ⟨-, hnone⟩ | ⟨m, hm, -, hnew, -⟩
      · exact hv (hnone n hname)
      · cases hname.symm.trans hm
        exact hnew List.mem_cons_self

/-- If the first token is a flag, no variant of it follows a token that is not one. -/
theorem Together.name_ne (h : Together (t :: ts)) (hn : name? t = some n) :
    ∀ y ∈ ts.dropWhile (name? · == some n), name? y ≠ some n := by
  have hdropped := List.dropWhile_sublist (l := ts) (name? · == some n)
  have hhead := List.head?_dropWhile_not (name? · == some n) ts
  generalize ts.dropWhile (name? · == some n) = rest at hdropped hhead
  cases rest with
  | nil => exact nofun
  | cons b rest =>
    have hb : name? b ≠ some n := by simpa using hhead
    refine List.forall_mem_cons.2 ⟨hb, fun y hy hname => ?_⟩
    have hsub : [t, b, y].Sublist (t :: ts) :=
      (((List.singleton_sublist.2 hy).cons_cons b).trans hdropped).cons_cons t
    rcases together_iff.1 h t b y hsub (hn.trans hname.symm) with hsame | hnone
    · exact hb (hsame.trans hn)
    · cases hn.symm.trans hnone

/-- If the first token is a flag, all its variants stand first. -/
theorem Together.exists_append (h : Together (t :: ts)) (hn : name? t = some n) :
    ∃ rest, t :: ts = variants (t :: ts) n ++ rest ∧ ∀ y ∈ rest, name? y ≠ some n := by
  have hrest := h.name_ne hn
  have hfront : ∀ y ∈ ts.takeWhile (name? · == some n), name? y = some n :=
    fun y hy => beq_iff_eq.1 (List.mem_takeWhile_imp (p := (name? · == some n)) hy)
  have hvariants : variants ts n = ts.takeWhile (name? · == some n) := by
    conv_lhs => rw [← List.takeWhile_append_dropWhile (p := (name? · == some n)) (l := ts)]
    rw [variants_append, variants_eq_self hfront, variants_eq_nil hrest, List.append_nil]
  refine ⟨_, ?_, hrest⟩
  have hcons : variants (t :: ts) n = t :: variants ts n :=
    List.filter_cons_of_pos (beq_iff_eq.2 hn)
  rw [hcons, hvariants, List.cons_append, List.takeWhile_append_dropWhile]

/-- If all variants of a flag stand first, they stay there, and what follows is put into its own
slots. -/
theorem replaceFlags_of_eq_append (hv : variants ts n ≠ []) (hsplit : ts = variants ts n ++ xs)
    (hxs : ∀ x ∈ xs, name? x ≠ some n) :
    replaceFlags ts [] ts = variants ts n ++ replaceFlags xs [] xs := by
  -- The flags after the first are others, and all their variants are there.
  have hothers : replaceFlags ts [n] xs = replaceFlags xs [] xs := by
    refine replaceFlags_congr fun x hx m hm => ?_
    have hne : n ≠ m := fun heq => hxs x hx (heq ▸ hm)
    have hnone : variants (variants ts n) m = [] := variants_eq_nil fun y hy heq =>
      hne (Option.some.inj ((mem_variants.1 hy).2.symm.trans heq))
    have hsame := congrArg (variants · m) hsplit
    simp only [variants_append, hnone, List.nil_append] at hsame
    exact ⟨hsame, by simpa using hne.symm⟩
  calc replaceFlags ts [] ts
      = replaceFlags ts [] (variants ts n ++ xs) := by rw [← hsplit]
    _ = variants ts n ++ replaceFlags ts [n] xs :=
        replaceFlags_variants_append hv List.not_mem_nil
    _ = variants ts n ++ replaceFlags xs [] xs := by rw [hothers]

/-- Variants that stand together stay where they are. -/
theorem replaceFlags_of_together (h : Together ts) : replaceFlags ts [] ts = ts := by
  induction hlength : ts.length using Nat.strong_induction_on generalizing ts with
  | _ length ih =>
    cases ts with
    | nil => rfl
    | cons t ts =>
      cases hn : name? t with
      | none =>
        have hvariants (n : String) : variants (t :: ts) n = variants ts n :=
          List.filter_cons_of_neg (by simp [hn])
        have hsame : replaceFlags (t :: ts) [] ts = replaceFlags ts [] ts :=
          replaceFlags_congr fun _ _ n _ => ⟨hvariants n, Iff.rfl⟩
        have hshorter : ts.length < length := hlength ▸ Nat.lt_succ_self _
        rw [replaceFlags_cons_of_keep (by simp [hn]), hsame,
          ih _ hshorter (h.sublist (List.sublist_cons_self t ts)) rfl]
      | some n =>
        obtain ⟨rest, hsplit, hrest⟩ := h.exists_append hn
        have hv := variants_ne_nil (List.mem_cons_self (a := t) (l := ts)) hn
        have hsub : rest.Sublist (t :: ts) := hsplit ▸ List.sublist_append_right _ rest
        have hshorter : rest.length < length := by
          have hpos := List.length_pos_of_ne_nil hv
          rw [← hlength, hsplit, List.length_append]
          omega
        rw [replaceFlags_of_eq_append hv hsplit hrest, ih _ hshorter (h.sublist hsub) rfl, ← hsplit]

/-- Variants stay where they are exactly if they stand together. -/
theorem replaceFlags_eq_self_iff : replaceFlags ts [] ts = ts ↔ Together ts :=
  ⟨fun h => h ▸ together_replaceFlags (fun _ hx => hx) [], replaceFlags_of_together⟩

/-- A new flag is new with all its incoming variants. -/
theorem variants_added (ht : t ∈ added existing incoming) (hn : name? t = some n) :
    variants (added existing incoming) n = variants incoming n := by
  obtain ⟨-, -, hnew⟩ := mem_added.1 ht
  have hother : ∀ x ∈ existing, name? x ≠ some n := fun x hx hxn => by
    have hnone := hnew x hx (hxn.trans hn.symm)
    cases hnone.symm.trans hn
  rw [variants, variants, added, List.filter_filter]
  refine List.filter_congr fun y _ => ?_
  cases hy : name? y == some n with
  | false => rfl
  | true =>
    have hyn := beq_iff_eq.1 hy
    refine decide_eq_true ⟨fun hmem => hother y hmem hyn, fun x hx hxy => ?_⟩
    exact absurd (hxy.trans hyn) (hother x hx)

/-- Tokens that are set again change nothing exactly if the new ones stood together. -/
theorem upsert_again_iff (hincoming : incoming.Nodup) (existing : List String) :
    upsert (upsert existing incoming) incoming = upsert existing incoming ↔
      Together (added existing incoming) := by
  have hslots : replaceFlags incoming [] (added existing incoming) =
      replaceFlags (added existing incoming) [] (added existing incoming) :=
    replaceFlags_congr fun t ht n hn => ⟨(variants_added ht hn).symm, Iff.rfl⟩
  rw [upsert_upsert hincoming, upsert_eq hincoming, List.append_cancel_left_eq, hslots,
    replaceFlags_eq_self_iff]

end FleetConfig.Flag
