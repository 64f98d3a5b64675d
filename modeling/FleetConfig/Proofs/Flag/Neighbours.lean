import FleetConfig.Proofs.Flag.Blocks
import Mathlib.Data.List.Chain

/-!
# Flags beside values in canonical form

In canonical form a flag may stand before a value that is not its own: there was a blank token
between them, or only tokens that are dropped because they stand there already. Then the form is not
stable, since the flag takes the value when the arguments are normalised once more.

## Main definitions

* `Flag.Apart` — a flag does not take the token after it.
* `Flag.Meets` — a flag comes to stand before a value that is not its own.

## Main results

* `Flag.normalize_eq_self_iff` — which canonical lists normalising leaves alone.
* `Flag.CutInto.isChain_dedup_iff` — where a flag comes to stand before a value.
* `Flag.exists_cutInto_stable_iff` — when normalising once more changes nothing.
-/

namespace FleetConfig.Flag

variable {switches tokens : List String} {bs : List Block} {block : Block} {t flag value : String}

/-! ### Lists that are stable -/

/-- Holds of neighbours if the one does not take the other as its value. -/
def Apart (switches : List String) (flag value : String) : Prop :=
  ¬(TakesValue switches flag ∧ IsValue value)

theorem apart_iff :
    Apart switches flag value ↔ ¬(takesValue switches flag && isValue value) = true := by
  rw [Apart, Bool.and_eq_true, takesValue_iff, isValue_iff]

theorem length_joinValues_le (switches tokens : List String) :
    (joinValues switches tokens).length ≤ tokens.length := by
  fun_induction joinValues switches tokens with
  | case1 => exact Nat.le_refl _
  | case2 => exact Nat.zero_le _
  | case3 => exact Nat.le_refl _
  | case4 next rest ih => exact Nat.le_succ_of_le ih
  | case5 token next rest _ _ ih => exact Nat.succ_le_succ (Nat.le_succ_of_le ih)
  | case6 token next rest _ _ ih => exact Nat.succ_le_succ ih

/-- A flag that takes the token after it leaves one token less. -/
theorem length_joinValues_lt (h : ¬tokens.IsChain (Apart switches)) :
    (joinValues switches tokens).length < tokens.length := by
  fun_induction joinValues switches tokens with
  | case1 => exact absurd List.isChain_nil h
  | case2 => exact absurd (List.isChain_singleton _) h
  | case3 token => exact absurd (List.isChain_singleton token) h
  | case4 next rest ih => exact Nat.lt_succ_of_le (length_joinValues_le switches (next :: rest))
  | case5 token next rest _ _ ih =>
    exact Nat.succ_lt_succ (Nat.lt_succ_of_le (length_joinValues_le switches rest))
  | case6 token next rest _ hjoin ih =>
    rw [List.isChain_cons_cons, and_iff_right (apart_iff.2 hjoin)] at h
    exact Nat.succ_lt_succ (ih h)

theorem joinValues_eq_self (hne : ∀ t ∈ tokens, t ≠ "") (h : tokens.IsChain (Apart switches)) :
    joinValues switches tokens = tokens := by
  fun_induction joinValues switches tokens with
  | case1 => rfl
  | case2 => exact absurd rfl (hne "" List.mem_cons_self)
  | case3 => rfl
  | case4 next rest ih => exact absurd rfl (hne "" List.mem_cons_self)
  | case5 token next rest _ hjoin ih =>
    exact absurd hjoin (apart_iff.1 (List.isChain_cons_cons.1 h).1)
  | case6 token next rest _ hjoin ih =>
    rw [ih (List.forall_mem_cons.1 hne).2 (List.isChain_cons_cons.1 h).2]

theorem length_dedup_le (xs : List String) : (dedup xs).length ≤ xs.length := by
  induction xs with
  | nil => exact Nat.le_refl _
  | cons x xs ih => exact Nat.succ_le_succ ((List.length_filter_le _ _).trans ih)

/-- A canonical list is stable exactly if no flag in it takes the token after it. -/
theorem normalize_eq_self_iff (h : Canonical tokens) :
    normalize switches tokens = tokens ↔ tokens.IsChain (Apart switches) := by
  have htrim : tokens.map Text.trim = tokens :=
    (List.map_congr_left fun t ht => (h.tidy t ht).trimmed).trans (List.map_id tokens)
  rw [normalize, htrim]
  constructor
  · intro hsame
    by_contra hchain
    have hshorter := length_joinValues_lt hchain
    have hle := length_dedup_le (joinValues switches tokens)
    rw [hsame] at hle
    exact absurd hshorter (Nat.not_lt.2 hle)
  · intro hchain
    rw [joinValues_eq_self (fun t ht => (h.tidy t ht).ne_empty) hchain, dedup_eq_self h.nodup]

/-! ### Flags that come to stand before a value -/

/-- A flag that stands by itself and a value that stands by itself come to be neighbours: both are
new, and all blocks between them repeat what stands before. -/
def Meets (switches : List String) (bs : List Block) : Prop :=
  ∃ front flag gap value back, bs = front ++ .single flag :: (gap ++ .single value :: back) ∧
    TakesValue switches flag ∧ IsValue value ∧
    flag ∉ front.map Block.text ∧ value ∉ front.map Block.text ∧
    ∀ block ∈ gap, block.text = flag ∨ block.text ∈ front.map Block.text

theorem TakesValue.ne_empty (h : TakesValue switches t) : t ≠ "" := by
  rintro rfl
  obtain ⟨c, cs, hchars⟩ := h.long
  cases hchars

/-- A flag that may take a value is not a value. -/
theorem TakesValue.not_isValue (h : TakesValue switches t) : ¬IsValue t := by
  intro hvalue
  obtain ⟨c, cs, hchars⟩ := h.long
  refine hvalue.noDash ?_
  rw [hchars]
  rfl

/-- The flag in a block with its value is one that may take it. -/
theorem CutInto.takesValue (h : CutInto switches tokens bs) (hmem : .pair flag value ∈ bs) :
    TakesValue switches flag := by
  obtain ⟨front, back, hsplit⟩ := List.append_of_mem hmem
  obtain ⟨before, first, after, -, -, hfirst, hpair⟩ := h.starts _ _ _ hsplit
  cases hfirst
  exact (hpair.1 ⟨flag, value, rfl⟩).1

theorem eq_single_of_takesValue (h : TakesValue switches block.text) :
    block = .single block.text := by
  cases block with
  | single token => rfl
  | pair flag value =>
    refine absurd ?_ h.bare
    simp [Block.text]

theorem CutInto.eq_single_of_isValue (h : CutInto switches tokens bs) (hmem : block ∈ bs)
    (hvalue : IsValue block.text) : block = .single block.text := by
  cases block with
  | single token => rfl
  | pair flag value =>
    obtain ⟨c, cs, hchars⟩ := (h.takesValue hmem).long
    refine absurd ?_ hvalue.noDash
    simp [Block.text, hchars]

/-- A flag and a value that is not its own are neighbours among the tokens that blocks become. -/
theorem CutInto.meets_iff (h : CutInto switches tokens bs) : Meets switches bs ↔
    ∃ flag value, (∃ front back, dedup (bs.map Block.text) = front ++ flag :: value :: back) ∧
      TakesValue switches flag ∧ IsValue value := by
  constructor
  · rintro ⟨front, flag, gap, value, back, rfl, hflag, hvalue, hnew, hnew', hgap⟩
    have hother : value ≠ flag := fun heq => hflag.not_isValue (heq ▸ hvalue)
    refine ⟨flag, value, exists_neighbours_dedup_iff.2 ⟨front.map Block.text, gap.map Block.text,
      back.map Block.text, ?_, hnew, ?_, ?_⟩, hflag, hvalue⟩
    · simp only [List.map_append, List.map_cons, Block.text]
    · rw [List.mem_append, List.mem_singleton]
      exact not_or.2 ⟨hnew', hother⟩
    · intro t ht
      obtain ⟨block, hblock, rfl⟩ := List.mem_map.1 ht
      rw [List.mem_append, List.mem_singleton]
      exact (hgap block hblock).symm
  · rintro ⟨flag, value, hneighbours, hflag, hvalue⟩
    obtain ⟨front, gap, back, hsplit, hnew, hnew', hgap⟩ :=
      exists_neighbours_dedup_iff.1 hneighbours
    obtain ⟨bs₁, bs₂, rfl, rfl, hsplit₁⟩ := List.map_eq_append_iff.1 hsplit
    obtain ⟨b, bs₃, rfl, rfl, hsplit₂⟩ := List.map_eq_cons_iff.1 hsplit₁
    obtain ⟨bs₄, bs₅, rfl, rfl, hsplit₃⟩ := List.map_eq_append_iff.1 hsplit₂
    obtain ⟨b', bs₆, rfl, rfl, rfl⟩ := List.map_eq_cons_iff.1 hsplit₃
    have hb : b = .single b.text := eq_single_of_takesValue hflag
    have hb' : b' = .single b'.text := h.eq_single_of_isValue (by simp) hvalue
    refine ⟨bs₁, b.text, bs₄, b'.text, bs₆, by rw [← hb, ← hb'], hflag, hvalue, hnew,
      fun hmem => hnew' (List.mem_append_left _ hmem), fun block hblock => ?_⟩
    have hrepeats := hgap _ (List.mem_map_of_mem hblock)
    rw [List.mem_append, List.mem_singleton] at hrepeats
    exact hrepeats.symm

/-- No flag takes the token after it exactly if none has come to stand before a value. -/
theorem CutInto.isChain_dedup_iff (h : CutInto switches tokens bs) :
    (dedup (bs.map Block.text)).IsChain (Apart switches) ↔ ¬Meets switches bs := by
  rw [List.isChain_iff_forall_rel_of_append_cons_cons, h.meets_iff]
  constructor
  · rintro hapart ⟨flag, value, ⟨front, back, heq⟩, hmeets⟩
    exact hapart heq hmeets
  · intro hnone flag value front back heq hmeets
    exact hnone ⟨flag, value, ⟨front, back, heq⟩, hmeets⟩

theorem filter_cons_of_ne_empty (h : t ≠ "") (ts : List String) :
    (t :: ts).filter (· ≠ "") = t :: ts.filter (· ≠ "") :=
  List.filter_cons_of_pos (decide_eq_true h)

/-- A flag that comes to stand before a value is followed by an empty token, or by a block that
stands before as well. -/
theorem CutInto.blank_or_repeated_of_meets (h : CutInto switches tokens bs)
    (hmeets : Meets switches bs) : "" ∈ tokens ∨ ¬(bs.map Block.text).Nodup := by
  obtain ⟨front, flag, gap, value, back, hsplit, hflag, hvalue, -, -, hgap⟩ := hmeets
  cases gap with
  | cons block gap =>
    refine .inr fun hnodup => ?_
    rw [hsplit, List.map_append, List.map_cons, List.cons_append, List.map_cons, List.append_cons]
      at hnodup
    have hnew := (List.nodup_middle.1 hnodup).notMem
    refine hnew (List.mem_append_left _ ?_)
    rw [List.mem_append, List.mem_singleton]
    exact (hgap block List.mem_cons_self).symm
  | nil =>
    -- The value is the next token that counts, but it is not the one given right after the flag.
    obtain ⟨before, first, after, htokens, hfront, hfirst, hpair⟩ := h.starts _ _ _ hsplit
    obtain rfl : flag = first := Option.some.inj hfirst
    have hcovers := h.covers
    rw [hsplit, htokens, List.flatMap_append, List.filter_append, hfront] at hcovers
    have hafter := List.append_cancel_left hcovers
    rw [filter_cons_of_ne_empty hflag.ne_empty] at hafter
    have hvalue' := (List.cons.inj hafter).2
    cases after with
    | nil => cases hvalue'
    | cons next after =>
      by_cases hnext : next = ""
      · exact .inl (htokens ▸ by simp [hnext])
      · rw [filter_cons_of_ne_empty hnext] at hvalue'
        obtain rfl : value = next := (List.cons.inj hvalue').1
        obtain ⟨_, _, ⟨⟩⟩ := hpair.2 ⟨hflag, value, rfl, hvalue⟩

/-- Arguments that are normalised once more stay the same exactly if no flag is left before a token
that it takes as its value. Of the blocks that they are cut into, none has come to stand before a
value then; for that it takes an empty token, or a block that stands there twice. -/
theorem exists_cutInto_stable_iff (switches tokens : List String) :
    ∃ bs, CutInto switches (tokens.map Text.trim) bs ∧
      normalize switches tokens = (bs.map Block.text).eraseDups ∧
      (normalize switches (normalize switches tokens) = normalize switches tokens ↔
        (normalize switches tokens).IsChain (Apart switches)) ∧
      ((normalize switches tokens).IsChain (Apart switches) ↔ ¬Meets switches bs) ∧
      (Meets switches bs → "" ∈ tokens.map Text.trim ∨ ¬(bs.map Block.text).Nodup) := by
  have hcut := cutInto_blocks switches (tokens.map Text.trim)
  have hnormal := normalize_eq_map_text switches tokens
  refine ⟨_, hcut, hnormal, normalize_eq_self_iff (canonical_normalize _ _), ?_,
    hcut.blank_or_repeated_of_meets⟩
  rw [hnormal, ← dedup_eq_eraseDups]
  exact hcut.isChain_dedup_iff

/-- A blank token is dropped, and so is a short flag that stands there twice: the flag before it
takes the value after it the second time. -/
theorem normalize_again_takes_value :
    normalize [] ["--a", "", "x"] = ["--a", "x"] ∧
      normalize [] (normalize [] ["--a", "", "x"]) ≠ normalize [] ["--a", "", "x"] ∧
      normalize [] ["-v", "--a", "-v", "x"] = ["-v", "--a", "x"] ∧
      normalize [] (normalize [] ["-v", "--a", "-v", "x"]) ≠
        normalize [] ["-v", "--a", "-v", "x"] := by
  decide

end FleetConfig.Flag
