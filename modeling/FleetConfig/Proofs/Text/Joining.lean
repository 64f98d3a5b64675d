import FleetConfig.Proofs.Text.Cutting

/-!
# Pieces and the text they make

The pieces of a text, joined again, are the text. What stands before a separator and what follows it
have pieces of their own, and these are the pieces of the whole. A text is cut at the last separator
where no other one follows.

## Main results

* `Text.pieces_append_sep`, `Text.intercalate_pieces`, `Text.flatMap_pieces`,
  `Text.pieces_flatMap_append`, `Text.pieces_intercalate` — pieces.
* `Text.forall_mem_pieces_iff`, `Text.not_mem_of_mem_pieces` — what is in them.
* `Text.join_split`, `Text.split_join` — the same for texts.
* `Text.cutLast_eq_some_iff`, `Text.cutLast_eq_none_iff` — the last cut.
* `Text.afterStart?_eq_some_iff`, `Text.occursIn_iff` — texts in other texts.
-/

namespace FleetConfig.Text

variable {sep : Char} {cs front back : List Char}

/-- What is said of each character of a text is decided along the text. -/
instance decidableForallMem {p : Char → Prop} [DecidablePred p] (cs : List Char) :
    Decidable (∀ c ∈ cs, p c) :=
  List.decidableBAll p cs

/-! ### Pieces -/

/-- A text without the separator is its only piece. -/
theorem pieces_of_not_mem (h : sep ∉ cs) : pieces sep cs = [cs] := by
  induction cs with
  | nil => rfl
  | cons c cs ih =>
    obtain ⟨hc, hcs⟩ := not_or.1 (mt List.mem_cons.2 h)
    rw [pieces, if_neg (Ne.symm hc), ih hcs]

/-- A separator ends a piece. -/
theorem pieces_append_sep (sep : Char) (cs ds : List Char) :
    pieces sep (cs ++ sep :: ds) = pieces sep cs ++ pieces sep ds := by
  induction cs with
  | nil => exact if_pos rfl
  | cons c cs ih =>
    rw [List.cons_append, pieces, ih, pieces]
    split
    · rfl
    · obtain ⟨p, ps, hpieces⟩ := List.exists_cons_of_ne_nil (pieces_ne_nil sep cs)
      rw [hpieces]
      rfl

/-- The pieces make the text again. -/
theorem intercalate_pieces (sep : Char) (cs : List Char) :
    [sep].intercalate (pieces sep cs) = cs := by
  induction cs with
  | nil => rfl
  | cons c cs ih =>
    obtain ⟨p, ps, hpieces⟩ := List.exists_cons_of_ne_nil (pieces_ne_nil sep cs)
    rw [hpieces] at ih
    rw [pieces, hpieces]
    split
    · rename_i hc
      rw [hc, List.intercalate_cons_cons, ih]
      rfl
    · cases ps with
      | nil =>
        rw [List.intercalate_singleton] at ih ⊢
        rw [ih]
      | cons q qs =>
        rw [List.intercalate_cons_cons] at ih ⊢
        rw [List.cons_append, List.cons_append]
        rw [ih]

/-- With a separator in front of each of them, the pieces are the text with one in front. -/
theorem flatMap_pieces (sep : Char) (cs : List Char) :
    (pieces sep cs).flatMap (sep :: ·) = sep :: cs := by
  induction cs with
  | nil => rfl
  | cons c cs ih =>
    rw [pieces]
    split
    · rename_i hc
      rw [List.flatMap_cons, ih, hc]
      rfl
    · obtain ⟨p, ps, hps⟩ := List.exists_cons_of_ne_nil (pieces_ne_nil sep cs)
      rw [hps, List.flatMap_cons] at ih
      rw [hps, List.flatMap_cons]
      exact congrArg (sep :: c :: ·) (List.tail_eq_of_cons_eq ih)

/-- Texts that each end with a separator are pieces of what they make. -/
theorem pieces_flatMap_append {ps : List (List Char)} (h : ∀ p ∈ ps, sep ∉ p) (cs : List Char) :
    pieces sep (ps.flatMap (· ++ [sep]) ++ cs) = ps ++ pieces sep cs := by
  induction ps with
  | nil => rfl
  | cons p ps ih =>
    obtain ⟨hp, hps⟩ := List.forall_mem_cons.1 h
    rw [List.flatMap_cons, List.append_assoc, List.append_assoc, List.singleton_append,
      pieces_append hp, ih hps, List.cons_append]

/-- Texts without the separator are the pieces of the text they make. -/
theorem pieces_intercalate {ps : List (List Char)} (hne : ps ≠ []) (h : ∀ p ∈ ps, sep ∉ p) :
    pieces sep ([sep].intercalate ps) = ps := by
  induction ps with
  | nil => exact absurd rfl hne
  | cons p ps ih =>
    obtain ⟨hp, hps⟩ := List.forall_mem_cons.1 h
    cases ps with
    | nil => rw [List.intercalate_singleton, pieces_of_not_mem hp]
    | cons q qs =>
      rw [List.intercalate_cons_cons, List.append_assoc, List.singleton_append, pieces_append hp,
        ih (List.cons_ne_nil q qs) hps]

/-- What is asked of the characters of all pieces is asked of all but the separators. -/
theorem forall_mem_pieces_iff {P : Char → Prop} :
    (∀ piece ∈ pieces sep cs, ∀ c ∈ piece, P c) ↔ ∀ c ∈ cs, c = sep ∨ P c := by
  induction cs with
  | nil => simp [pieces]
  | cons c cs ih =>
    rw [pieces, List.forall_mem_cons, ← ih]
    split
    · rename_i hsep
      simp [hsep]
    · rename_i hsep
      cases pieces sep cs with
      | nil => simp [hsep]
      | cons piece rest => simp [hsep, and_assoc]

/-- There is no separator in a piece. -/
theorem not_mem_of_mem_pieces {piece : List Char} (h : piece ∈ pieces sep cs) : sep ∉ piece :=
  have hall : ∀ p ∈ pieces sep cs, ∀ c ∈ p, c ≠ sep :=
    forall_mem_pieces_iff.2 fun c _ => Decidable.em (c = sep)
  fun hsep => hall piece h sep hsep rfl

/-- What is put together from pieces has no other characters. -/
theorem mem_of_mem_intercalate {c : Char} {ps : List (List Char)}
    (h : c ∈ [sep].intercalate ps) : c = sep ∨ ∃ p ∈ ps, c ∈ p := by
  induction ps with
  | nil => cases h
  | cons p ps ih =>
    cases ps with
    | nil =>
      rw [List.intercalate_singleton] at h
      exact .inr ⟨p, List.mem_cons_self, h⟩
    | cons q qs =>
      rw [List.intercalate_cons_cons, List.mem_append, List.mem_append, List.mem_singleton] at h
      obtain (h | h) | h := h
      · exact .inr ⟨p, List.mem_cons_self, h⟩
      · exact .inl h
      · obtain h | ⟨r, hr, h⟩ := ih h
        · exact .inl h
        · exact .inr ⟨r, List.mem_cons_of_mem p hr, h⟩

/-! ### Joining -/

theorem toList_join (sep : String) (ps : List String) :
    (join sep ps).toList = sep.toList.intercalate (ps.map String.toList) := by
  induction ps using join.induct with
  | case1 => rfl
  | case2 p => rw [join, List.map_singleton, List.intercalate_singleton]
  | case3 p q ps ih =>
    rw [join, String.toList_append, String.toList_append, ih, List.map_cons, List.map_cons,
      List.map_cons, List.intercalate_cons_cons]

/-- Texts without the separator are the pieces of the text they make. -/
theorem split_join {sep : Char} {ps : List String} (hne : ps ≠ []) (h : ∀ p ∈ ps, sep ∉ p.toList) :
    split sep (join (String.singleton sep) ps) = ps := by
  have hpieces := pieces_intercalate (mt List.map_eq_nil_iff.1 hne) (List.forall_mem_map.2 h)
  rw [split, toList_join, String.toList_singleton, hpieces, List.map_map]
  have hmap : String.ofList ∘ String.toList = id := funext fun s => String.ofList_toList
  rw [hmap, List.map_id]

theorem split_ne_nil (sep : Char) (s : String) : split sep s ≠ [] :=
  mt List.map_eq_nil_iff.1 (pieces_ne_nil sep s.toList)

theorem join_cons {p : String} {ps : List String} (sep : String) (h : ps ≠ []) :
    join sep (p :: ps) = p ++ sep ++ join sep ps := by
  obtain ⟨q, qs, rfl⟩ := List.exists_cons_of_ne_nil h
  rfl

/-! ### The last cut -/

theorem cutLast_eq_none_iff : cutLast sep cs = none ↔ sep ∉ cs := by
  induction cs with
  | nil => exact iff_of_true rfl List.not_mem_nil
  | cons c cs ih =>
    rw [cutLast, List.mem_cons, not_or, ← ih]
    cases cutLast sep cs with
    | none => simp [eq_comm]
    | some p => simp

theorem cutLast_append (h : sep ∉ back) :
    cutLast sep (front ++ sep :: back) = some (front, back) := by
  induction front with
  | nil => rw [List.nil_append, cutLast, cutLast_eq_none_iff.2 h, if_pos rfl]
  | cons c front ih => rw [List.cons_append, cutLast, ih]

/-- The last separator is the one that no other one follows. -/
theorem cutLast_eq_some_iff :
    cutLast sep cs = some (front, back) ↔ cs = front ++ sep :: back ∧ sep ∉ back := by
  refine ⟨fun h => ?_, fun h => h.1 ▸ cutLast_append h.2⟩
  induction cs generalizing front with
  | nil => cases h
  | cons c cs ih =>
    rw [cutLast] at h
    split at h
    · rename_i hcut
      cases h
      obtain ⟨hcs, hback⟩ := ih hcut
      exact ⟨congrArg (c :: ·) hcs, hback⟩
    · rename_i hcut
      split at h
      · rename_i hc
        cases h
        exact ⟨by rw [hc, List.nil_append], cutLast_eq_none_iff.1 hcut⟩
      · cases h

/-! ### Texts in other texts -/

theorem afterStart?_eq_some_iff {start rest : List Char} :
    afterStart? start cs = some rest ↔ cs = start ++ rest := by
  induction start, cs using afterStart?.induct with
  | case1 cs => rw [afterStart?, Option.some.injEq, List.nil_append]
  | case2 => simp [afterStart?]
  | case3 p ps cs ih =>
    rw [afterStart?, if_pos rfl, ih, List.cons_append, List.cons.injEq]
    exact (and_iff_right rfl).symm
  | case4 p ps c cs hpc =>
    rw [afterStart?, if_neg hpc, List.cons_append, List.cons.injEq]
    exact ⟨nofun, fun h => absurd h.1.symm hpc⟩

theorem startsWith_iff {start : List Char} : startsWith start cs = true ↔ start <+: cs := by
  rw [startsWith, Option.isSome_iff_exists]
  exact exists_congr fun rest => afterStart?_eq_some_iff.trans eq_comm

theorem occursIn_iff {needle : List Char} : occursIn needle cs = true ↔ needle <:+: cs := by
  induction cs with
  | nil => rw [occursIn, List.isEmpty_iff, List.infix_nil]
  | cons c cs ih => rw [occursIn, Bool.or_eq_true, startsWith_iff, ih, List.infix_cons_iff]

end FleetConfig.Text
