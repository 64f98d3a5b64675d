import FleetConfig.Text.Split

/-!
# Cutting text

A character is found where a text without it ends. So a row of texts, each ended by a line feed, is
cut into these texts if there is no line feed in them, and into more lines otherwise. A run of
characters of a kind ends where a character of another kind stands.

## Main results

* `Text.takeWhile_run`, `Text.dropWhile_run` — a run and what follows it.
* `Text.cutFirst_append`, `Text.not_mem_of_cutFirst` — the first cut.
* `Text.lines_append` — a line and the lines that follow it.
* `Text.count_le_length_lines` — there is a line for each line feed.
-/

namespace FleetConfig.Text

variable {sep : Char} {cs ds line : List Char}

/-! ### Runs -/

section Runs

variable {α : Type} {p : α → Bool} {xs ys : List α}

/-- A run ends where something stands that does not belong to it. -/
theorem takeWhile_run (hxs : ∀ x ∈ xs, p x = true) (hys : ∀ y ∈ ys.head?, p y = false) :
    (xs ++ ys).takeWhile p = xs := by
  rw [List.takeWhile_append_of_pos hxs]
  cases ys with
  | nil => simp
  | cons y ys => simp [hys y rfl]

/-- What follows a run starts with something that does not belong to it. -/
theorem dropWhile_run (hxs : ∀ x ∈ xs, p x = true) (hys : ∀ y ∈ ys.head?, p y = false) :
    (xs ++ ys).dropWhile p = ys := by
  rw [List.dropWhile_append_of_pos hxs]
  cases ys with
  | nil => simp
  | cons y ys => simp [hys y rfl]

end Runs

/-! ### One cut -/

/-- A text without the separator is what stands before it. -/
theorem cutFirst_append (h : sep ∉ cs) : cutFirst sep (cs ++ sep :: ds) = some (cs, ds) := by
  induction cs with
  | nil => exact if_pos rfl
  | cons c cs ih =>
    obtain ⟨hc, hcs⟩ := not_or.1 (mt List.mem_cons.2 h)
    rw [List.cons_append, cutFirst, if_neg (Ne.symm hc), ih hcs]
    rfl

/-- There is no separator before the first one. -/
theorem not_mem_of_cutFirst {p : List Char × List Char} (h : cutFirst sep cs = some p) :
    sep ∉ p.1 := by
  induction cs generalizing p with
  | nil => cases h
  | cons c cs ih =>
    rw [cutFirst] at h
    split at h
    · cases h
      exact List.not_mem_nil
    · rename_i hc
      obtain ⟨q, hq, rfl⟩ := Option.map_eq_some_iff.1 h
      exact List.not_mem_cons_of_ne_of_not_mem (Ne.symm hc) (ih hq)

/-! ### Pieces -/

theorem pieces_ne_nil (sep : Char) (cs : List Char) : pieces sep cs ≠ [] := by
  cases cs with
  | nil => exact List.cons_ne_nil _ _
  | cons c cs =>
    rw [pieces]
    split
    · exact List.cons_ne_nil _ _
    · split <;> exact List.cons_ne_nil _ _

/-- There is one more piece than there are separators. -/
theorem length_pieces : (pieces sep cs).length = cs.count sep + 1 := by
  induction cs with
  | nil => rfl
  | cons c cs ih =>
    rw [pieces]
    split
    · rename_i hc
      rw [List.length_cons, ih, hc, List.count_cons_self]
    · rename_i hc
      rw [List.count_cons_of_ne hc, ← ih]
      split
      · rename_i hnil
        exact absurd hnil (pieces_ne_nil sep cs)
      · rename_i hpieces
        rw [hpieces]
        rfl

/-- A text without the separator is the first piece. -/
theorem pieces_append (h : sep ∉ cs) : pieces sep (cs ++ sep :: ds) = cs :: pieces sep ds := by
  induction cs with
  | nil => exact if_pos rfl
  | cons c cs ih =>
    obtain ⟨hc, hcs⟩ := not_or.1 (mt List.mem_cons.2 h)
    rw [List.cons_append, pieces, if_neg (Ne.symm hc), ih hcs]

/-! ### Lines -/

theorem dropReturn_of_last (h : line.getLast? ≠ some '\r') : dropReturn line = line := if_neg h

/-- A text without line feeds is the first line. -/
theorem lines_append (h : '\n' ∉ line) (hreturn : line.getLast? ≠ some '\r') :
    lines (line ++ '\n' :: ds) = line :: lines ds := by
  obtain ⟨p, ps, hds⟩ := List.exists_cons_of_ne_nil (pieces_ne_nil '\n' ds)
  rw [lines, pieces_append h, lines, hds, linesOfPieces, dropReturn_of_last hreturn]

theorem length_le_linesOfPieces (ps : List (List Char)) :
    ps.length ≤ (linesOfPieces ps).length + 1 := by
  induction ps using linesOfPieces.induct with
  | case1 => exact Nat.zero_le _
  | case2 => exact Nat.le_add_left _ _
  | case3 => exact Nat.le_add_left _ _
  | case4 p q ps ih => exact Nat.succ_le_succ ih

/-- There is a line for each line feed. -/
theorem count_le_length_lines : cs.count '\n' ≤ (lines cs).length := by
  have h := length_le_linesOfPieces (pieces '\n' cs)
  rw [length_pieces] at h
  exact Nat.le_of_succ_le_succ h

end FleetConfig.Text
