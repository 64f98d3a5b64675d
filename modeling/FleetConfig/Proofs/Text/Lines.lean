import FleetConfig.Proofs.Text.Joining
import Mathlib.Data.List.Basic

/-!
# Lines of a text

Each line feed of a text ends a line, and what follows the last one is a line if it is not empty. So
a place in a text is on the line whose number is one more than the line feeds in front of it, and
there is no such line only where one would start at the end of the text.

## Main definitions

* `Text.LineStart` — a line starts behind a text.

## Main results

* `Text.lines_append_sep` — the lines in front of a line feed and behind it.
* `Text.lines_eq_nil_iff`, `Text.not_mem_of_mem_lines` — lines.
* `Text.count_lt_length_lines_iff` — where the line of a place is missing.
-/

namespace FleetConfig.Text

variable {cs front back line : List Char}

/-! ### Lines and pieces -/

/-- All pieces but the last lose a carriage return at their end. -/
theorem linesOfPieces_append (ps : List (List Char)) {qs : List (List Char)} (h : qs ≠ []) :
    linesOfPieces (ps ++ qs) = ps.map dropReturn ++ linesOfPieces qs := by
  induction ps with
  | nil => rfl
  | cons p ps ih =>
    obtain ⟨r, rs, hrest⟩ := List.exists_cons_of_ne_nil (List.append_ne_nil_of_right_ne_nil ps h)
    rw [hrest] at ih
    rw [List.cons_append, hrest, linesOfPieces, ih]
    rfl

/-- A line feed ends the line in front of it. -/
theorem lines_append_sep (front back : List Char) :
    lines (front ++ '\n' :: back) = (pieces '\n' front).map dropReturn ++ lines back := by
  rw [lines, pieces_append_sep, linesOfPieces_append _ (pieces_ne_nil '\n' back)]
  rfl

theorem length_lines_append_sep (front back : List Char) :
    (lines (front ++ '\n' :: back)).length = front.count '\n' + 1 + (lines back).length := by
  rw [lines_append_sep, List.length_append, List.length_map, length_pieces]

/-- Only the empty text has no lines. -/
theorem lines_eq_nil_iff : lines cs = [] ↔ cs = [] := by
  refine ⟨fun h => ?_, fun h => by rw [h]; rfl⟩
  rw [lines] at h
  cases hpieces : pieces '\n' cs with
  | nil => exact absurd hpieces (pieces_ne_nil '\n' cs)
  | cons p ps =>
    rw [hpieces] at h
    cases ps with
    | nil =>
      have hcs : cs = p := by
        rw [← intercalate_pieces '\n' cs, hpieces, List.intercalate_singleton]
      rw [linesOfPieces] at h
      split at h
      · rename_i hp
        exact hcs.trans hp
      · cases h
    | cons q ps => cases h

theorem mem_of_mem_dropReturn {c : Char} (h : c ∈ dropReturn line) : c ∈ line := by
  rw [dropReturn] at h
  split at h
  · exact (List.dropLast_sublist line).subset h
  · exact h

theorem exists_mem_of_mem_linesOfPieces {ps : List (List Char)} (h : line ∈ linesOfPieces ps) :
    ∃ p ∈ ps, ∀ c ∈ line, c ∈ p := by
  induction ps using linesOfPieces.induct with
  | case1 => cases h
  | case2 => cases h
  | case3 last hne =>
    rw [linesOfPieces, if_neg hne, List.mem_singleton] at h
    exact ⟨last, List.mem_singleton_self _, fun c hc => h ▸ hc⟩
  | case4 p q ps ih =>
    rcases List.mem_cons.1 h with rfl | h
    · exact ⟨p, List.mem_cons_self, fun c => mem_of_mem_dropReturn⟩
    · obtain ⟨r, hr, hsub⟩ := ih h
      exact ⟨r, List.mem_cons_of_mem p hr, hsub⟩

/-- There is no line feed in a line. -/
theorem not_mem_of_mem_lines (h : line ∈ lines cs) : '\n' ∉ line := by
  obtain ⟨p, hp, hsub⟩ := exists_mem_of_mem_linesOfPieces h
  exact fun hmem => not_mem_of_mem_pieces hp (hsub '\n' hmem)

/-! ### The line of a place -/

/-- A line starts behind a text: it is empty or ends with a line feed. -/
def LineStart (cs : List Char) : Prop := cs = [] ∨ cs.getLast? = some '\n'

instance (cs : List Char) : Decidable (LineStart cs) := inferInstanceAs (Decidable (_ ∨ _))

/-- The lines of a text are those that end in front of a place, and those of what the line of the
place holds in front of it with all that follows. -/
theorem exists_open_line (front back : List Char) : ∃ opened, (opened = [] ↔ LineStart front) ∧
    (lines (front ++ back)).length = front.count '\n' + (lines (opened ++ back)).length := by
  cases hcut : cutLast '\n' front with
  | none =>
    have hfeed : '\n' ∉ front := cutLast_eq_none_iff.1 hcut
    refine ⟨front, ⟨.inl, fun h => h.resolve_right fun hlast => ?_⟩, ?_⟩
    · exact hfeed (List.mem_of_getLast? hlast)
    · rw [List.count_eq_zero.2 hfeed, Nat.zero_add]
  | some parts =>
    obtain ⟨done, opened⟩ := parts
    obtain ⟨rfl, hfeed⟩ := cutLast_eq_some_iff.1 hcut
    refine ⟨opened, ⟨?_, ?_⟩, ?_⟩
    · rintro rfl
      exact .inr List.getLast?_concat
    · rintro (hnil | hlast)
      · exact absurd hnil (List.append_ne_nil_of_right_ne_nil _ (List.cons_ne_nil _ _))
      · by_contra hopened
        rw [List.getLast?_append_of_ne_nil _ (List.cons_ne_nil _ _),
          List.getLast?_cons_of_ne_nil hopened] at hlast
        exact hfeed (List.mem_of_getLast? hlast)
    · rw [List.append_assoc, List.cons_append, length_lines_append_sep, List.count_append,
        List.count_cons_self, List.count_eq_zero.2 hfeed]

/-- The line of a place is missing only where a line would start at the end of the text. -/
theorem count_lt_length_lines_iff :
    front.count '\n' < (lines (front ++ back)).length ↔ ¬(LineStart front ∧ back = []) := by
  obtain ⟨opened, hopened, hlength⟩ := exists_open_line front back
  rw [hlength, Nat.lt_add_right_iff_pos, List.length_pos_iff, Ne, lines_eq_nil_iff,
    List.append_eq_nil_iff, hopened]

end FleetConfig.Text
