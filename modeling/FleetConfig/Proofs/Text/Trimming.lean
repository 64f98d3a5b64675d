import FleetConfig.Text.Blank
import Mathlib.Data.List.Basic
import Mathlib.Data.List.TakeWhile

/-!
# Trimming

Trimming drops blanks at both ends, so a text is trimmed if neither of its ends is a blank, and what
trimming leaves is trimmed.

## Main results

* `Text.trimList_of_ends` — a text whose ends are no blanks is trimmed already.
* `Text.trimmed_iff` — and no other text is.
* `Text.trimmed_trim` — what trimming leaves is trimmed.
* `Text.trimmed_append` — texts that are put together are trimmed if they are trimmed alone.
* `Text.isBlankText_trim` — a text that is not empty when trimmed is not blank then.
* `Text.forall_mem_trimList` — what is true of blanks need not be asked of those at the ends.
* `Text.trim_eq_empty_iff` — a text that is empty when trimmed is blank.
-/

namespace FleetConfig.Text

theorem trimStart_of_head {cs : List Char} (h : ∀ c ∈ cs.head?, isBlank c = false) :
    trimStart cs = cs := by
  cases cs with
  | nil => rfl
  | cons c cs =>
    have hc : isBlank c = false := h c rfl
    rw [trimStart, List.dropWhile_cons, hc]
    rfl

theorem trimEnd_of_last {cs : List Char} (h : ∀ c ∈ cs.getLast?, isBlank c = false) :
    trimEnd cs = cs := by
  have hrev : trimStart cs.reverse = cs.reverse :=
    trimStart_of_head fun c hc => h c (by rwa [List.head?_reverse] at hc)
  rw [trimStart] at hrev
  rw [trimEnd, hrev, List.reverse_reverse]

/-- A text whose ends are no blanks is trimmed already. -/
theorem trimList_of_ends {cs : List Char} (hhead : ∀ c ∈ cs.head?, isBlank c = false)
    (hlast : ∀ c ∈ cs.getLast?, isBlank c = false) : trimList cs = cs := by
  rw [trimList, trimStart_of_head hhead, trimEnd_of_last hlast]

theorem isBlank_head_trimList {cs : List Char} {c : Char} (h : c ∈ (trimList cs).head?) :
    isBlank c = false := by
  -- What is left starts where the text without the blanks in front starts.
  obtain ⟨blanks, hblanks⟩ := List.dropWhile_suffix (l := (trimStart cs).reverse) isBlank
  have hsplit : trimStart cs = trimList cs ++ blanks.reverse := by
    rw [trimList, trimEnd, ← List.reverse_append, hblanks, List.reverse_reverse]
  have hhead : (trimStart cs).head? = some c := by
    rw [hsplit, List.head?_append, h, Option.some_or]
  have hdrop := List.head?_dropWhile_not isBlank cs
  rw [trimStart] at hhead
  rwa [hhead] at hdrop

theorem isBlank_last_trimList {cs : List Char} {c : Char} (h : c ∈ (trimList cs).getLast?) :
    isBlank c = false := by
  rw [trimList, trimEnd, List.getLast?_reverse, Option.mem_def] at h
  have hdrop := List.head?_dropWhile_not isBlank (trimStart cs).reverse
  rwa [h] at hdrop

/-- A text is trimmed if its ends are no blanks. -/
theorem trimmed_iff {s : String} :
    Trimmed s ↔ (∀ c ∈ s.toList.head?, isBlank c = false) ∧
      ∀ c ∈ s.toList.getLast?, isBlank c = false := by
  rw [Trimmed, trim, ← String.toList_inj, String.toList_ofList]
  constructor
  · intro h
    rw [← h]
    exact ⟨fun c => isBlank_head_trimList, fun c => isBlank_last_trimList⟩
  · rintro ⟨hhead, hlast⟩
    exact trimList_of_ends hhead hlast

/-- What trimming leaves is trimmed. -/
theorem trimmed_trim (s : String) : Trimmed (trim s) := by
  rw [trimmed_iff, trim, String.toList_ofList]
  exact ⟨fun c => isBlank_head_trimList, fun c => isBlank_last_trimList⟩

/-- Of texts that are put together only the ends count, if those are not empty. -/
theorem trimmed_append {s t : String} (hs : s ≠ "") (hs' : Trimmed s) (ht : t ≠ "")
    (ht' : Trimmed t) (sep : String) : Trimmed (s ++ sep ++ t) := by
  have hs'' : s.toList ≠ [] := mt String.toList_eq_nil_iff.1 hs
  have ht'' : t.toList ≠ [] := mt String.toList_eq_nil_iff.1 ht
  rw [trimmed_iff, String.toList_append, String.toList_append]
  constructor
  · rw [List.append_assoc, List.head?_append_of_ne_nil _ hs'']
    exact (trimmed_iff.1 hs').1
  · rw [List.getLast?_append_of_ne_nil _ ht'']
    exact (trimmed_iff.1 ht').2

/-- A text that is not empty when trimmed is not blank then. -/
theorem isBlankText_trim {s : String} (h : trim s ≠ "") : isBlankText (trim s) = false := by
  rw [isBlankText, trim, String.toList_ofList, List.all_eq_false]
  have hrev : (trimStart s.toList).reverse.dropWhile isBlank ≠ [] := by
    intro hnil
    refine h ?_
    rw [trim, trimList, trimEnd, hnil]
    rfl
  refine ⟨_, List.mem_reverse.2 (List.head_mem hrev), ?_⟩
  rw [List.head_dropWhile_not isBlank hrev]
  exact Bool.false_ne_true

/-! ### Characters -/

section Characters

variable {P : Char → Prop} {cs : List Char}

/-- Blanks in front do not count for what is true of all blanks. -/
theorem forall_mem_dropWhile (hblank : ∀ c, isBlank c = true → P c) :
    (∀ c ∈ cs.dropWhile isBlank, P c) ↔ ∀ c ∈ cs, P c := by
  constructor
  · intro h c hc
    rw [← List.takeWhile_append_dropWhile (p := isBlank) (l := cs), List.mem_append] at hc
    rcases hc with hfront | hrest
    · exact hblank c (List.mem_takeWhile_imp hfront)
    · exact h c hrest
  · intro h c hc
    exact h c ((List.dropWhile_sublist _).subset hc)

/-- What is true of all blanks is true of all characters if it is true of those that trimming
leaves. -/
theorem forall_mem_trimList (hblank : ∀ c, isBlank c = true → P c) :
    (∀ c ∈ trimList cs, P c) ↔ ∀ c ∈ cs, P c := by
  simp only [trimList, trimEnd, trimStart, List.mem_reverse, forall_mem_dropWhile hblank]

/-- Trimming leaves nothing if there are nothing but blanks. -/
theorem trimList_eq_nil_iff : trimList cs = [] ↔ ∀ c ∈ cs, isBlank c = true := by
  rw [← forall_mem_trimList fun _ => id]
  constructor
  · intro h c hc
    rw [h] at hc
    cases hc
  · intro h
    cases hcs : trimList cs with
    | nil => rfl
    | cons c rest =>
      have hhead : c ∈ (trimList cs).head? := by rw [hcs]; rfl
      have hblank : isBlank c = true := h c (List.mem_of_mem_head? hhead)
      rw [isBlank_head_trimList hhead] at hblank
      cases hblank

end Characters

/-- A text is empty when trimmed if it is blank. -/
theorem trim_eq_empty_iff {s : String} : trim s = "" ↔ isBlankText s = true := by
  rw [trim, String.ofList_eq_empty_iff, trimList_eq_nil_iff, isBlankText, List.all_eq_true]

end FleetConfig.Text
