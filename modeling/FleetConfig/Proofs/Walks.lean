import Mathlib.Data.List.Flatten

/-!
# Walks through a list

A walk goes through a list and makes something of each item and of the items in front of it. A check
that remembers the names that it has seen is such a walk.

## Main definitions

* `FleetConfig.walk` — what a walk makes of a list.

## Main results

* `FleetConfig.mem_walk_nil_iff` — what a walk makes, item by item.
* `FleetConfig.pairwise_walk` — what a walk makes is in order if its steps are.
* `FleetConfig.walk_sublist_walk` — a walk makes no more of a part of a list.
-/

namespace FleetConfig

variable {α β γ : Type}

/-- What is made of the items of a list, each with the items in front of it, `front` first. -/
def walk (f : List α → α → List β) (front : List α) : List α → List β
  | [] => []
  | x :: xs => f front x ++ walk f (front ++ [x]) xs

variable {f g : List α → α → List β} {front xs xs' : List α}

theorem walk_congr (h : ∀ es x, f es x = g es x) : walk f front xs = walk g front xs := by
  rw [show f = g from funext fun es => funext (h es)]

theorem map_walk (m : β → γ) :
    (walk f front xs).map m = walk (fun es x => (f es x).map m) front xs := by
  induction xs generalizing front with
  | nil => rfl
  | cons x xs ih => rw [walk, walk, List.map_append, ih]

/-- Steps that ignore the items in front of theirs. -/
theorem walk_const (f : α → List β) : walk (fun _ => f) front xs = xs.flatMap f := by
  induction xs generalizing front with
  | nil => rfl
  | cons x xs ih => rw [walk, ih, List.flatMap_cons]

theorem map_filter_eq_flatMap (p : α → Bool) (m : α → β) :
    (xs.filter p).map m = xs.flatMap fun x => if p x then [m x] else [] := by
  induction xs with
  | nil => rfl
  | cons x xs ih =>
    rw [List.flatMap_cons, ← ih, List.filter_cons]
    cases p x <;> rfl

theorem mem_walk_iff {b : β} :
    b ∈ walk f front xs ↔ ∃ i x, xs[i]? = some x ∧ b ∈ f (front ++ xs.take i) x := by
  induction xs generalizing front with
  | nil => exact ⟨nofun, fun ⟨_, _, h, _⟩ => nomatch h⟩
  | cons x xs ih =>
    rw [walk, List.mem_append, ih]
    constructor
    · rintro (hb | ⟨i, y, hy, hb⟩)
      · exact ⟨0, x, rfl, by rwa [List.take_zero, List.append_nil]⟩
      · exact ⟨i + 1, y, hy, by rwa [List.take_succ_cons, List.append_cons]⟩
    · rintro ⟨_ | i, y, hy, hb⟩
      · obtain rfl : x = y := Option.some.inj hy
        rw [List.take_zero, List.append_nil] at hb
        exact .inl hb
      · rw [List.take_succ_cons, List.append_cons] at hb
        exact .inr ⟨i, y, hy, hb⟩

theorem mem_walk_nil_iff {b : β} :
    b ∈ walk f [] xs ↔ ∃ i x, xs[i]? = some x ∧ b ∈ f (xs.take i) x := mem_walk_iff

/-- What a walk makes is in order if each step makes things in order, and a later step makes later
things. -/
theorem pairwise_walk {R : β → β → Prop} (hstep : ∀ es x, (f es x).Pairwise R)
    (hsteps : ∀ es x es' x', es.length < es'.length → ∀ b ∈ f es x, ∀ b' ∈ f es' x', R b b') :
    (walk f front xs).Pairwise R := by
  induction xs generalizing front with
  | nil => exact .nil
  | cons x xs ih =>
    rw [walk, List.pairwise_append]
    refine ⟨hstep front x, ih, fun b hb b' hb' => ?_⟩
    obtain ⟨i, x', -, hb'⟩ := mem_walk_iff.1 hb'
    refine hsteps _ _ _ _ ?_ b hb b' hb'
    rw [List.length_append, List.length_append, List.length_singleton]
    omega

/-- A walk makes no more of a part of a list, if a step with fewer items in front makes no more. -/
theorem walk_sublist_walk {front' : List α}
    (hstep : ∀ es' es x, es' ⊆ es → List.Sublist (f es' x) (f es x))
    (hfront : front' ⊆ front) (hsub : List.Sublist xs' xs) :
    List.Sublist (walk f front' xs') (walk f front xs) := by
  induction hsub generalizing front front' with
  | slnil => exact .slnil
  | cons x _ ih =>
    have hfront' : front' ⊆ front ++ [x] := List.subset_append_of_subset_left _ hfront
    exact (ih hfront').trans (List.sublist_append_right _ _)
  | cons_cons x _ ih =>
    have hfront' : front' ++ [x] ⊆ front ++ [x] := List.append_subset.2
      ⟨List.subset_append_of_subset_left _ hfront, List.subset_append_right _ _⟩
    exact (hstep _ _ x hfront).append (ih hfront')

end FleetConfig
