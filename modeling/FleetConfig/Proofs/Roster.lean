import Mathlib.Data.List.Perm.Basic

/-!
# Rosters

A roster is a list of valid things no two of which have the same name. The servers of a contract and
the plugins of a category are such lists, and so are the lists that commands make of them.

## Main definitions

* `Roster` — all things in a list are valid, and their names differ.

## Main results

* `Roster.set`, `Roster.concat`, `Roster.insertIdx` — a valid thing is put into a roster.
* `Roster.name_ne_of_mem_eraseIdx` — a name that is taken out of a roster is not in it any more.
-/

namespace FleetConfig

variable {α : Type} {name : α → String} {Valid : α → Prop} {xs ys : List α} {x : α} {n : String}
  {i : Nat}

/-- The things in a list are valid, and no two of them have the same name. -/
structure Roster (name : α → String) (Valid : α → Prop) (xs : List α) : Prop where
  distinct : (xs.map name).Nodup
  valid : ∀ x ∈ xs, Valid x

theorem roster_nil : Roster name Valid [] := ⟨List.nodup_nil, nofun⟩

theorem roster_cons_iff : Roster name Valid (x :: xs) ↔
    Valid x ∧ (∀ y ∈ xs, name y ≠ name x) ∧ Roster name Valid xs := by
  constructor
  · rintro ⟨hdistinct, hvalid⟩
    obtain ⟨hnew, hdistinct⟩ := List.nodup_cons.1 hdistinct
    obtain ⟨hx, hvalid⟩ := List.forall_mem_cons.1 hvalid
    exact ⟨hx, fun y hy heq => hnew (heq ▸ List.mem_map_of_mem hy), hdistinct, hvalid⟩
  · rintro ⟨hx, hnew, hxs⟩
    refine ⟨List.nodup_cons.2 ⟨fun hmem => ?_, hxs.distinct⟩,
      List.forall_mem_cons.2 ⟨hx, hxs.valid⟩⟩
    obtain ⟨y, hy, heq⟩ := List.mem_map.1 hmem
    exact hnew y hy heq

/-- A step of a check that goes through a list and remembers the names that it has seen. -/
theorem roster_cons_and_unseen_iff {seen : List String} :
    (Roster name Valid (x :: xs) ∧ ∀ y ∈ x :: xs, name y ∉ seen) ↔
      (Valid x ∧ name x ∉ seen) ∧ Roster name Valid xs ∧ ∀ y ∈ xs, name y ∉ name x :: seen := by
  rw [roster_cons_iff, List.forall_mem_cons]
  simp only [List.mem_cons, not_or]
  constructor
  · rintro ⟨⟨hx, hne, hxs⟩, hnew, hseen⟩
    exact ⟨⟨hx, hnew⟩, hxs, fun y hy => ⟨hne y hy, hseen y hy⟩⟩
  · rintro ⟨⟨hx, hnew⟩, hxs, hseen⟩
    exact ⟨⟨hx, fun y hy => (hseen y hy).1, hxs⟩, hnew, fun y hy => (hseen y hy).2⟩

/-! ### Names -/

theorem name_of_findIdx? (h : (xs.findIdx? fun y => name y == n) = some i) :
    ∃ hi : i < xs.length, name xs[i] = n := by
  obtain ⟨hi, hname, -⟩ := List.findIdx?_eq_some_iff_getElem.1 h
  exact ⟨hi, beq_iff_eq.1 hname⟩

theorem name_ne_of_findIdx? (h : (xs.findIdx? fun y => name y == n) = none) :
    ∀ y ∈ xs, name y ≠ n := fun y hy =>
  beq_eq_false_iff_ne.1 (List.findIdx?_eq_none_iff.1 h y hy)

namespace Roster

/-! ### Changes -/

theorem perm (h : Roster name Valid xs) (hperm : List.Perm ys xs) : Roster name Valid ys :=
  ⟨(hperm.map name).nodup_iff.2 h.distinct, fun y hy => h.valid y (hperm.mem_iff.1 hy)⟩

theorem sublist (h : Roster name Valid xs) (hsub : List.Sublist ys xs) : Roster name Valid ys :=
  ⟨(hsub.map name).nodup h.distinct, fun y hy => h.valid y (hsub.subset hy)⟩

theorem eraseIdx (h : Roster name Valid xs) (i : Nat) : Roster name Valid (xs.eraseIdx i) :=
  h.sublist (List.eraseIdx_sublist xs i)

/-- A valid thing takes the place of one of its name. -/
theorem set (h : Roster name Valid xs) (hi : (xs.findIdx? fun y => name y == name x) = some i)
    (hx : Valid x) : Roster name Valid (xs.set i x) := by
  obtain ⟨hi, hname⟩ := name_of_findIdx? hi
  have hnames : (xs.set i x).map name = xs.map name := by
    rw [List.map_set, ← hname, ← List.getElem_map name (h := by rwa [List.length_map]),
      List.set_getElem_self]
  refine ⟨hnames ▸ h.distinct, fun y hy => ?_⟩
  rcases List.mem_or_eq_of_mem_set hy with hy | rfl
  · exact h.valid y hy
  · exact hx

/-- A valid thing with a new name is put anywhere. -/
theorem insertIdx (h : Roster name Valid xs) (hx : Valid x) (hnew : ∀ y ∈ xs, name y ≠ name x)
    (i : Nat) : Roster name Valid (xs.insertIdx i x) := by
  rcases Nat.lt_or_ge xs.length i with hi | hi
  · rw [List.insertIdx_of_length_lt hi]
    exact h
  · exact (roster_cons_iff.2 ⟨hx, hnew, h⟩).perm (List.perm_insertIdx x xs hi)

/-- A valid thing with a new name is put at the end. -/
theorem concat (h : Roster name Valid xs) (hx : Valid x) (hnew : ∀ y ∈ xs, name y ≠ name x) :
    Roster name Valid (xs ++ [x]) :=
  (roster_cons_iff.2 ⟨hx, hnew, h⟩).perm (List.perm_append_singleton x xs)

/-- A name that is taken out is not there any more. -/
theorem name_ne_of_mem_eraseIdx (h : Roster name Valid xs)
    (hi : (xs.findIdx? fun y => name y == n) = some i) : ∀ y ∈ xs.eraseIdx i, name y ≠ n := by
  obtain ⟨hlt, rfl⟩ := name_of_findIdx? hi
  exact (roster_cons_iff.1 (h.perm (List.getElem_cons_eraseIdx_perm hlt))).2.1

end Roster

end FleetConfig
