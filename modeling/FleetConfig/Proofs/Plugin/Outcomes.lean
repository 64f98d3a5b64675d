import FleetConfig.Command.Plugins
import FleetConfig.Proofs.Outcome
import FleetConfig.Proofs.Results
import FleetConfig.Proofs.Roster
import Mathlib.Data.List.InsertIdx

/-!
# Outcomes of changes to catalogues

Nothing is reported to have changed exactly if the catalogue is the same as before. The one change
that compares less than the whole catalogue is a move within a category, which compares the names
there: it reports that nothing has changed if no name is in another place. That tells the truth of a
plugin whose name no other plugin of the category has.

## Main definitions

* `Catalogue.Alone` — a name is that of one plugin of a category at most.

## Main results

* `Catalogue.outcome_upsert`, `Catalogue.outcome_delete`, `Catalogue.outcome_setDir` — changes of
  which the outcome tells whether the catalogue is the same.
* `Catalogue.outcome_move` — what the outcome of a move tells.
* `Plugins.outcome_setIn`, `Plugins.outcome_moveIn` — the outcomes that commands report.
-/

namespace FleetConfig

open Plugin (Category)

/-! ### Changes of lists -/

section Lists

variable {α : Type} {xs : List α} {x : α} {p : α → Bool} {i j : Nat}

/-- What is put in the place of something else makes another list. -/
theorem set_ne_of_findIdx? (hi : xs.findIdx? p = some i) (hne : xs[i]? ≠ some x) :
    xs.set i x ≠ xs := by
  intro heq
  obtain ⟨hlt, -⟩ := List.findIdx?_eq_some_iff_getElem.1 hi
  refine hne ?_
  rw [← heq, List.getElem?_set_self hlt]

/-- What is taken out makes another list. -/
theorem eraseIdx_ne_of_findIdx? (hi : xs.findIdx? p = some i) : xs.eraseIdx i ≠ xs := by
  obtain ⟨hlt, -⟩ := List.findIdx?_eq_some_iff_getElem.1 hi
  exact mt List.eraseIdx_eq_self.1 (Nat.not_le.2 hlt)

/-- A new thing is seen at the place where it is inserted. -/
theorem insertIdx_right_inj (hx : x ∉ xs) (hi : i ≤ xs.length)
    (h : xs.insertIdx j x = xs.insertIdx i x) : j = i := by
  induction xs generalizing i j with
  | nil =>
    obtain rfl := Nat.le_zero.1 hi
    cases j with
    | zero => rfl
    | succ j => cases h
  | cons y ys ih =>
    obtain ⟨hxy, hx⟩ := not_or.1 (mt List.mem_cons.2 hx)
    cases i with
    | zero =>
      cases j with
      | zero => rfl
      | succ j => exact absurd (List.cons.inj h).1.symm hxy
    | succ i =>
      cases j with
      | zero => exact absurd (List.cons.inj h).1 hxy
      | succ j => rw [ih hx (Nat.le_of_succ_le_succ hi) (List.cons.inj h).2]

end Lists

namespace Catalogue

variable {cat cat' : Catalogue} {c target : Category} {name : String} {o : Outcome} {p : Plugin}
  {i : Nat} {ps : List Plugin}

/-! ### Single changes -/

theorem withPlugins_eq_self_iff : cat.withPlugins c ps = cat ↔ ps = cat.plugins c := by
  constructor
  · intro h
    rw [← h, plugins_withPlugins, if_pos rfl]
  · rintro rfl
    exact withPlugins_plugins cat c

theorem outcome_upsert (h : cat.upsert c p = .ok (o, cat')) : o = .noop ↔ cat' = cat := by
  rw [upsert_eq] at h
  obtain ⟨_, -, h⟩ := bind_eq_ok.1 h
  split at h
  · cases h
    rw [withPlugins_eq_self_iff]
    exact iff_of_false nofun (mt List.append_right_eq_self.1 (List.cons_ne_nil _ _))
  · rename_i i hi
    split at h
    · cases h
      exact iff_of_true rfl rfl
    · rename_i hne
      cases h
      rw [withPlugins_eq_self_iff]
      exact iff_of_false nofun (set_ne_of_findIdx? hi hne)

theorem dir_of_upsert (h : cat.upsert c p = .ok (o, cat')) : cat'.dir = cat.dir := by
  rw [upsert_eq] at h
  obtain ⟨_, -, h⟩ := bind_eq_ok.1 h
  split at h
  · cases h
    rfl
  · split at h <;> cases h <;> rfl

theorem outcome_delete (h : cat.delete c name = .ok (o, cat')) : o = .noop ↔ cat' = cat := by
  rw [delete_eq] at h
  split at h
  · cases h
  · rename_i i hi
    cases h
    rw [withPlugins_eq_self_iff]
    exact iff_of_false nofun (eraseIdx_ne_of_findIdx? hi)

theorem outcome_setDir (cat : Catalogue) (dir : Option String) :
    (cat.setDir dir).1 = .noop ↔ (cat.setDir dir).2 = cat := by
  obtain ⟨dir₀, plugins⟩ := cat
  rw [setDir, Outcome.ofChange_eq_noop_iff, mk.injEq, eq_comm]
  exact (and_iff_left rfl).symm

/-! ### Moves -/

/-- A move into another category is to a numbered place, or to none that is named. It takes the
plugin out where it was and puts it into its new place. -/
theorem eq_of_moveAcross {m : Move} (htarget : target ≠ c)
    (h : cat.moveAcross c i p target m = .ok (o, cat')) :
    m.placement.any (·.number?.isNone) = false ∧ ∃ j,
      m.index? ((cat.plugins target).length -
        (if (cat.indexOf? target p.name).isSome then 1 else 0) + 1) = .ok j ∧
      o = .updated ∧ cat' = (cat.withPlugins c ((cat.plugins c).eraseIdx i)).withPlugins target
        (place p (cat.indexOf? target p.name) j (cat.plugins target)) := by
  rw [moveAcross_eq] at h
  split at h
  · cases h
  rename_i hnumber
  dsimp only at h
  split at h
  · cases h
  obtain ⟨j, hj, h⟩ := bind_eq_ok.1 h
  cases h
  refine ⟨Bool.eq_false_iff.2 hnumber, j, hj, rfl, ?_⟩
  rw [plugins_withPlugins, if_neg htarget]

/-- A plugin that moves into another category is missing where it was. -/
theorem outcome_moveAcross {m : Move} (hi : cat.indexOf? c name = some i) (htarget : target ≠ c)
    (h : cat.moveAcross c i p target m = .ok (o, cat')) : o = .noop ↔ cat' = cat := by
  obtain ⟨-, j, -, rfl, rfl⟩ := eq_of_moveAcross htarget h
  refine iff_of_false nofun fun heq => eraseIdx_ne_of_findIdx? hi ?_
  have hplugins := congrArg (·.plugins c) heq
  rwa [plugins_withPlugins, if_neg htarget.symm, plugins_withPlugins, if_pos rfl] at hplugins

/-- At most one plugin of a category has a name. -/
def Alone (cat : Catalogue) (c : Category) (name : String) : Prop :=
  ((cat.plugins c).map Plugin.name).count name ≤ 1

instance (cat : Catalogue) (c : Category) (name : String) : Decidable (cat.Alone c name) :=
  inferInstanceAs (Decidable (_ ≤ 1))

/-- A plugin that is alone with its name stays in its place if no name is in another place. -/
theorem outcome_moveWithin {goal : Placement} (hp : (cat.plugins c)[i]? = some p)
    (h : cat.moveWithin c i p goal = .ok (o, cat')) :
    (cat' = cat → o = .noop) ∧ (o = .noop → cat.Alone c p.name → cat' = cat) := by
  rw [moveWithin_eq] at h
  obtain ⟨j, -, h⟩ := bind_eq_ok.1 h
  cases h
  rw [withPlugins_eq_self_iff]
  refine ⟨fun heq => if_pos (congrArg _ heq), fun hnoop halone => ?_⟩
  have hnames : (((cat.plugins c).eraseIdx i).insertIdx j p).map Plugin.name =
      (cat.plugins c).map Plugin.name := by
    by_contra hne
    rw [if_neg hne] at hnoop
    cases hnoop
  obtain ⟨hlt, rfl⟩ := List.getElem?_eq_some_iff.1 hp
  have hback := List.insertIdx_eraseIdx_getElem hlt
  -- The name is not among those that stay.
  have hperm := (List.getElem_cons_eraseIdx_perm hlt).map Plugin.name
  rw [Alone, ← hperm.count_eq, List.map_cons, List.count_cons_self] at halone
  have hnew := List.count_eq_zero.1 (Nat.le_zero.1 (Nat.le_of_succ_le_succ halone))
  have hi : i ≤ (((cat.plugins c).eraseIdx i).map Plugin.name).length := by
    rw [List.length_map, List.length_eraseIdx_of_lt hlt]
    exact Nat.le_sub_one_of_lt hlt
  have hj : j = i := by
    refine insertIdx_right_inj hnew hi ?_
    rw [← List.map_insertIdx, ← List.map_insertIdx, hnames, hback]
  rw [hj, hback]

/-- A move tells that nothing has changed if so, and the truth of a plugin that is alone with its
name. -/
theorem outcome_move {m : Move} (h : cat.move c name m = .ok (o, cat')) :
    (cat' = cat → o = .noop) ∧
      (o = .noop → (m.toCategory = none → cat.Alone c name) → cat' = cat) := by
  rw [move_eq] at h
  split at h
  · rename_i i p hi hfind
    have hname := List.find?_some hfind
    obtain rfl : p.name = name := beq_iff_eq.1 hname
    cases hcategory : m.toCategory with
    | some target =>
      rw [hcategory] at h
      dsimp only at h
      split at h
      · cases h
      · rename_i htarget
        have hiff := outcome_moveAcross hi htarget h
        exact ⟨hiff.2, fun hnoop _ => hiff.1 hnoop⟩
    | none =>
      rw [hcategory] at h
      dsimp only at h
      split at h
      · cases h
      · have hp : (cat.plugins c)[i]? = some p := by
          rw [find?, List.find?_eq_bind_findIdx?_getElem?] at hfind
          rwa [show (cat.plugins c).findIdx? _ = some i from hi] at hfind
        obtain ⟨hsame, hnoop⟩ := outcome_moveWithin hp h
        exact ⟨hsame, fun ho halone => hnoop ho (halone rfl)⟩
  · cases h

end Catalogue

/-! ### Commands -/

namespace Plugins

variable {cat cat' : Catalogue} {c : Category}

theorem outcome_addIn {a : Addition} {o : Outcome} (h : addIn a cat = .ok (o, cat')) :
    o = .noop ↔ cat' = cat := by
  rw [addIn] at h
  split at h
  · cases h
  · exact Catalogue.outcome_upsert h

theorem outcome_setDirIn (u : Update) (cat : Catalogue) :
    (setDirIn u cat).1 = .noop ↔ (setDirIn u cat).2 = cat := by
  rw [setDirIn]
  split
  · exact cat.outcome_setDir u.dir
  · exact iff_of_true rfl rfl

theorem plugins_setDirIn (u : Update) (cat : Catalogue) :
    (setDirIn u cat).2.plugins = cat.plugins := by
  rw [setDirIn]
  split <;> rfl

/-- The directory and the plugins are no part of each other, so no change undoes the other. -/
theorem outcome_setIn {u : Update} {place : Option (Category × String)} {r : Report}
    (h : setIn u place cat = .ok (r, cat')) : r.outcome = .noop ↔ cat' = cat := by
  have hdir := outcome_setDirIn u cat
  have hplugins := plugins_setDirIn u cat
  rw [setIn] at h
  generalize setDirIn u cat = changed at h hdir hplugins
  obtain ⟨o₁, cat₁⟩ := changed
  cases place with
  | none =>
    cases h
    exact hdir
  | some place =>
    obtain ⟨p, -, h⟩ := bind_eq_ok.1 h
    obtain ⟨⟨o, cat₂⟩, hupsert, h⟩ := bind_eq_ok.1 h
    cases h
    rw [Outcome.combine_eq_noop_iff, hdir, Catalogue.outcome_upsert hupsert]
    constructor
    · rintro ⟨hdir, hplugins⟩
      exact hplugins.trans hdir
    · rintro rfl
      have hsame : cat₁ = cat' :=
        Catalogue.ext_all (Catalogue.dir_of_upsert hupsert).symm fun c _ => congrFun hplugins c
      exact ⟨hsame, hsame.symm⟩

theorem outcome_moveIn {name : String} {request : Catalogue.Move} {r : MoveReport}
    (h : moveIn c name request cat = .ok (r, cat')) :
    (cat' = cat → r.outcome = .noop) ∧
      (r.outcome = .noop → (request.toCategory = none → cat.Alone c name) → cat' = cat) := by
  obtain ⟨⟨o, cat₁⟩, hmove, h⟩ := bind_eq_ok.1 h
  cases h
  exact Catalogue.outcome_move hmove

end Plugins

end FleetConfig
