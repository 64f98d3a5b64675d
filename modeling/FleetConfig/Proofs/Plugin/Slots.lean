import FleetConfig.Proofs.Plugin.Frames
import FleetConfig.Proofs.Plugin.Validity

/-!
# Changes to catalogues of distinct plugins

If the plugins of each category have different names, a change that is about a name is about one
plugin. It is put into its slot, taken out, or put between the others of a category, which keep
their content and their order.

## Main definitions

* `Catalogue.Distinct` — the plugins of each category have different names.
* `Catalogue.Moved` — a plugin has moved to a place in a category.
* `Catalogue.Move.Fits` — the place that a plugin is to move to is there.

## Main results

* `Catalogue.Distinct.upsert`, `Catalogue.Distinct.delete` — which catalogue a change makes.
* `Catalogue.Distinct.move` — a move leaves everything else where it was.
* `Catalogue.Moved.distinct` — names stay different.
* `Catalogue.Distinct.exists_move_iff` — when a move is made.
-/

namespace FleetConfig

open Plugin (Category)
open Named (others put)

namespace Catalogue

variable {cat cat' : Catalogue} {c target : Category} {name : String} {o : Outcome} {p : Plugin}
  {i : Nat} {ps : List Plugin} {m : Move}

/-- The plugins of each category have different names. -/
def Distinct (cat : Catalogue) : Prop := ∀ c, ((cat.plugins c).map Plugin.name).Nodup

/-- A plugin has left its category and stands between the others of the category where it is now, in
place of one of its name. The others keep their content and their order. -/
structure Moved (cat : Catalogue) (c target : Category) (p : Plugin) (cat' : Catalogue) : Prop where
  /-- The directory is as it was. -/
  dir : cat'.dir = cat.dir
  /-- The plugin stands between the others. -/
  landed : ∃ j ≤ (others Plugin.name p.name (cat.plugins target)).length,
    cat'.plugins target = (others Plugin.name p.name (cat.plugins target)).insertIdx j p
  /-- The others are left where it was. -/
  left : target ≠ c → cat'.plugins c = others Plugin.name p.name (cat.plugins c)
  /-- Other categories are as they were. -/
  elsewhere : ∀ c', c' ≠ c → c' ≠ target → cat'.plugins c' = cat.plugins c'

/-! ### Single plugins -/

theorem isSome_indexOf?_iff :
    (cat.indexOf? c name).isSome = true ↔ name ∈ (cat.plugins c).map Plugin.name :=
  Named.isSome_findIdx?_iff

/-- A plugin is put into a category exactly if it is valid. -/
theorem exists_upsert_iff : (∃ r, cat.upsert c p = .ok r) ↔ p.violations = [] := by
  rw [← Plugin.validate_eq_ok_iff]
  constructor
  · rintro ⟨r, hupsert⟩
    rw [upsert_eq] at hupsert
    obtain ⟨_, hp, -⟩ := bind_eq_ok.1 hupsert
    exact hp
  · intro hp
    rw [upsert_eq, hp]
    cases hi : cat.indexOf? c p.name with
    | none => exact ⟨_, rfl⟩
    | some i =>
      by_cases hsame : (cat.plugins c)[i]? = some p
      · exact ⟨_, if_pos hsame⟩
      · exact ⟨_, if_neg hsame⟩

/-- A plugin is taken out of a category exactly if it is there. -/
theorem exists_delete_iff :
    (∃ r, cat.delete c name = .ok r) ↔ name ∈ (cat.plugins c).map Plugin.name := by
  rw [← isSome_indexOf?_iff, delete_eq]
  cases cat.indexOf? c name with
  | none => exact iff_of_false not_exists_error_eq_ok Bool.false_ne_true
  | some i => exact iff_of_true ⟨_, rfl⟩ rfl

namespace Distinct

theorem withPlugins (h : cat.Distinct) (hps : (ps.map Plugin.name).Nodup) :
    (cat.withPlugins c ps).Distinct := by
  intro c'
  rw [plugins_withPlugins]
  split
  · exact hps
  · exact h c'

/-- A plugin that is put into a category is put into its slot or at the end. -/
theorem upsert (h : cat.Distinct) (hupsert : cat.upsert c p = .ok (o, cat')) :
    cat' = cat.withPlugins c (put Plugin.name p (cat.plugins c)) := by
  rw [← Named.putFirst_eq_put (h c)]
  exact eq_of_upsert hupsert

/-- Where a plugin is taken out, the others are left. -/
theorem delete (h : cat.Distinct) (hdelete : cat.delete c name = .ok (o, cat')) :
    cat' = cat.withPlugins c (others Plugin.name name (cat.plugins c)) := by
  rw [← Named.rest_eq_others (h c)]
  exact eq_of_delete hdelete

end Distinct

/-! ### Moves -/

/-- If names are different, the first plugin of a name is the only one. -/
theorem FirstMoved.moved (hmoved : cat.FirstMoved c target p cat') (h : cat.Distinct) :
    cat.Moved c target p cat' := by
  refine ⟨hmoved.dir, ?_, fun htarget => ?_, hmoved.elsewhere⟩
  · rw [← Named.rest_eq_others (h target)]
    exact hmoved.landed
  · rw [← Named.rest_eq_others (h c)]
    exact hmoved.left htarget

/-- A move is of the plugin of the name, to a place in its category or in another one. -/
theorem Distinct.move (h : cat.Distinct) (hmove : cat.move c name m = .ok (o, cat')) :
    ∃ p ∈ cat.plugins c, p.name = name ∧ cat.Moved c (m.toCategory.getD c) p cat' := by
  obtain ⟨p, hfind, hmoved⟩ := firstMoved_of_move hmove
  have hname := List.find?_some hfind
  exact ⟨p, List.mem_of_find?_eq_some hfind, beq_iff_eq.1 hname, hmoved.moved h⟩

/-- Names stay different when a plugin moves. -/
theorem Moved.distinct (hmoved : cat.Moved c target p cat') (h : cat.Distinct) :
    cat'.Distinct := by
  intro c'
  by_cases htarget : c' = target
  · obtain ⟨j, -, hplugins⟩ := hmoved.landed
    rw [htarget, hplugins]
    exact Named.nodup_insertIdx_others (h target) j
  · by_cases hc : c' = c
    · rw [hc, hmoved.left (hc ▸ Ne.symm htarget)]
      exact Named.nodup_others (h c)
    · rw [hmoved.elsewhere c' hc htarget]
      exact h c'

/-! ### Moves that are made -/

/-- A numbered place is one of `count` places. -/
def HasPlace (count : Nat) (number : Int) : Prop := number = -1 ∨ 1 ≤ number ∧ number ≤ count

/-- A place is there for a plugin of the category that stands there already. -/
def Placement.Fits (moving : String) (ps : List Plugin) : Placement → Prop
  | before name | after name => name ≠ moving ∧ name ∈ ps.map Plugin.name
  | position number => HasPlace ps.length number

/-- The place that a plugin of the category is to take is there: in its category, or in another one,
where the plugin replaces one of its name if that is forced. -/
def Move.Fits (m : Move) (cat : Catalogue) (c : Category) (name : String) : Prop :=
  match m.toCategory with
  | none => ∃ goal ∈ m.placement, goal.Fits name (cat.plugins c)
  | some target =>
    target ≠ c ∧ (name ∈ (cat.plugins target).map Plugin.name → m.force = true) ∧
      ∀ goal ∈ m.placement, ∃ number, goal = .position number ∧
        HasPlace ((others Plugin.name name (cat.plugins target)).length + 1) number

theorem exists_slot_iff {count : Nat} {number : Int} :
    (∃ j, slot count number = .ok j) ↔ HasPlace count number := by
  rw [slot, HasPlace]
  by_cases hlast : number = -1
  · rw [if_pos hlast]
    exact iff_of_true ⟨_, rfl⟩ (.inl hlast)
  · rw [if_neg hlast, or_iff_right hlast]
    by_cases hrange : 1 ≤ number ∧ number ≤ count
    · rw [if_pos hrange]
      exact iff_of_true ⟨_, rfl⟩ hrange
    · rw [if_neg hrange]
      exact iff_of_false not_exists_error_eq_ok hrange

theorem exists_anchor_iff {moving : String} :
    (∃ j, anchor c moving (others Plugin.name moving ps) name = .ok j) ↔
      name ≠ moving ∧ name ∈ ps.map Plugin.name := by
  rw [anchor]
  split
  · rename_i hself
    exact iff_of_false not_exists_error_eq_ok fun h => h.1 hself
  · rename_i hne
    rw [and_iff_right hne, ← Named.mem_names_others hne]
    split
    · rename_i i hi
      exact iff_of_true ⟨_, rfl⟩ (Named.mem_names_of_findIdx? hi)
    · rename_i hnone
      rw [← Named.isSome_findIdx?_iff, hnone]
      exact iff_of_false not_exists_error_eq_ok Bool.false_ne_true

theorem exists_moveWithin_iff {goal : Placement} (h : ((cat.plugins c).map Plugin.name).Nodup)
    (hi : cat.indexOf? c p.name = some i) :
    (∃ r, cat.moveWithin c i p goal = .ok r) ↔ goal.Fits p.name (cat.plugins c) := by
  have hplace : (∃ r, cat.moveWithin c i p goal = .ok r) ↔
      ∃ j, placeIn c p.name (others Plugin.name p.name (cat.plugins c)) goal = .ok j := by
    rw [moveWithin_eq, Named.eraseIdx_eq_others h hi]
    exact exists_map_eq_ok_iff
  rw [hplace]
  cases goal with
  | before name => exact exists_anchor_iff
  | after name => exact exists_map_eq_ok_iff.trans exists_anchor_iff
  | position number =>
    obtain ⟨hlt, -⟩ := name_of_findIdx? hi
    rw [← Named.eraseIdx_eq_others h hi, placeIn, List.length_eraseIdx_of_lt hlt,
      Nat.sub_add_cancel (Nat.one_le_of_lt hlt)]
    exact exists_slot_iff

theorem Distinct.length_others (h : cat.Distinct) :
    (others Plugin.name name (cat.plugins c)).length =
      (cat.plugins c).length - if (cat.indexOf? c name).isSome then 1 else 0 := by
  rw [← Named.rest_eq_others (h c), Named.length_rest]
  rfl

theorem exists_moveAcross_iff (h : cat.Distinct) :
    (∃ r, cat.moveAcross c i p target m = .ok r) ↔
      (p.name ∈ (cat.plugins target).map Plugin.name → m.force = true) ∧
        ∀ goal ∈ m.placement, ∃ number, goal = .position number ∧
          HasPlace ((others Plugin.name p.name (cat.plugins target)).length + 1) number := by
  rw [h.length_others, ← isSome_indexOf?_iff, moveAcross_eq]
  dsimp only [Move.index?]
  by_cases hforce : (cat.indexOf? target p.name).isSome = true → m.force = true
  · have hconflict : ¬((cat.indexOf? target p.name).isSome && !m.force) = true := by
      simpa using hforce
    rw [if_neg hconflict, and_iff_right hforce]
    cases m.placement with
    | none => exact iff_of_true ⟨_, rfl⟩ fun _ h => absurd h (Option.not_mem_none _)
    | some goal =>
      cases goal with
      | before name | after name =>
        refine iff_of_false not_exists_error_eq_ok fun h => ?_
        obtain ⟨number, hnumber, -⟩ := h _ rfl
        cases hnumber
      | position number =>
        refine (exists_map_eq_ok_iff.trans exists_map_eq_ok_iff).trans (exists_slot_iff.trans ?_)
        constructor
        · rintro hplace _ ⟨⟩
          exact ⟨number, rfl, hplace⟩
        · intro h
          obtain ⟨number, hnumber, hplace⟩ := h _ rfl
          cases hnumber
          exact hplace
  · have hconflict : ((cat.indexOf? target p.name).isSome && !m.force) = true := by
      simpa using hforce
    refine iff_of_false ?_ fun h => hforce h.1
    rw [if_pos hconflict]
    split <;> exact not_exists_error_eq_ok

/-- A plugin is moved exactly if it is there and its new place is. -/
theorem Distinct.exists_move_iff (h : cat.Distinct) :
    (∃ r, cat.move c name m = .ok r) ↔
      name ∈ (cat.plugins c).map Plugin.name ∧ m.Fits cat c name := by
  rw [Catalogue.move_eq, Move.Fits]
  split
  · rename_i i p hi hfind
    have hname := List.find?_some hfind
    obtain rfl : p.name = name := beq_iff_eq.1 hname
    rw [and_iff_right (Named.mem_names_of_findIdx? hi)]
    cases m.toCategory with
    | some target =>
      dsimp only
      by_cases htarget : target = c
      · rw [if_pos htarget]
        exact iff_of_false not_exists_error_eq_ok fun h => h.1 htarget
      · rw [if_neg htarget, and_iff_right htarget]
        exact exists_moveAcross_iff h
    | none =>
      cases m.placement with
      | none =>
        refine iff_of_false not_exists_error_eq_ok ?_
        rintro ⟨_, ⟨⟩, _⟩
      | some goal => simpa using exists_moveWithin_iff (h c) hi
  · rename_i hnone
    refine iff_of_false not_exists_error_eq_ok fun h => ?_
    obtain ⟨p, hp, hname⟩ := List.mem_map.1 h.1
    obtain ⟨i, hi⟩ := Option.isSome_iff_exists.1 (isSome_indexOf?_iff.2 h.1)
    have hfind : (cat.find? c name).isSome = true :=
      List.find?_isSome.2 ⟨p, hp, beq_iff_eq.2 hname⟩
    obtain ⟨q, hq⟩ := Option.isSome_iff_exists.1 hfind
    exact hnone i q hi hq

end Catalogue

end FleetConfig
