import FleetConfig.Proofs.Contract.Frames
import FleetConfig.Proofs.Plugin.Slots

/-!
# Where plugins move

A plugin that moves stands between the others of a category afterwards, at the place that was asked
for. In its own category the others are those that were around it, and a second move to the place
changes nothing. In another category it may take the place of a plugin of its name, and the
catalogue has the names that it had.

## Main definitions

* `Catalogue.Placement.Between` — a place between the plugins in front and those behind.
* `Catalogue.Rearranged` — a plugin has moved within its category.
* `Catalogue.Lands`, `Catalogue.Transferred` — a plugin has moved to another category.

## Main results

* `Catalogue.between_of_placeIn` — the index that is found is that of the place.
* `Catalogue.distinctCount_eq` — how many names there are depends on the names only.
* `Catalogue.move_within_category` — moves within a category.
* `Catalogue.move_to_category` — moves to another category.
-/

namespace FleetConfig

open Plugin (Category)
open Named (others rest)

/-! ### Lists -/

section Lists

variable {α : Type} [BEq α] [LawfulBEq α] {xs ys : List α}

theorem nodup_eraseDups (xs : List α) : xs.eraseDups.Nodup := by
  cases xs with
  | nil => exact List.nodup_nil
  | cons x xs =>
    rw [List.eraseDups_cons]
    refine List.nodup_cons.2 ⟨fun hx => ?_, nodup_eraseDups _⟩
    have hother := (List.mem_filter.1 (List.mem_eraseDups.1 hx)).2
    rw [beq_self_eq_true] at hother
    cases hother
termination_by xs.length
decreasing_by exact Nat.lt_succ_of_le (List.length_filter_le _ _)

/-- Lists with the same members have as many different ones. -/
theorem length_eraseDups_eq (h : ∀ x, x ∈ xs ↔ x ∈ ys) :
    xs.eraseDups.length = ys.eraseDups.length := by
  refine ((List.perm_ext_iff_of_nodup (nodup_eraseDups xs) (nodup_eraseDups ys)).2
    fun x => ?_).length_eq
  rw [List.mem_eraseDups, List.mem_eraseDups, h]

end Lists

namespace Catalogue

variable {cat cat' : Catalogue} {c target : Category} {o : Outcome} {p : Plugin} {i j : Nat}
  {ps front back : List Plugin} {goal : Placement}

/-! ### Places -/

/-- A place that is asked for is the one between the plugins in front and those behind. -/
def Placement.Between (front back : List Plugin) : Placement → Prop
  | before name => ∃ q ∈ back.head?, q.name = name
  | after name => ∃ q ∈ front.getLast?, q.name = name
  | position number => if number = -1 then back = [] else number = front.length + 1

theorem between_position {number : Int}
    (h : slot ((front ++ back).length + 1) number = .ok front.length) :
    (Placement.position number).Between front back := by
  rw [Placement.Between]
  rcases eq_of_slot h with ⟨hlast, hlength⟩ | ⟨hnumber, -⟩
  · rw [List.length_append] at hlength
    rw [if_pos hlast]
    exact List.length_eq_zero_iff.1 (Nat.add_eq_left.1 hlength.symm)
  · rw [if_neg (by omega)]
    exact hnumber

/-- The index that is found for a place is that of the place. -/
theorem between_of_placeIn {moving : String}
    (h : placeIn c moving (front ++ back) goal = .ok front.length) : goal.Between front back := by
  cases goal with
  | before name =>
    obtain ⟨q, hq, hname⟩ := getElem?_of_anchor h
    rw [List.getElem?_append_right (Nat.le_refl _), Nat.sub_self] at hq
    exact ⟨q, by rw [List.head?_eq_getElem?]; exact hq, hname⟩
  | after name =>
    obtain ⟨j, hj, hlength⟩ := map_eq_ok.1 h
    obtain ⟨q, hq, hname⟩ := getElem?_of_anchor hj
    rw [List.getElem?_append_left (by omega)] at hq
    refine ⟨q, ?_, hname⟩
    rw [List.getLast?_eq_getElem?, ← hlength]
    exact hq
  | position number => exact between_position h

/-! ### Moves within a category -/

/-- A plugin has moved to a place in its category. -/
structure Rearranged (cat : Catalogue) (c : Category) (p : Plugin) (goal : Placement)
    (cat' : Catalogue) : Prop where
  /-- The directory is as it was. -/
  dir : cat'.dir = cat.dir
  /-- Other categories are as they were. -/
  elsewhere : ∀ c', c' ≠ c → cat'.plugins c' = cat.plugins c'
  /-- The category has the plugins that it had. -/
  perm : (cat'.plugins c).Perm (cat.plugins c)
  /-- The plugin stands at its place, and the others are in the order in which they were. -/
  stands : ∃ front back, cat'.plugins c = front ++ p :: back ∧
    front ++ back = others Plugin.name p.name (cat.plugins c) ∧ goal.Between front back

/-- A plugin that is there has an index, and is found there. -/
theorem exists_indexOf?_of_mem (h : ((cat.plugins c).map Plugin.name).Nodup)
    (hp : p ∈ cat.plugins c) :
    ∃ i, cat.indexOf? c p.name = some i ∧ cat.find? c p.name = some p := by
  obtain ⟨i, hi⟩ := Option.isSome_iff_exists.1 (isSome_indexOf?_iff.2 (List.mem_map_of_mem hp))
  exact ⟨i, hi, Named.find?_of_mem h hp⟩

/-- A move within a category puts the plugin between the others, at the index that is found. -/
theorem moveWithin_eq_ok_iff (h : ((cat.plugins c).map Plugin.name).Nodup)
    (hi : cat.indexOf? c p.name = some i) : cat.moveWithin c i p goal = .ok (o, cat') ↔
      ∃ j, placeIn c p.name (others Plugin.name p.name (cat.plugins c)) goal = .ok j ∧
        let moved := (others Plugin.name p.name (cat.plugins c)).insertIdx j p
        cat' = cat.withPlugins c moved ∧
          o = if moved.map Plugin.name = (cat.plugins c).map Plugin.name then .noop
            else .updated := by
  rw [moveWithin_eq, Named.eraseIdx_eq_others h hi]
  refine bind_eq_ok.trans (exists_congr fun j => and_congr_right fun _ => ?_)
  constructor
  · rintro ⟨⟩
    exact ⟨rfl, rfl⟩
  · rintro ⟨rfl, rfl⟩
    rfl

theorem move_eq_moveWithin {m : Move} (hm : m.toCategory = none) (hgoal : m.placement = some goal)
    (hi : cat.indexOf? c p.name = some i) (hfind : cat.find? c p.name = some p) :
    cat.move c p.name m = cat.moveWithin c i p goal := by
  rw [move_eq, hi, hfind, hm, hgoal]

/-- A plugin that stands where a move puts it stays there when the move is made. -/
theorem move_eq_noop {m : Move} (hm : m.toCategory = none) (hgoal : m.placement = some goal)
    (h : (ps.map Plugin.name).Nodup)
    (hj : placeIn c p.name (others Plugin.name p.name ps) goal = .ok j)
    (hplugins : cat.plugins c = (others Plugin.name p.name ps).insertIdx j p) :
    cat.move c p.name m = .ok (.noop, cat) := by
  have hle := placeIn_le hj
  have hnodup : ((cat.plugins c).map Plugin.name).Nodup := by
    rw [hplugins]
    exact Named.nodup_insertIdx_others h j
  have hmem : p ∈ cat.plugins c := by
    rw [hplugins]
    exact (List.mem_insertIdx hle).2 (.inl rfl)
  have hothers : others Plugin.name p.name (cat.plugins c) = others Plugin.name p.name ps := by
    rw [hplugins]
    exact Named.others_insertIdx_others hle
  obtain ⟨i, hi, hfind⟩ := exists_indexOf?_of_mem hnodup hmem
  rw [move_eq_moveWithin hm hgoal hi hfind, moveWithin_eq_ok_iff hnodup hi, hothers]
  refine ⟨j, hj, ?_⟩
  dsimp only
  rw [← hplugins, withPlugins_plugins]
  exact ⟨rfl, (if_pos rfl).symm⟩

/-- A move within a category is made exactly if its place is there. It puts the plugin at its place
and leaves the others in their order, and made again it changes nothing. -/
theorem move_within_category (h : ((cat.plugins c).map Plugin.name).Nodup)
    (hp : p ∈ cat.plugins c) (m : Move) (hm : m.toCategory = none)
    (hgoal : m.placement = some goal) :
    ((∃ r, cat.move c p.name m = .ok r) ↔ goal.Fits p.name (cat.plugins c)) ∧
      ∀ o cat', cat.move c p.name m = .ok (o, cat') →
        cat.Rearranged c p goal cat' ∧ cat'.move c p.name m = .ok (.noop, cat') := by
  obtain ⟨i, hi, hfind⟩ := exists_indexOf?_of_mem h hp
  rw [move_eq_moveWithin hm hgoal hi hfind]
  refine ⟨exists_moveWithin_iff h hi, fun o cat' hmove => ?_⟩
  obtain ⟨j, hj, rfl, -⟩ := (moveWithin_eq_ok_iff h hi).1 hmove
  have hle := placeIn_le hj
  have hplugins : (cat.withPlugins c ((others Plugin.name p.name (cat.plugins c)).insertIdx j
      p)).plugins c = (others Plugin.name p.name (cat.plugins c)).insertIdx j p := if_pos rfl
  refine ⟨?_, move_eq_noop hm hgoal h hj hplugins⟩
  obtain ⟨front, back, rfl, hothers, hinsert⟩ := Named.exists_insertIdx_eq hle p
  refine ⟨rfl, fun c' hc => if_neg hc, ?_, front, back, hplugins.trans hinsert, hothers,
    between_of_placeIn (hothers ▸ hj)⟩
  rw [hplugins]
  exact Named.perm_insertIdx_others h hp hle

/-- Three plugins in a row. -/
def rowCatalogue : Catalogue :=
  ({} : Catalogue).withPlugins .audit [{ name := "a" }, { name := "b" }, { name := "c" }]

/-- The first plugin of a row moves to its end, and stays there. -/
theorem move_within_category_to_end : ∃ o cat',
    rowCatalogue.move .audit "a" { placement := some (.position (-1)) } = .ok (o, cat') ∧
      cat'.plugins .audit = [{ name := "b" }, { name := "c" }, { name := "a" }] ∧
      cat'.move .audit "a" { placement := some (.position (-1)) } = .ok (.noop, cat') := by
  have hnodup : ((rowCatalogue.plugins .audit).map Plugin.name).Nodup := by decide
  have hmem : ({ name := "a" } : Plugin) ∈ rowCatalogue.plugins .audit := by decide
  obtain ⟨hiff, hmade⟩ :=
    move_within_category hnodup hmem { placement := some (.position (-1)) } rfl rfl
  obtain ⟨⟨o, cat'⟩, hmove⟩ := hiff.2 (.inl rfl)
  obtain ⟨hrearranged, hagain⟩ := hmade o cat' hmove
  obtain ⟨front, back, hplugins, hothers, hback⟩ := hrearranged.stands
  obtain rfl : back = [] := hback
  rw [List.append_nil] at hothers
  refine ⟨o, cat', hmove, ?_, hagain⟩
  rw [hplugins, hothers]
  decide

/-! ### Moves to another category -/

/-- Where a plugin stands that was put into another category: at the place that was asked for, or
else in the slot of the plugin of its name, or at the end. -/
def Lands (name : String) (ps front back : List Plugin) : Option Placement → Prop
  | some goal => goal.Between front back
  | none => (∃ q, q.name = name ∧ ps = front ++ q :: back) ∨ name ∉ ps.map Plugin.name ∧ back = []

/-- A plugin has moved to another category. -/
structure Transferred (cat : Catalogue) (c target : Category) (p : Plugin)
    (placement : Option Placement) (cat' : Catalogue) : Prop where
  /-- The directory is as it was. -/
  dir : cat'.dir = cat.dir
  /-- Other categories are as they were. -/
  elsewhere : ∀ c', c' ≠ c → c' ≠ target → cat'.plugins c' = cat.plugins c'
  /-- The others are left where the plugin was. -/
  left : cat'.plugins c = others Plugin.name p.name (cat.plugins c)
  /-- The plugin stands between the others where it is now. -/
  stands : ∃ front back, cat'.plugins target = front ++ p :: back ∧
    front ++ back = others Plugin.name p.name (cat.plugins target) ∧
    Lands p.name (cat.plugins target) front back placement

/-- What is put into a list stands between the rest there. -/
theorem exists_lands_of_place {placement : Option Placement} {k : Option Nat}
    (hnumber : placement.any (·.number?.isNone) = false)
    (hk : (placement.bind Placement.number?).mapM
      (slot ((rest Plugin.name p.name ps).length + 1)) = .ok k) :
    ∃ front back,
      place p (ps.findIdx? fun q => q.name == p.name) k ps = front ++ p :: back ∧
      front ++ back = rest Plugin.name p.name ps ∧ Lands p.name ps front back placement := by
  cases placement with
  | none =>
    cases hk
    exact exists_place_between rfl fun _ hj => absurd hj (Option.not_mem_none _)
  | some goal =>
    cases goal with
    | before name | after name => cases hnumber
    | position number =>
      obtain ⟨j, hslot, hk⟩ := bind_eq_ok.1 hk
      cases hk
      have hle := slot_le hslot
      obtain ⟨front, back, hplace, hrest, hlength⟩ := exists_place_between rfl
        (k := some j) fun j' hj' => Option.some.inj hj' ▸ hle
      refine ⟨front, back, hplace, hrest, between_position ?_⟩
      rw [hrest, hlength]
      exact hslot

/-- A move to another category transfers the plugin. -/
theorem transferred_of_moveAcross {m : Move} (h : cat.Distinct)
    (hi : cat.indexOf? c p.name = some i) (htarget : target ≠ c)
    (hmove : cat.moveAcross c i p target m = .ok (o, cat')) :
    o = .updated ∧ cat.Transferred c target p m.placement cat' := by
  obtain ⟨hnumber, k, hk, rfl, rfl⟩ := eq_of_moveAcross htarget hmove
  rw [indexOf?, ← Named.length_rest] at hk
  refine ⟨rfl, rfl, fun c' hc htarget' => ?_, ?_, ?_⟩
  · rw [plugins_withPlugins, if_neg htarget', plugins_withPlugins, if_neg hc]
  · rw [plugins_withPlugins, if_neg htarget.symm, plugins_withPlugins, if_pos rfl,
      Named.eraseIdx_eq_others (h c) hi]
  · rw [plugins_withPlugins, if_pos rfl, ← Named.rest_eq_others (h target)]
    exact exists_lands_of_place hnumber hk

/-! ### Names -/

/-- How many different names there are depends on which there are. -/
theorem distinctCount_eq (h : ∀ name, (∃ c, name ∈ (cat'.plugins c).map Plugin.name) ↔
    ∃ c, name ∈ (cat.plugins c).map Plugin.name) : cat'.distinctCount = cat.distinctCount := by
  have hmem : ∀ (cat : Catalogue) (name : String),
      name ∈ Category.all.flatMap (fun c => (cat.plugins c).map Plugin.name) ↔
        ∃ c, name ∈ (cat.plugins c).map Plugin.name := by
    intro cat name
    rw [List.mem_flatMap]
    exact exists_congr fun c => and_iff_right c.mem_all
  exact length_eraseDups_eq fun name => (hmem cat' name).trans ((h name).trans (hmem cat name).symm)

/-- A plugin that is transferred takes its name with it. -/
theorem Transferred.names_iff {placement : Option Placement}
    (h : cat.Transferred c target p placement cat') (hp : p ∈ cat.plugins c) (name : String) :
    (∃ c, name ∈ (cat'.plugins c).map Plugin.name) ↔
      ∃ c, name ∈ (cat.plugins c).map Plugin.name := by
  obtain ⟨front, back, hplugins, hothers, -⟩ := h.stands
  have hnames : name ∈ (cat'.plugins target).map Plugin.name ↔
      name = p.name ∨ name ∈ (others Plugin.name p.name (cat.plugins target)).map Plugin.name := by
    rw [hplugins, ← hothers]
    simp only [List.map_append, List.map_cons, List.mem_append, List.mem_cons]
    exact or_left_comm
  by_cases hname : name = p.name
  · exact iff_of_true ⟨target, hnames.2 (.inl hname)⟩ ⟨c, hname ▸ List.mem_map_of_mem hp⟩
  · refine exists_congr fun c' => ?_
    by_cases hc : c' = c
    · rw [hc, h.left, Named.mem_names_others hname]
    · by_cases hc' : c' = target
      · rw [hc', hnames, or_iff_right hname, Named.mem_names_others hname]
      · rw [h.elsewhere c' hc hc']

/-! ### The main result -/

/-- A move to another category is made exactly if it is another one, no plugin of the name is in the
way or it may be replaced, and the place is a number that is there. It transfers the plugin, as the
only change, and there are as many different names as before; if it is refused, nothing changes. -/
theorem move_to_category (h : cat.Distinct) (hp : p ∈ cat.plugins c) (m : Move)
    (hm : m.toCategory = some target) :
    ((∃ r, cat.move c p.name m = .ok r) ↔
      target ≠ c ∧ (p.name ∈ (cat.plugins target).map Plugin.name → m.force = true) ∧
        ∀ goal ∈ m.placement, ∃ number, goal = .position number ∧
          HasPlace ((others Plugin.name p.name (cat.plugins target)).length + 1) number) ∧
    (∀ o cat', cat.move c p.name m = .ok (o, cat') →
      o = .updated ∧ cat.Transferred c target p m.placement cat' ∧
        cat'.distinctCount = cat.distinctCount) ∧
    (∀ e cat', (moveEdit c p.name m).on cat = (.error e, cat') → cat' = cat) ∧
    ∀ (k : Contract) e k', k.catalogue = cat →
      (Contract.inPlugins (moveEdit c p.name m)).on k = (.error e, k') →
        k'.catalogue = cat ∧ k'.prune = k.prune := by
  have hatomic := atomicOn_moveEdit c p.name m cat
  refine ⟨?_, fun o cat' hmove => ?_, hatomic, fun k e k' hk hrefused => ?_⟩
  · rw [h.exists_move_iff, and_iff_right (List.mem_map_of_mem hp), Move.Fits, hm]
  · obtain ⟨i, hi, hfind⟩ := exists_indexOf?_of_mem (h c) hp
    rw [move_eq, hi, hfind, hm] at hmove
    dsimp only at hmove
    split at hmove
    · cases hmove
    · rename_i htarget
      obtain ⟨ho, htransferred⟩ := transferred_of_moveAcross h hi htarget hmove
      exact ⟨ho, htransferred, distinctCount_eq (htransferred.names_iff hp)⟩
  · subst hk
    obtain rfl := Contract.eq_of_inPlugins_of_error hatomic hrefused
    exact ⟨rfl, (Contract.prune_plugins_eq_iff k).2 rfl⟩

/-- Two categories with a plugin of one name. -/
def twinsCatalogue : Catalogue :=
  (({} : Catalogue).withPlugins .audit
    [{ name := "a", flows := { request := true } }, { name := "b" }]).withPlugins .content
    [{ name := "c" }, { name := "a", flows := { response := true } }]

/-- The one twin replaces the other, at another place than it had. -/
theorem move_to_category_of_twin : ∃ cat',
    twinsCatalogue.move .audit "a"
        { toCategory := some .content, placement := some (.position 1), force := true } =
      .ok (.updated, cat') ∧
      cat'.plugins .audit = [{ name := "b" }] ∧
      cat'.plugins .content = [{ name := "a", flows := { request := true } }, { name := "c" }] ∧
      cat'.distinctCount = 3 := by
  have hdistinct : twinsCatalogue.Distinct := fun c => by cases c <;> decide
  have hmem : ({ name := "a", flows := { request := true } } : Plugin) ∈
      twinsCatalogue.plugins .audit := by decide
  obtain ⟨hiff, hmade, -⟩ := move_to_category hdistinct hmem
    { toCategory := some .content, placement := some (.position 1), force := true } rfl
  obtain ⟨⟨o, cat'⟩, hmove⟩ := hiff.2 ⟨by decide, fun _ => rfl, fun goal hgoal =>
    ⟨1, (Option.some.inj hgoal).symm, .inr ⟨by decide, by decide⟩⟩⟩
  obtain ⟨rfl, htransferred, hcount⟩ := hmade o cat' hmove
  obtain ⟨front, back, hplugins, hothers, hplace⟩ := htransferred.stands
  have hfront : (1 : Int) = front.length + 1 := hplace
  obtain rfl : front = [] := List.length_eq_zero_iff.1 (by omega)
  refine ⟨cat', hmove, htransferred.left.trans (by decide), ?_, hcount.trans (by decide)⟩
  rw [hplugins, List.nil_append, ← List.nil_append back, hothers]
  decide

end Catalogue

end FleetConfig
