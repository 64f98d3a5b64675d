import FleetConfig.Proofs.Plugin.Outcomes
import FleetConfig.Proofs.Slots

/-!
# What changes to catalogues leave

A change that is about a name is about the first plugin of a category that has it, whether or not
others have it too. That plugin is put into its slot, taken out, or put between the rest of the
category where it moves to. The rest keep their content and their order.

## Main definitions

* `Catalogue.Frame` — the plugin of one name was put into its slot.
* `Catalogue.FirstMoved` — the first plugin of a name has moved to a place in a category.
* `Plugins.SetFrame` — what is left when fields of a plugin are set.

## Main results

* `Catalogue.eq_of_upsert`, `Catalogue.eq_of_delete` — which catalogue a change makes.
* `Catalogue.firstMoved_of_move` — a move leaves everything else where it was.
* `Plugins.frame_addIn`, `Plugins.setFrame_of_setIn` — what the changes that commands make leave.
-/

namespace FleetConfig

open Plugin (Category)
open Named (putFirst rest)

namespace Catalogue

variable {cat cat' : Catalogue} {c target : Category} {name : String} {o : Outcome} {p : Plugin}
  {i : Nat} {ps : List Plugin} {m : Move}

/-! ### Plugins that are put into a slot -/

/-- One catalogue differs from another in the slot of the first plugin of a name at most, and in its
directory. -/
structure Frame (c : Category) (name : String) (cat cat' : Catalogue) : Prop where
  /-- Other categories are as they were. -/
  elsewhere : ∀ c', c' ≠ c → cat'.plugins c' = cat.plugins c'
  /-- The other plugins of the category are where they were. -/
  slots : ∀ j, j ≠ ((cat.plugins c).findIdx fun p => p.name == name) →
    (cat'.plugins c)[j]? = (cat.plugins c)[j]?

/-- A plugin is put in the place of the first one of its name, or at the end. -/
theorem eq_of_upsert (h : cat.upsert c p = .ok (o, cat')) :
    cat' = cat.withPlugins c (putFirst Plugin.name p (cat.plugins c)) := by
  rw [Catalogue.upsert_eq] at h
  obtain ⟨_, -, h⟩ := bind_eq_ok.1 h
  split at h
  · rename_i hnone
    cases h
    rw [Named.putFirst_of_none hnone]
  · rename_i i hi
    split at h
    · rename_i hsame
      cases h
      rw [Named.putFirst_eq_self hi hsame, withPlugins_plugins]
    · cases h
      rw [Named.putFirst_of_some hi]

/-- What is put into a category is found there. -/
theorem find?_of_upsert (h : cat.upsert c p = .ok (o, cat')) : cat'.find? c p.name = some p := by
  rw [eq_of_upsert h, find?, plugins_withPlugins, if_pos rfl]
  exact Named.find?_putFirst Plugin.name p _

/-- A valid plugin that is found as it is is put there without a change. -/
theorem upsert_of_find? (hp : p.validate = .ok ()) (h : cat.find? c p.name = some p) :
    cat.upsert c p = .ok (.noop, cat) := by
  rw [find?, List.find?_eq_bind_findIdx?_getElem?, Option.bind_eq_some_iff] at h
  obtain ⟨i, hi, hsame⟩ := h
  rw [Catalogue.upsert_eq, hp, indexOf?, hi]
  exact if_pos hsame

theorem frame_upsert (h : cat.upsert c p = .ok (o, cat')) : cat.Frame c p.name cat' := by
  rw [eq_of_upsert h]
  refine ⟨fun c' hc => ?_, fun j hj => ?_⟩
  · rw [plugins_withPlugins, if_neg hc]
  · rw [plugins_withPlugins, if_pos rfl]
    exact Named.getElem?_putFirst hj

/-! ### Plugins that are taken out -/

/-- The first plugin of the name is taken out. -/
theorem eq_of_delete (h : cat.delete c name = .ok (o, cat')) :
    cat' = cat.withPlugins c (rest Plugin.name name (cat.plugins c)) := by
  rw [delete_eq] at h
  split at h
  · cases h
  · rename_i i hi
    cases h
    rw [← Named.eraseIdx_eq_rest hi]

/-! ### Places -/

/-- A number counts places from 1, and `-1` is the last one. -/
theorem eq_of_slot {count j : Nat} {number : Int} (h : slot (count + 1) number = .ok j) :
    (number = -1 ∧ j = count) ∨ (number = j + 1 ∧ j ≤ count) := by
  rw [slot] at h
  split at h
  · rename_i hlast
    cases h
    exact .inl ⟨hlast, rfl⟩
  · split at h
    · cases h
      omega
    · cases h

theorem slot_le {count j : Nat} {number : Int} (h : slot (count + 1) number = .ok j) :
    j ≤ count := by
  rcases eq_of_slot h with ⟨-, rfl⟩ | ⟨-, hle⟩
  · exact Nat.le_refl _
  · exact hle

/-- What is found by a name is there, and has the name. -/
theorem getElem?_of_anchor {moving : String} {j : Nat} (h : anchor c moving ps name = .ok j) :
    ∃ q, ps[j]? = some q ∧ q.name = name := by
  rw [anchor] at h
  split at h
  · cases h
  · split at h
    · rename_i hi
      cases h
      obtain ⟨hlt, hname⟩ := name_of_findIdx? hi
      exact ⟨_, List.getElem?_eq_getElem hlt, hname⟩
    · cases h

theorem placeIn_le {moving : String} {goal : Placement} {j : Nat}
    (h : placeIn c moving ps goal = .ok j) : j ≤ ps.length := by
  have hanchor : ∀ {name j}, anchor c moving ps name = .ok j → j < ps.length := by
    intro name j h
    obtain ⟨q, hq, -⟩ := getElem?_of_anchor h
    exact (List.getElem?_eq_some_iff.1 hq).1
  cases goal with
  | before name => exact Nat.le_of_lt (hanchor h)
  | after name =>
    obtain ⟨i, hi, rfl⟩ := map_eq_ok.1 h
    exact hanchor hi
  | position number => exact slot_le h

/-- An index is found for a number, if there is one. -/
theorem numbered_cases {count : Nat} {number? : Option Int} {k : Option Nat}
    (h : number?.mapM (slot count) = .ok k) : (number? = none ∧ k = none) ∨
      ∃ number j, number? = some number ∧ slot count number = .ok j ∧ k = some j := by
  cases number? with
  | none =>
    cases h
    exact .inl ⟨rfl, rfl⟩
  | some number =>
    obtain ⟨j, hslot, h⟩ := bind_eq_ok.1 h
    cases h
    exact .inr ⟨number, j, rfl, hslot, rfl⟩

/-- What is put into another list stands between the rest there: at the index that is given, or else
in the slot of the first one of its name, or at the end. -/
theorem exists_place_between {replaced k : Option Nat}
    (hreplaced : (ps.findIdx? fun q => q.name == p.name) = replaced)
    (hk : ∀ j ∈ k, j ≤ (rest Plugin.name p.name ps).length) :
    ∃ front back, place p replaced k ps = front ++ p :: back ∧
      front ++ back = rest Plugin.name p.name ps ∧
      match k with
      | some j => front.length = j
      | none => (∃ q, q.name = p.name ∧ ps = front ++ q :: back) ∨
        p.name ∉ ps.map Plugin.name ∧ back = [] := by
  cases k with
  | some j =>
    obtain ⟨front, back, hlength, hrest, hinsert⟩ := Named.exists_insertIdx_eq (hk j rfl) p
    refine ⟨front, back, ?_, hrest, hlength⟩
    rw [← hinsert]
    cases replaced with
    | some i => rw [place, Named.eraseIdx_eq_rest hreplaced]
    | none => rw [place, Named.rest_eq_self hreplaced]
  | none =>
    cases replaced with
    | some i =>
      obtain ⟨hlt, hname⟩ := name_of_findIdx? hreplaced
      refine ⟨ps.take i, ps.drop (i + 1), ?_, ?_, .inl ⟨ps[i], hname, ?_⟩⟩
      · rw [place, List.set_eq_take_append_cons_drop, if_pos hlt]
      · rw [← Named.eraseIdx_eq_rest hreplaced, List.eraseIdx_eq_take_drop_succ]
      · rw [List.getElem_cons_drop, List.take_append_drop]
    | none =>
      refine ⟨ps, [], rfl, ?_, .inr ⟨fun hmem => ?_, rfl⟩⟩
      · rw [List.append_nil, Named.rest_eq_self hreplaced]
      · obtain ⟨q, hq, hname⟩ := List.mem_map.1 hmem
        exact name_ne_of_findIdx? hreplaced q hq hname

/-! ### Moves -/

/-- A plugin has left its category and stands between the rest of the category where it is now, in
place of the first one of its name there. The rest keep their content and their order. -/
structure FirstMoved (cat : Catalogue) (c target : Category) (p : Plugin) (cat' : Catalogue) :
    Prop where
  /-- The directory is as it was. -/
  dir : cat'.dir = cat.dir
  /-- The plugin stands between the rest. -/
  landed : ∃ j ≤ (rest Plugin.name p.name (cat.plugins target)).length,
    cat'.plugins target = (rest Plugin.name p.name (cat.plugins target)).insertIdx j p
  /-- The rest are left where it was. -/
  left : target ≠ c → cat'.plugins c = rest Plugin.name p.name (cat.plugins c)
  /-- Other categories are as they were. -/
  elsewhere : ∀ c', c' ≠ c → c' ≠ target → cat'.plugins c' = cat.plugins c'

theorem firstMoved_of_moveWithin {goal : Placement} (hi : cat.indexOf? c p.name = some i)
    (hmove : cat.moveWithin c i p goal = .ok (o, cat')) : cat.FirstMoved c c p cat' := by
  rw [moveWithin_eq] at hmove
  obtain ⟨j, hj, hmove⟩ := bind_eq_ok.1 hmove
  cases hmove
  have hrest := Named.eraseIdx_eq_rest hi
  refine ⟨rfl, ⟨j, ?_, ?_⟩, fun hc => absurd rfl hc, fun c' hc _ => if_neg hc⟩
  · rw [← hrest]
    exact placeIn_le hj
  · rw [plugins_withPlugins, if_pos rfl, hrest]

theorem firstMoved_of_moveAcross (hi : cat.indexOf? c p.name = some i) (htarget : target ≠ c)
    (hmove : cat.moveAcross c i p target m = .ok (o, cat')) : cat.FirstMoved c target p cat' := by
  obtain ⟨-, j, hj, -, rfl⟩ := eq_of_moveAcross htarget hmove
  have hbound : ∀ j' ∈ j, j' ≤ (rest Plugin.name p.name (cat.plugins target)).length := by
    rw [indexOf?, ← Named.length_rest] at hj
    rcases numbered_cases hj with ⟨-, rfl⟩ | ⟨number, j, -, hslot, rfl⟩
    · exact fun _ hnone => absurd hnone (Option.not_mem_none _)
    · rintro _ ⟨⟩
      exact slot_le hslot
  obtain ⟨front, back, hplace, hrest, -⟩ := exists_place_between rfl hbound
  refine ⟨rfl, ⟨front.length, ?_, ?_⟩, fun _ => ?_, fun c' hc htarget' => ?_⟩
  · rw [← hrest, List.length_append]
    exact Nat.le_add_right _ _
  · rw [plugins_withPlugins, if_pos rfl, ← hrest, Named.insertIdx_length_append]
    exact hplace
  · rw [plugins_withPlugins, if_neg htarget.symm, plugins_withPlugins, if_pos rfl,
      Named.eraseIdx_eq_rest hi]
  · rw [plugins_withPlugins, if_neg htarget', plugins_withPlugins, if_neg hc]

/-- A move is of the first plugin of the name, to a place in its category or in another one. -/
theorem firstMoved_of_move (hmove : cat.move c name m = .ok (o, cat')) :
    ∃ p, cat.find? c name = some p ∧ cat.FirstMoved c (m.toCategory.getD c) p cat' := by
  rw [move_eq] at hmove
  split at hmove
  · rename_i i p hi hfind
    have hname := List.find?_some hfind
    obtain rfl : p.name = name := beq_iff_eq.1 hname
    refine ⟨p, hfind, ?_⟩
    cases hcategory : m.toCategory with
    | some target =>
      rw [hcategory] at hmove
      dsimp only at hmove
      split at hmove
      · cases hmove
      · rename_i htarget
        exact firstMoved_of_moveAcross hi htarget hmove
    | none =>
      rw [hcategory] at hmove
      dsimp only at hmove
      split at hmove
      · cases hmove
      · exact firstMoved_of_moveWithin hi hmove
  · cases hmove

/-! ### Changes that are refused -/

theorem atomicOn_upsertEdit (c : Category) (p : Plugin) (cat : Catalogue) :
    (upsertEdit c p).AtomicOn cat := by
  refine .bind_liftM fun _ _ => .bind_get ?_
  split
  · exact .of_made rfl
  · split <;> exact .of_made rfl

theorem atomicOn_deleteEdit (c : Category) (name : String) (cat : Catalogue) :
    (deleteEdit c name).AtomicOn cat := by
  refine .bind_get ?_
  split
  · exact .throw _ cat
  · exact .of_made rfl

theorem atomicOn_moveAcrossEdit (c : Category) (i : Nat) (p : Plugin) (target : Category)
    (m : Move) (cat : Catalogue) : (moveAcrossEdit c i p target m).AtomicOn cat := by
  rw [moveAcrossEdit]
  dsimp only
  split
  · exact .throw _ cat
  refine .bind_get ?_
  split
  · exact .throw _ cat
  · exact .bind_liftM fun _ _ => .of_made rfl

/-- A plugin is not taken out where it is before its new place is found. -/
theorem atomicOn_moveEdit (c : Category) (name : String) (m : Move) (cat : Catalogue) :
    (moveEdit c name m).AtomicOn cat := by
  refine .bind_get ?_
  split
  · split
    · split
      · exact .throw _ cat
      · exact atomicOn_moveAcrossEdit _ _ _ _ _ cat
    · split
      · exact .throw _ cat
      · exact .bind_get (.bind_liftM fun _ _ => .of_made rfl)
  · exact .throw _ cat

end Catalogue

/-! ### Commands -/

namespace Plugins

variable {cat cat' : Catalogue} {o : Outcome} {r : Report}

theorem frame_addIn {a : Addition} (h : addIn a cat = .ok (o, cat')) :
    cat'.dir = cat.dir ∧ cat.Frame a.category a.name cat' := by
  rw [addIn] at h
  split at h
  · cases h
  · exact ⟨Catalogue.dir_of_upsert h, Catalogue.frame_upsert h⟩

/-- The plugin that is made has the name that is looked for. -/
theorem name_of_updated {u : Update} {c : Category} {name : String} {p : Plugin}
    (h : updated u c name cat = .ok p) : p.name = name := by
  rw [updated] at h
  split at h
  · rename_i hfind
    cases h
    have hname := List.find?_some hfind
    exact beq_iff_eq.1 hname
  · split at h
    · cases h
    · cases h
      rfl

/-- What is left when the directory and a plugin are set. -/
structure SetFrame (u : Update) (cat cat' : Catalogue) : Prop where
  /-- It is known which plugin is to be changed, if one is. -/
  target : ∃ place, u.target = .ok place
  /-- The directory is as it was if none is asked for. -/
  dir : u.dir = none → cat'.dir = cat.dir
  /-- All plugins are as they were if none is to be changed. -/
  alone : u.target = .ok none → cat'.plugins = cat.plugins
  /-- Otherwise only the one that is to be changed may be another. -/
  plugin : ∀ c name, u.target = .ok (some (c, name)) → cat.Frame c name cat'

theorem setFrame_of_setIn {u : Update} {place : Option (Category × String)}
    (hplace : u.target = .ok place) (h : setIn u place cat = .ok (r, cat')) :
    SetFrame u cat cat' := by
  have hplugins := plugins_setDirIn u cat
  have hdir : u.dir = none → (setDirIn u cat).2.dir = cat.dir := by
    intro hnone
    rw [setDirIn, hnone]
    rfl
  rw [setIn] at h
  generalize setDirIn u cat = changed at h hdir hplugins
  obtain ⟨o₁, cat₁⟩ := changed
  cases place with
  | none =>
    cases h
    refine ⟨⟨_, hplace⟩, hdir, fun _ => hplugins, fun c name htarget => ?_⟩
    cases hplace.symm.trans htarget
  | some place =>
    obtain ⟨p, hp, h⟩ := bind_eq_ok.1 h
    obtain ⟨⟨o, cat₂⟩, hupsert, h⟩ := bind_eq_ok.1 h
    cases h
    have hdir' := Catalogue.dir_of_upsert hupsert
    refine ⟨⟨_, hplace⟩, fun hnone => hdir'.trans (hdir hnone), fun htarget => ?_,
      fun c name htarget => ?_⟩
    · cases hplace.symm.trans htarget
    · cases hplace.symm.trans htarget
      obtain ⟨helsewhere, hslots⟩ := Catalogue.frame_upsert hupsert
      rw [hplugins] at helsewhere hslots
      rw [name_of_updated hp] at hslots
      exact ⟨helsewhere, hslots⟩

theorem firstMoved_of_moveIn {c : Category} {name : String} {request : Catalogue.Move}
    {r : MoveReport} (h : moveIn c name request cat = .ok (r, cat')) :
    ∃ p, cat.find? c name = some p ∧
      cat.FirstMoved c (request.toCategory.getD c) p cat' := by
  obtain ⟨⟨o, cat₁⟩, hmove, h⟩ := bind_eq_ok.1 h
  cases h
  exact Catalogue.firstMoved_of_move hmove

end Plugins

end FleetConfig
