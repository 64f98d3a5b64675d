import FleetConfig.Proofs.Command.Edits
import FleetConfig.Proofs.Plugin.Slots
import FleetConfig.Proofs.Contract.Validity

/-!
# Plugins by their names

Commands for single plugins look the plugin up by its name. All but one look for the name as it is
given; the command that sets fields trims it first. So a plugin whose name has blanks at its ends,
which may be added and is valid, is not found by that command: it changes the plugin of the trimmed
name, or makes one.

## Main results

* `Catalogue.Distinct.find?_of_mem` — a plugin is found by its name.
* `Plugins.violations_apply` — an update of a valid plugin is valid.
* `Plugins.setIn_of_mem`, `Plugins.mem_of_setIn` — what an update changes, and what not.
-/

namespace FleetConfig

open Plugin (Category Flow FlowSet)
open Named (others put)

variable {cat cat' : Catalogue} {c : Category} {p q : Plugin} {name : String}

/-! ### Plugins in a catalogue -/

theorem Catalogue.Valid.distinct (h : cat.Valid) : cat.Distinct := fun c => (h.plugins c).distinct

/-- A plugin is found by its name. -/
theorem Catalogue.Distinct.find?_of_mem (h : cat.Distinct) (hp : p ∈ cat.plugins c) :
    cat.find? c p.name = some p :=
  Named.find?_of_mem (h c) hp

/-- A plugin that is there is taken out, and the others are left. -/
theorem Catalogue.Distinct.delete_of_mem (h : cat.Distinct) (hp : p ∈ cat.plugins c) :
    cat.delete c p.name =
      .ok (.deleted, cat.withPlugins c (others Plugin.name p.name (cat.plugins c))) := by
  obtain ⟨i, hi⟩ := Option.isSome_iff_exists.1 (isSome_indexOf?_iff.2 (List.mem_map_of_mem hp))
  rw [Catalogue.delete_eq, hi]
  simp only
  rw [Named.eraseIdx_eq_others (h c) hi]

namespace Plugins

/-! ### Updates -/

theorem isEmpty_ofList {fs : List Flow} (h : fs.isEmpty = false) :
    (FlowSet.ofList fs).isEmpty = false := by
  have hfold : ∀ (fs : List Flow) (s : FlowSet), s.isEmpty = false →
      (fs.foldl FlowSet.insert s).isEmpty = false := by
    intro fs
    induction fs with
    | nil => exact fun s hs => hs
    | cons f fs ih =>
      intro s hs
      refine ih _ ?_
      cases f <;> simp [FlowSet.insert, FlowSet.isEmpty]
  cases fs with
  | nil => cases h
  | cons f fs => exact hfold fs _ (by cases f <;> rfl)

/-- An update of a valid plugin is valid. -/
theorem violations_apply (u : Update) (hp : p.violations = []) : (u.apply p).violations = [] := by
  rw [Plugin.violations, List.append_eq_nil_iff, List.append_eq_nil_iff] at hp ⊢
  obtain ⟨⟨hname, hflows⟩, hhash⟩ := hp
  refine ⟨⟨hname, if_neg ?_⟩, if_neg ?_⟩
  · rw [Update.apply]
    cases hu : u.flows.isEmpty with
    | true => simpa using hflows
    | false => simp [isEmpty_ofList hu]
  · rw [Update.apply]
    cases u.commitHash with
    | none => simpa using hhash
    | some hash =>
      have hblank : ∀ text ∈ (some (Text.trim hash)).filter (· != ""),
          Text.isBlankText text = false := by
        intro text htext
        obtain ⟨hmem, hne⟩ := Option.filter_eq_some_iff.1 htext
        cases hmem
        exact Text.isBlankText_trim (bne_iff_ne.1 hne)
      rw [Option.any_eq_true]
      rintro ⟨text, htext, hblank'⟩
      rw [hblank text htext] at hblank'
      cases hblank'

/-- The name of a valid plugin is not blank. -/
theorem isBlankText_of_violations (hp : p.violations = []) : Text.isBlankText p.name = false := by
  rw [Plugin.violations, List.append_eq_nil_iff, List.append_eq_nil_iff, Plugin.nameViolations]
    at hp
  by_contra hblank
  rw [if_pos (Bool.not_eq_false _ |>.mp hblank)] at hp
  cases hp.1.1

/-- The command that sets fields looks for the trimmed name. -/
theorem target_of_name {u : Update} (hc : u.category = some c) (hname : u.name = some name)
    (hblank : Text.isBlankText name = false) : u.target = .ok (some (c, Text.trim name)) := by
  have hne : Text.trim name ≠ "" := fun h => by
    rw [Text.trim_eq_empty_iff.1 h] at hblank
    cases hblank
  have hchanges : u.changesPlugin = true := by
    rw [Update.changesPlugin, hc]
    rfl
  have hname' : (u.name.map Text.trim).filter (· != "") = some (Text.trim name) := by
    rw [hname, Option.map_some, Option.filter_some, if_pos (bne_iff_ne.2 hne)]
  rw [Update.target, hchanges, hc, hname']
  rfl

theorem find?_setDirIn (u : Update) : (setDirIn u cat).2.find? c name = cat.find? c name := by
  rw [Catalogue.find?, plugins_setDirIn, Catalogue.find?]

theorem distinct_setDirIn (u : Update) (h : cat.Distinct) : (setDirIn u cat).2.Distinct := by
  rw [Catalogue.Distinct, plugins_setDirIn]
  exact h

/-- What is set for the name of a plugin that is there changes the plugin in its slot. -/
theorem setIn_of_mem (u : Update) (h : cat.Distinct) (hp : p ∈ cat.plugins c)
    (hvalid : p.violations = []) :
    ∃ outcome, setIn u (some (c, p.name)) cat =
      .ok ({ name := some p.name, category := some c, plugin := some (u.apply p), outcome },
        (setDirIn u cat).2.withPlugins c
          ((cat.plugins c).map fun q => if q.name = p.name then u.apply p else q)) := by
  have hupdated : updated u c p.name (setDirIn u cat).2 = .ok (u.apply p) := by
    rw [updated, find?_setDirIn, h.find?_of_mem hp]
  have hmade : ∃ result, (setDirIn u cat).2.upsert c (u.apply p) = .ok result :=
    Catalogue.exists_upsert_iff.2 (violations_apply u hvalid)
  obtain ⟨⟨o, cat'⟩, hupsert⟩ := hmade
  refine ⟨(setDirIn u cat).1.combine o, ?_⟩
  have hcat' := (distinct_setDirIn u h).upsert hupsert
  have hmem : (u.apply p).name ∈ (cat.plugins c).map Plugin.name :=
    List.mem_map.2 ⟨p, hp, rfl⟩
  rw [plugins_setDirIn, put, if_pos hmem] at hcat'
  rw [hcat'] at hupsert
  exact bind_eq_ok.2 ⟨_, hupdated, bind_eq_ok.2 ⟨_, hupsert, rfl⟩⟩

/-- What is set for another name leaves a plugin alone. -/
theorem mem_of_setIn {u : Update} {r : Report} (h : cat.Distinct) (hp : p ∈ cat.plugins c)
    (hne : p.name ≠ name) (hset : setIn u (some (c, name)) cat = .ok (r, cat')) :
    r.name = some name ∧ p ∈ cat'.plugins c := by
  obtain ⟨q, hq, hset⟩ := bind_eq_ok.1 hset
  obtain ⟨⟨o, cat₁⟩, hupsert, hset⟩ := bind_eq_ok.1 hset
  cases hset
  refine ⟨rfl, ?_⟩
  have hcat₁ := (distinct_setDirIn u h).upsert hupsert
  rw [hcat₁, Catalogue.plugins_withPlugins, if_pos rfl, plugins_setDirIn]
  exact Named.mem_put_of_ne hp (name_of_updated hq ▸ hne)

end Plugins

end FleetConfig
