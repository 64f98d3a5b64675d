import FleetConfig.Plugin.Move
import FleetConfig.Proofs.Results
import FleetConfig.Proofs.Roster
import FleetConfig.Proofs.Text.Trimming

/-!
# Valid catalogues

A catalogue is valid if its directory is not blank and the plugins of each category are valid and of
different names. Every change that is made to a valid catalogue makes a valid one: an addition, a
replacement, a removal, another directory, and all moves within a category or into another one.

The part of a category holds the directory of the catalogue and the plugins of that category alone;
its other categories are empty. So the parts say together what the catalogue says, as long as only
the directory and one category at a time are asked about.

## Main definitions

* `Catalogue.Valid` — the directory and the rosters of the categories.
* `Catalogue.Each` — something holds of the directory and the plugins of each category.

## Main results

* `Catalogue.violations_eq_nil_iff` — validity as the check has it.
* `Catalogue.Valid.upsert`, `Catalogue.Valid.delete`, `Catalogue.Valid.setDir`,
  `Catalogue.Valid.move` — every change keeps it.
* `Catalogue.each_iff_forall_only` — what holds of each category holds of all parts, and conversely.
-/

namespace FleetConfig

open Plugin (Category)

theorem Plugin.validate_eq_ok_iff {p : Plugin} : p.validate = .ok () ↔ p.violations = [] :=
  ConfigError.collect_map_eq_ok_iff

namespace Catalogue

/-- The plugins of a category are valid and of different names. -/
abbrev ValidPlugins (ps : List Plugin) : Prop := Roster Plugin.name (·.violations = []) ps

/-- The directory is not blank, and the plugins of each category are valid and of different names.
-/
structure Valid (cat : Catalogue) : Prop where
  dir : ∀ dir ∈ cat.dir, Text.isBlankText dir = false
  plugins : ∀ c, ValidPlugins (cat.plugins c)

variable {cat cat' : Catalogue} {c target : Category} {name : String} {o : Outcome}

/-! ### The check -/

theorem violationsAfter_eq_nil_iff {seen : List String} {ps : List Plugin} :
    violationsAfter c seen ps = [] ↔ ValidPlugins ps ∧ ∀ p ∈ ps, p.name ∉ seen := by
  induction ps generalizing seen with
  | nil => exact ⟨fun _ => ⟨roster_nil, nofun⟩, fun _ => rfl⟩
  | cons p ps ih =>
    rw [violationsAfter, List.append_eq_nil_iff, List.append_eq_nil_iff, List.map_eq_nil_iff, ih]
    refine Iff.trans ?_ roster_cons_and_unseen_iff.symm
    simp only [List.contains_iff_mem, ite_eq_right_iff, List.cons_ne_nil, imp_false]

/-- The check finds no violation in valid catalogues alone. -/
theorem violations_eq_nil_iff : cat.violations = [] ↔ cat.Valid := by
  have hdir : cat.dirViolations = [] ↔ ∀ dir ∈ cat.dir, Text.isBlankText dir = false := by
    rw [dirViolations]
    cases cat.dir <;> simp
  have hplugins : Category.all.flatMap cat.violationsIn = [] ↔
      ∀ c, ValidPlugins (cat.plugins c) := by
    rw [List.flatMap_eq_nil_iff]
    constructor
    · intro h c
      exact (violationsAfter_eq_nil_iff.1 (h c c.mem_all)).1
    · intro h c _
      exact violationsAfter_eq_nil_iff.2 ⟨h c, fun _ _ => List.not_mem_nil⟩
  rw [violations, List.append_eq_nil_iff, hdir, hplugins]
  exact ⟨fun h => ⟨h.1, h.2⟩, fun h => ⟨h.dir, h.plugins⟩⟩

/-! ### Changes -/

namespace Valid

theorem empty : Valid default := ⟨nofun, fun _ => roster_nil⟩

theorem withPlugins (h : cat.Valid) {ps : List Plugin} (hps : ValidPlugins ps) :
    (cat.withPlugins c ps).Valid := by
  refine ⟨h.dir, fun c' => ?_⟩
  rw [plugins_withPlugins]
  split
  · exact hps
  · exact h.plugins c'

theorem upsert {p : Plugin} (h : cat.Valid) (hupsert : cat.upsert c p = .ok (o, cat')) :
    cat'.Valid := by
  rw [Catalogue.upsert_eq] at hupsert
  obtain ⟨_, hp, hupsert⟩ := bind_eq_ok.1 hupsert
  have hp := Plugin.validate_eq_ok_iff.1 hp
  split at hupsert
  · rename_i hnone
    cases hupsert
    exact h.withPlugins ((h.plugins c).concat hp (name_ne_of_findIdx? hnone))
  · rename_i i hi
    split at hupsert
    · cases hupsert
      exact h
    · cases hupsert
      exact h.withPlugins ((h.plugins c).set hi hp)

theorem delete (h : cat.Valid) (hdelete : cat.delete c name = .ok (o, cat')) : cat'.Valid := by
  rw [Catalogue.delete_eq] at hdelete
  split at hdelete
  · cases hdelete
  · cases hdelete
    exact h.withPlugins ((h.plugins c).eraseIdx _)

theorem setDir (h : cat.Valid) (dir : Option String) : (cat.setDir dir).2.Valid := by
  refine ⟨fun dir' hdir' => ?_, h.plugins⟩
  obtain ⟨hmem, hne⟩ := Option.filter_eq_some_iff.1 hdir'
  obtain ⟨s, -, rfl⟩ := Option.map_eq_some_iff.1 hmem
  exact Text.isBlankText_trim (bne_iff_ne.1 hne)

/-! ### Moves -/

theorem moveWithin {i : Nat} {p : Plugin} {goal : Placement} (h : cat.Valid)
    (hp : p.violations = []) (hi : cat.indexOf? c p.name = some i)
    (hmove : cat.moveWithin c i p goal = .ok (o, cat')) : cat'.Valid := by
  rw [Catalogue.moveWithin_eq] at hmove
  obtain ⟨j, -, hmove⟩ := bind_eq_ok.1 hmove
  cases hmove
  have hps := h.plugins c
  exact h.withPlugins ((hps.eraseIdx i).insertIdx hp (hps.name_ne_of_mem_eraseIdx hi) j)

theorem place {p : Plugin} {replaced j : Option Nat} {ps : List Plugin} (h : ValidPlugins ps)
    (hp : p.violations = []) (hreplaced : (ps.findIdx? fun q => q.name == p.name) = replaced) :
    ValidPlugins (place p replaced j ps) := by
  cases replaced with
  | none =>
    have hnew := name_ne_of_findIdx? hreplaced
    cases j with
    | none => exact h.concat hp hnew
    | some j => exact h.insertIdx hp hnew j
  | some i =>
    cases j with
    | none => exact h.set hreplaced hp
    | some j => exact (h.eraseIdx i).insertIdx hp (h.name_ne_of_mem_eraseIdx hreplaced) j

theorem moveAcross {i : Nat} {p : Plugin} {m : Move} (h : cat.Valid) (hp : p.violations = [])
    (htarget : target ≠ c) (hmove : cat.moveAcross c i p target m = .ok (o, cat')) :
    cat'.Valid := by
  rw [Catalogue.moveAcross_eq] at hmove
  split at hmove
  · cases hmove
  dsimp only at hmove
  split at hmove
  · cases hmove
  obtain ⟨j, -, hmove⟩ := bind_eq_ok.1 hmove
  cases hmove
  refine (h.withPlugins ((h.plugins c).eraseIdx i)).withPlugins ?_
  rw [plugins_withPlugins, if_neg htarget]
  exact place (h.plugins target) hp rfl

/-- However a plugin is moved, the catalogue stays valid. -/
theorem move {m : Move} (h : cat.Valid) (hmove : cat.move c name m = .ok (o, cat')) :
    cat'.Valid := by
  rw [Catalogue.move_eq] at hmove
  split at hmove
  · rename_i i p hi hfind
    have hname := List.find?_some hfind
    obtain rfl : p.name = name := beq_iff_eq.1 hname
    have hp := (h.plugins c).valid p (List.mem_of_find?_eq_some hfind)
    split at hmove
    · split at hmove
      · cases hmove
      · rename_i htarget
        exact h.moveAcross hp htarget hmove
    · split at hmove
      · cases hmove
      · exact h.moveWithin hp hi hmove
  · cases hmove

end Valid

/-! ### Parts -/

variable {c' : Category}

theorem plugins_only : (cat.only c).plugins c' = if c' = c then cat.plugins c else [] := rfl

@[simp] theorem plugins_only_self : (cat.only c).plugins c = cat.plugins c := if_pos rfl

theorem plugins_only_of_ne (h : c' ≠ c) : (cat.only c).plugins c' = [] := if_neg h

/-- No plugins have only parts without plugins. -/
theorem only_default (c : Category) : (default : Catalogue).only c = default := by
  refine ext_all rfl fun c' _ => ?_
  rw [plugins_only]
  exact ite_self _

/-- Something holds of the directory and the plugins of each category. -/
def Each (R : Option String → List Plugin → Prop) (cat : Catalogue) : Prop :=
  ∀ c, R cat.dir (cat.plugins c)

/-- A part has empty categories beside its own. If nothing is asked of those that is not asked of
every category, then the parts have to meet what the whole has to meet. -/
theorem each_iff_forall_only {R : Option String → List Plugin → Prop}
    (hnil : ∀ {dir ps}, R dir ps → R dir []) : cat.Each R ↔ ∀ c, (cat.only c).Each R := by
  constructor
  · intro h c c'
    by_cases hc : c' = c
    · subst hc
      rw [plugins_only_self]
      exact h c'
    · rw [plugins_only_of_ne hc]
      exact hnil (h c)
  · intro h c
    have hself := h c c
    rwa [plugins_only_self] at hself

theorem valid_iff_each : cat.Valid ↔ cat.Each fun dir ps =>
    (∀ d ∈ dir, Text.isBlankText d = false) ∧ ValidPlugins ps :=
  ⟨fun h c => ⟨h.dir, h.plugins c⟩, fun h => ⟨(h .audit).1, fun c => (h c).2⟩⟩

/-! ### Plugins of all categories -/

theorem distinctCount_eq_zero_iff : cat.distinctCount = 0 ↔ ∀ c, cat.plugins c = [] := by
  rw [distinctCount, List.length_eq_zero_iff, List.eq_nil_iff_forall_not_mem]
  simp only [List.mem_eraseDups]
  rw [← List.eq_nil_iff_forall_not_mem, List.flatMap_eq_nil_iff]
  simp only [List.map_eq_nil_iff]
  exact ⟨fun h c => h c c.mem_all, fun h c _ => h c⟩

end Catalogue

end FleetConfig
