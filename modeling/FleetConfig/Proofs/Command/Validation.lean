import FleetConfig.Command.Plugins
import FleetConfig.Proofs.Check.Running
import FleetConfig.Proofs.Store.Keeping

/-!
# Validating plugins category by category

The plugins of a contract are validated all together or those of one category alone. What is looked
at is a catalogue in either case: the one of the contract, or its part of the category. A blank
directory is wrong in every part, an empty category needs no directory, and everything else is asked
of each plugin among those of its category. So the parts are valid, one by one, exactly if the whole
is.

## Main definitions

* `Catalogue.scope` — the catalogue that is looked at.
* `Plugins.Sound` — a catalogue passes the checks that are asked for.

## Main results

* `Plugins.sound_iff_forall_only` — a catalogue passes exactly if its parts do.
* `Plugins.runOn_validate_eq_ok` — when validation succeeds, and with which report.
* `Plugins.validate_agrees_by_category` — the validation of all plugins, of those of each category,
  and of those of another contract with the same plugins.
-/

namespace FleetConfig

open FileTree (SameBut)
open Plugin (Category)

/-! ### Narrowed contracts -/

/-- The catalogue, or its part of a category. -/
def Catalogue.scope (cat : Catalogue) : Option Category → Catalogue
  | none => cat
  | some c => cat.only c

theorem Contract.catalogue_onlyPlugins (k : Contract) (c : Option Category) :
    (k.onlyPlugins c).catalogue = k.catalogue.scope c := by
  rw [onlyPlugins, catalogue, catalogue]
  cases hplugins : k.plugins with
  | none =>
    cases c with
    | none => rfl
    | some c => exact (Catalogue.only_default c).symm
  | some cat => cases c <;> rfl

theorem Contract.valid_onlyPlugins_iff {k : Contract} {c : Option Category} :
    (k.onlyPlugins c).Valid ↔ (k.catalogue.scope c).Valid := by
  rw [← catalogue_onlyPlugins]
  refine ⟨Valid.catalogue, fun h => ⟨roster_nil, Valid.empty.daemon, fun cat hcat => ?_⟩⟩
  rwa [catalogue, Option.mem_def.1 hcat] at h

namespace Plugins

variable {locs : Locations} {t t' u : FileTree} {cat : Catalogue} {k k' : Contract}
  {c : Option Category} {programs : Bool} {v : Validation}

/-! ### Catalogues that pass -/

/-- A catalogue is valid and, if that is asked for, has its programs. -/
def Sound (programs : Bool) (t : FileTree) (cat : Catalogue) : Prop :=
  cat.Valid ∧ (programs = true → cat.HasPrograms t)

theorem sound_iff_forall_only :
    Sound programs t cat ↔ ∀ c, Sound programs t (cat.only c) := by
  -- Every part is asked whether the directory is blank, even one without plugins; only plugins ask
  -- whether it is there.
  have hvalid : cat.Valid ↔ ∀ c, (cat.only c).Valid := by
    simp only [Catalogue.valid_iff_each]
    exact Catalogue.each_iff_forall_only fun h => ⟨h.1, roster_nil⟩
  have hprograms : cat.HasPrograms t ↔ ∀ c, (cat.only c).HasPrograms t :=
    Catalogue.each_iff_forall_only fun _ => nofun
  simp only [Sound, hvalid, hprograms, forall_and]
  exact and_congr_right fun _ => forall_comm

/-- The checks of a command pass on the plugins that it looks at. -/
theorem passes_iff_sound :
    (∀ check ∈ if programs then [Check.schema, Check.programs] else [Check.schema],
      Check.Passes t (k.onlyPlugins c) check) ↔ Sound programs t (k.catalogue.scope c) := by
  cases programs with
  | false =>
    simp [Sound, Check.passes_schema_iff, Contract.valid_onlyPlugins_iff]
  | true =>
    simp [Sound, Check.passes_schema_iff, Check.passes_programs_iff,
      Contract.valid_onlyPlugins_iff, Contract.catalogue_onlyPlugins]

/-! ### Validation -/

/-- What validation does with a contract that was loaded. -/
def validated (k : Contract) (c : Option Category) (programs : Bool) :
    Action (StateM FileTree) Validation := do
  let checks := if programs then [Check.schema, Check.programs] else [Check.schema]
  let k ← Check.checked (k.onlyPlugins c) checks
  return { checked := listing k.catalogue c, programs }

theorem validate_eq_bind (locs : Locations) (c : Option Category) (programs : Bool) :
    validate locs c programs = Store.load locs.contract >>= fun k => validated k c programs := by
  rw [validate, Check.loadContract_eq_bind, bind_assoc]
  rfl

theorem blind_validated (k : Contract) (c : Option Category) (programs : Bool) :
    (validated k c programs).Blind :=
  .bind (Check.blind_checked _ _) fun _ => .pure _

/-- Only the plugins of a contract are looked at. -/
theorem validated_congr (h : k'.plugins = k.plugins) :
    validated k' c programs = validated k c programs := by
  rw [validated, validated, Contract.onlyPlugins, Contract.onlyPlugins, h]

theorem runOn_validated_eq_ok : (validated k c programs).runOn t = (.ok v, t') ↔
    Sound programs t (k.catalogue.scope c) ∧ t' = t ∧
      v = { checked := listing (k.catalogue.scope c) c, programs } := by
  rw [validated, Action.runOn_bind_eq_ok]
  constructor
  · rintro ⟨k', t₁, hchecked, h⟩
    obtain ⟨rfl, rfl, hpasses⟩ := Check.runOn_checked_eq_ok.1 hchecked
    rw [Contract.catalogue_onlyPlugins] at h
    cases h
    exact ⟨passes_iff_sound.1 hpasses, rfl, rfl⟩
  · rintro ⟨hsound, rfl, rfl⟩
    refine ⟨_, t', Check.runOn_checked_eq_ok.2 ⟨rfl, rfl, passes_iff_sound.2 hsound⟩, ?_⟩
    rw [Contract.catalogue_onlyPlugins]
    rfl

theorem runOn_validate_of_load (hload : (Store.load locs.contract).runOn t = (.ok k, t)) :
    (validate locs c programs).runOn t = (validated k c programs).runOn t := by
  rw [validate_eq_bind, Action.runOn_bind_of_ok hload]

/-- Validation that succeeds has loaded a contract and changed nothing. -/
theorem runOn_validate_eq_ok : (validate locs c programs).runOn t = (.ok v, t') ↔
    ∃ k : Contract, (Store.load locs.contract).runOn t = (.ok k, t) ∧
      Sound programs t (k.catalogue.scope c) ∧ t' = t ∧
        v = { checked := listing (k.catalogue.scope c) c, programs } := by
  rw [validate_eq_bind, Action.runOn_bind_eq_ok]
  constructor
  · rintro ⟨k, t₁, hload, h⟩
    obtain rfl := Store.readsOnly_load.eq_of_runOn hload
    exact ⟨k, hload, runOn_validated_eq_ok.1 h⟩
  · rintro ⟨k, hload, h⟩
    exact ⟨k, t, hload, runOn_validated_eq_ok.2 h⟩

/-- Whether validation succeeds depends on the contract that is loaded. -/
theorem succeeds_iff_exists_sound :
    (∃ v t', (validate locs c programs).runOn t = (.ok v, t')) ↔
      ∃ k : Contract, (Store.load locs.contract).runOn t = (.ok k, t) ∧
        Sound programs t (k.catalogue.scope c) := by
  simp only [runOn_validate_eq_ok]
  constructor
  · rintro ⟨_, _, k, hload, hsound, -⟩
    exact ⟨k, hload, hsound⟩
  · rintro ⟨k, hload, hsound⟩
    exact ⟨_, _, k, hload, hsound, rfl, rfl⟩

theorem succeeds_iff_forall_category :
    (∃ v t', (validate locs none programs).runOn t = (.ok v, t')) ↔
      ∀ c, ∃ v t', (validate locs (some c) programs).runOn t = (.ok v, t') := by
  simp only [succeeds_iff_exists_sound]
  constructor
  · rintro ⟨k, hload, hsound⟩ c
    exact ⟨k, hload, sound_iff_forall_only.1 hsound c⟩
  · intro h
    -- Each category loads the contract anew, but from one tree: it is the same contract.
    obtain ⟨k, hload, -⟩ := h .audit
    refine ⟨k, hload, sound_iff_forall_only.2 fun c => ?_⟩
    obtain ⟨k', hload', hsound⟩ := h c
    cases hload.symm.trans hload'
    exact hsound

/-- Validation of all plugins succeeds exactly if it succeeds for each category, which it does if
the plugins of the contract pass. Then what is listed as checked, all in all, is what is listed for
the categories that are not empty, in the order in which they run: the plugins of the contract. The
servers and the daemon section of the contract make no difference: contracts with the same plugins,
in trees that differ in the bytes of files only, are validated with the same result, be it a listing
or an error. -/
theorem validate_agrees_by_category :
    (∀ (locs : Locations) (programs : Bool) (t : FileTree),
      ((∃ v t', (validate locs none programs).runOn t = (.ok v, t')) ↔
        ∀ c, ∃ v t', (validate locs (some c) programs).runOn t = (.ok v, t')) ∧
      ((∃ v t', (validate locs none programs).runOn t = (.ok v, t')) ↔
        ∃ k : Contract, (Store.load locs.contract).runOn t = (.ok k, t) ∧
          Sound programs t k.catalogue) ∧
      ∀ v t', (validate locs none programs).runOn t = (.ok v, t') →
        ∃ k : Contract, (Store.load locs.contract).runOn t = (.ok k, t) ∧
          (∀ c, (validate locs (some c) programs).runOn t =
            (.ok { checked := [(c, k.catalogue.plugins c)], programs }, t)) ∧
          t' = t ∧ v.programs = programs ∧
          v.checked =
            (Category.all.map fun c => (c, k.catalogue.plugins c)).filter fun e =>
              !e.2.isEmpty) ∧
      ∀ (locs : Locations) (c : Option Category) (programs : Bool) (t u : FileTree)
        (k k' : Contract), SameBut Set.univ t u →
        (Store.load locs.contract).runOn t = (.ok k, t) →
        (Store.load locs.contract).runOn u = (.ok k', u) → k'.plugins = k.plugins →
        ((validate locs c programs).runOn u).1 = ((validate locs c programs).runOn t).1 := by
  refine ⟨fun locs programs t => ⟨succeeds_iff_forall_category, succeeds_iff_exists_sound, ?_⟩, ?_⟩
  · intro v t' h
    obtain ⟨k, hload, hsound, rfl, rfl⟩ := runOn_validate_eq_ok.1 h
    refine ⟨k, hload, fun c => ?_, rfl, rfl, rfl⟩
    refine runOn_validate_eq_ok.2 ⟨k, hload, sound_iff_forall_only.1 hsound c, rfl, ?_⟩
    rw [listing, Catalogue.scope, Catalogue.plugins_only_self]
  · intro locs c programs t u k k' hsame hload hload' hplugins
    rw [runOn_validate_of_load hload, runOn_validate_of_load hload', validated_congr hplugins]
    exact (blind_validated k c programs _ t u hsame).1

/-- Plugins of two categories. -/
def twoPlugins : Contract where
  plugins := some
    { dir := some "bin"
      plugins := fun
        | .authentication => [{ name := "a", flows := { request := true } }]
        | .audit => [{ name := "b", flows := { response := true } }]
        | _ => [] }

/-- The same plugins beside servers of one name and settings that are wrong. -/
def wrongElsewhere : Contract where
  servers := [{ name := "s", package := "p" }, { name := "s", package := "" }]
  daemon := some { api := some { addr := some "nowhere" } }
  plugins := twoPlugins.plugins

/-- A contract and the programs of two plugins. -/
def treeWithPrograms (k : Contract) : FileTree where
  entries := [(["c.toml"], .file (Document.print k).toUTF8), (["bin"], .dir),
    (["bin", "a"], .file ⟨#[]⟩), (["bin", "b"], .file ⟨#[]⟩)]
  workingDir := []

private theorem sameBut_treeWithPrograms (k k' : Contract) :
    SameBut Set.univ (treeWithPrograms k) (treeWithPrograms k') := by
  refine ⟨rfl, rfl, fun q => ?_⟩
  by_cases hq : q = ["c.toml"]
  · subst hq
    exact .inr ⟨trivial, ⟨_, rfl⟩, _, rfl⟩
  · left
    simp only [FileTree.get?, treeWithPrograms, List.lookup_cons, beq_eq_false_iff_ne.2 hq]

private theorem sound_twoPlugins (k : Contract) :
    Sound true (treeWithPrograms k) twoPlugins.catalogue := by
  refine ⟨Catalogue.violations_eq_nil_iff.1 rfl, fun _ c p hp => ?_⟩
  refine ⟨"bin", rfl, by decide, ⟨["bin"], rfl⟩, ?_⟩
  cases c with
  | authentication =>
    cases List.mem_singleton.1 hp
    exact ⟨["bin", "a"], ⟨#[]⟩, rfl⟩
  | audit =>
    cases List.mem_singleton.1 hp
    exact ⟨["bin", "b"], ⟨#[]⟩, rfl⟩
  | _ => cases hp

/-- Two plugins are found valid, alone and together, whatever is wrong elsewhere in the contract. -/
theorem validate_agrees_by_category_wrong_elsewhere :
    (∀ c, ∃ ps, (validate ⟨⟨"c.toml"⟩, ⟨"x.toml"⟩⟩ (some c) true).runOn
      (treeWithPrograms twoPlugins) =
        (.ok { checked := [(c, ps)], programs := true }, treeWithPrograms twoPlugins)) ∧
    ¬wrongElsewhere.Valid ∧
    ((validate ⟨⟨"c.toml"⟩, ⟨"x.toml"⟩⟩ none true).runOn (treeWithPrograms wrongElsewhere)).1 =
      .ok { checked := twoPlugins.catalogue.filled, programs := true } := by
  have hload : (Store.load ⟨"c.toml"⟩).runOn (treeWithPrograms twoPlugins) =
      (.ok twoPlugins, treeWithPrograms twoPlugins) :=
    Store.load_of_read rfl (show twoPlugins.InRange from fun _ h => nomatch h)
  have hload' : (Store.load ⟨"c.toml"⟩).runOn (treeWithPrograms wrongElsewhere) =
      (.ok wrongElsewhere, treeWithPrograms wrongElsewhere) :=
    Store.load_of_read rfl (show wrongElsewhere.InRange from fun _ h => nomatch h)
  have hall : (validate ⟨⟨"c.toml"⟩, ⟨"x.toml"⟩⟩ none true).runOn (treeWithPrograms twoPlugins) =
      (.ok { checked := twoPlugins.catalogue.filled, programs := true },
        treeWithPrograms twoPlugins) :=
    runOn_validate_eq_ok.2 ⟨twoPlugins, hload, sound_twoPlugins twoPlugins, rfl, rfl⟩
  refine ⟨fun c => ?_, fun h => ?_, ?_⟩
  · obtain ⟨k, -, hparts, -⟩ := (validate_agrees_by_category.1 _ _ _).2.2 _ _ hall
    exact ⟨k.catalogue.plugins c, hparts c⟩
  · have hblank := h.servers.valid { name := "s", package := "" } (by decide)
    exact absurd hblank (by decide)
  · have hsame := validate_agrees_by_category.2 ⟨⟨"c.toml"⟩, ⟨"x.toml"⟩⟩ none true
      (treeWithPrograms twoPlugins) (treeWithPrograms wrongElsewhere) twoPlugins wrongElsewhere
      (sameBut_treeWithPrograms _ _) hload hload' rfl
    exact hsame.trans (congrArg Prod.fst hall)

end Plugins

end FleetConfig
