import FleetConfig.Proofs.Cli.Failing
import FleetConfig.Proofs.Command.Addressing
import FleetConfig.Proofs.Command.Sections

/-!
# Stored plugins under commands

A plugin of a valid contract is got, moved and removed by its category and its name. Its fields are
set so too if its name has no blanks at its ends. If it has, setting fields never changes the
plugin, although the name that is given is its own.

## Main definitions

* `Plugins.Addressed` — what the commands do that are given the category and name of a plugin.

## Main results

* `Plugins.addressed_of_mem` — the plugins of valid contracts are addressed.
-/

namespace FleetConfig.Plugins

open Catalogue (Moved)
open Contract (inRange_of_load keepsDaemon_editPlugins)
open Named (others)
open Plugin (Category)
open Store (Performs Stores)

variable {locs : Locations} {t : FileTree} {k : Contract} {c : Category} {p : Plugin}

/-- What commands do to the contract in a file if they are given the category and the name of a
plugin. -/
structure Addressed (locs : Locations) (t : FileTree) (k : Contract) (c : Category) (p : Plugin) :
    Prop where
  /-- The plugin is got. -/
  get : (get locs c p.name).runOn t = (.ok p, t)
  /-- It is removed, and the others are left. -/
  remove : Stores locs.contract (remove locs c p.name)
    { name := some p.name, category := some c, outcome := .deleted } k
    { k with plugins := some (k.catalogue.withPlugins c
      (others Plugin.name p.name (k.catalogue.plugins c))) } t
  /-- It is moved if its new place is there. -/
  move : ∀ m : Catalogue.Move, m.Fits k.catalogue c p.name → ∃ outcome cat,
    k.catalogue.Moved c (m.toCategory.getD c) p cat ∧
      Stores locs.contract (move locs c p.name m)
        { name := p.name, source := c, category := m.toCategory.getD c,
          order := (cat.plugins (m.toCategory.getD c)).map Plugin.name, outcome }
        k { k with plugins := some cat } t
  /-- Otherwise it stays. -/
  move_refused : ∀ m : Catalogue.Move, ¬m.Fits k.catalogue c p.name →
    ∃ e, (Plugins.move locs c p.name m).runOn t = (.error e, t)
  /-- Its fields are set in its slot if its name is trimmed. -/
  set : Text.Trimmed p.name → ∀ u : Update, u.category = some c → u.name = some p.name →
    ∃ outcome, Stores locs.contract (set locs u)
      { name := some p.name, category := some c, plugin := some (u.apply p), outcome } k
      { k with plugins := some ((setDirIn u k.catalogue).2.withPlugins c
        ((k.catalogue.plugins c).map fun q => if q.name = p.name then u.apply p else q)) } t
  /-- Otherwise it stays as it is, and another plugin is set. -/
  set_other : ¬Text.Trimmed p.name → ∀ u : Update, u.category = some c → u.name = some p.name →
    ∀ r t', (Plugins.set locs u).runOn t = (.ok r, t') → r.name = some (Text.trim p.name) ∧
      ∃ k' : Contract, (Store.load locs.contract).runOn t' = (.ok k', t') ∧
        p ∈ k'.catalogue.plugins c

/-! ### Each command -/

/-- What a change makes of the plugins is stored. -/
theorem stores_editPlugins {α β : Type} {g : Catalogue → Except ConfigError (β × Catalogue)}
    {report : β → α} {x : Action (StateM FileTree) α} {b : β} {cat : Catalogue}
    (h : Performs locs.contract (fun k : Contract => k.editPlugins g) report x)
    (hload : (Store.load locs.contract).runOn t = (.ok k, t))
    (hg : g k.catalogue = .ok (b, cat)) :
    Stores locs.contract x (report b) k { k with plugins := some cat } t := by
  have hedit : k.editPlugins g = .ok (b, { k with plugins := some cat }) :=
    Contract.editPlugins_eq_ok_iff.2 ⟨cat, hg, rfl⟩
  have hrange := (keepsDaemon_editPlugins g).keepsRange _ _ _ (inRange_of_load hload) hedit
  exact h.stores hload hedit hrange (Contract.prune_prune _)

/-- What is refused of the plugins is refused of their contract. -/
theorem editPlugins_of_error {β : Type} {g : Catalogue → Except ConfigError (β × Catalogue)}
    {e : ConfigError} (h : g k.catalogue = .error e) : k.editPlugins g = .error e := by
  rw [Contract.editPlugins_eq, h]
  rfl

theorem runOn_get (hload : (Store.load locs.contract).runOn t = (.ok k, t))
    (hfind : k.catalogue.find? c p.name = some p) :
    (get locs c p.name).runOn t = (.ok p, t) := by
  have hcatalogue : (catalogue locs).runOn t = (.ok k.catalogue, t) :=
    Action.runOn_bind_of_ok hload
  rw [Plugins.get, Action.runOn_bind_of_ok hcatalogue, hfind]
  rfl

theorem stores_move (h : k.catalogue.Distinct) (hp : p ∈ k.catalogue.plugins c)
    (hload : (Store.load locs.contract).runOn t = (.ok k, t)) {m : Catalogue.Move}
    (hfits : m.Fits k.catalogue c p.name) : ∃ outcome cat,
      k.catalogue.Moved c (m.toCategory.getD c) p cat ∧
        Stores locs.contract (move locs c p.name m)
          { name := p.name, source := c, category := m.toCategory.getD c,
            order := (cat.plugins (m.toCategory.getD c)).map Plugin.name, outcome }
          k { k with plugins := some cat } t := by
  obtain ⟨⟨outcome, cat⟩, hmove⟩ := h.exists_move_iff.2 ⟨List.mem_map_of_mem hp, hfits⟩
  obtain ⟨q, hq, hname, hmoved⟩ := h.move hmove
  obtain rfl := List.inj_on_of_nodup_map (h c) hq hp hname
  have hmoveIn : moveIn c q.name m k.catalogue = .ok (_, cat) := bind_eq_ok.2 ⟨_, hmove, rfl⟩
  have hstores := stores_editPlugins (performs_move c q.name m) hload hmoveIn
  exact ⟨outcome, cat, hmoved, hstores⟩

theorem exists_error_of_move (h : k.catalogue.Distinct)
    (hload : (Store.load locs.contract).runOn t = (.ok k, t)) {m : Catalogue.Move}
    (hfits : ¬m.Fits k.catalogue c p.name) :
    ∃ e, (move locs c p.name m).runOn t = (.error e, t) := by
  cases hmove : k.catalogue.move c p.name m with
  | ok r => exact absurd (h.exists_move_iff.1 ⟨r, hmove⟩).2 hfits
  | error e =>
    have hmoveIn : moveIn c p.name m k.catalogue = .error e := by
      rw [moveIn, hmove]
      rfl
    have hedit := editPlugins_of_error hmoveIn
    exact (performs_move c p.name m).error
      ((Store.allOrNothing_modify locs.contract _ t).change_fails k e hload hedit)

/-- Fields that are refused are not set. -/
theorem runOn_set_of_refused (locs : Locations) {u : Update} {target : Option (Category × String)}
    {e : ConfigError} (htarget : u.target = .ok target)
    (hload : (Store.load locs.contract).runOn t = (.ok k, t))
    (hrefused : setIn u target k.catalogue = .error e) : (set locs u).runOn t =
      (.error ((Failure.ofError e).within "Failed to set plugin configuration"), t) := by
  have hedit := editPlugins_of_error hrefused
  have hmodify := (Store.allOrNothing_modify locs.contract
    (fun k : Contract => k.editPlugins (setIn u target)) t).change_fails k e hload hedit
  rw [Plugins.set, htarget]
  show (Action.within _ (Store.modify _ _)).runOn _ = _
  rw [Action.runOn_within, hmodify]
  rfl

/-- A plugin whose name is not trimmed is left alone. -/
theorem mem_after_set (h : k.catalogue.Distinct) (hp : p ∈ k.catalogue.plugins c)
    (hload : (Store.load locs.contract).runOn t = (.ok k, t)) {u : Update}
    (htarget : u.target = .ok (some (c, Text.trim p.name))) (hname : ¬Text.Trimmed p.name)
    {r : Report} {t' : FileTree} (hset : (set locs u).runOn t = (.ok r, t')) :
    r.name = some (Text.trim p.name) ∧
      ∃ k' : Contract, (Store.load locs.contract).runOn t' = (.ok k', t') ∧
        p ∈ k'.catalogue.plugins c := by
  obtain ⟨f, ⟨target, htarget', rfl⟩, r', k₀, k', rfl, hmodified⟩ :=
    (edits_set u).exists_modified hset
  cases htarget.symm.trans htarget'
  obtain rfl := hmodified.eq_of_load hload
  obtain ⟨cat', hsetIn, rfl⟩ := Contract.editPlugins_eq_ok_iff.1 hmodified.change
  obtain ⟨hreport, hmem⟩ := mem_of_setIn h hp (fun heq => hname heq.symm) hsetIn
  have hrange := (keepsDaemon_editPlugins _).keepsRange _ _ _ (inRange_of_load hload)
    hmodified.change
  obtain ⟨k'', hload', hprune⟩ := hmodified.load_after hrange (Contract.prune_prune _)
  refine ⟨hreport, k'', hload', ?_⟩
  rw [(Contract.prune_eq_prune_iff.1 hprune).2.2]
  exact hmem

/-! ### The result -/

/-- The plugins of a valid contract are addressed by their categories and names; only setting fields
takes a trimmed name. -/
theorem addressed_of_mem (locs : Locations) (t : FileTree) (k : Contract)
    (hload : (Store.load locs.contract).runOn t = (.ok k, t)) (hvalid : k.validate = .ok ())
    (c : Category) (p : Plugin) (hp : p ∈ k.catalogue.plugins c) : Addressed locs t k c p := by
  have hcatalogue := (Contract.validate_eq_ok_iff.1 hvalid).catalogue
  have hdistinct := hcatalogue.distinct
  have hviolations := (hcatalogue.plugins c).valid p hp
  have htarget {u : Update} (hc : u.category = some c) (hname : u.name = some p.name) :=
    target_of_name hc hname (isBlankText_of_violations hviolations)
  constructor
  case get => exact runOn_get hload (hdistinct.find?_of_mem hp)
  case remove =>
    exact stores_editPlugins (performs_remove c p.name) hload (hdistinct.delete_of_mem hp)
  case move => exact fun m => stores_move hdistinct hp hload
  case move_refused => exact fun m => exists_error_of_move hdistinct hload
  case set =>
    intro htrimmed u hc hname
    obtain ⟨outcome, hset⟩ := setIn_of_mem u hdistinct hp hviolations
    have htarget' := htarget hc hname
    rw [htrimmed] at htarget'
    have hstores := stores_editPlugins (performs_set htarget') hload hset
    exact ⟨outcome, hstores⟩
  case set_other =>
    intro hname u hc hu r t' hset
    exact mem_after_set hdistinct hp hload (htarget hc hu) hname hset

/-- A contract with a plugin whose name is trimmed, and with another one. -/
def trimmedContract : Contract where
  plugins := some (({} : Catalogue).withPlugins .audit
    [{ name := "a", flows := { request := true } }, { name := "b", flows := { request := true } }])

/-- The plugin is required from now on, in its slot. -/
theorem addressed_of_mem_trimmed : ∃ (t' : FileTree) (k' : Contract) (r : Report),
    (Plugins.set ⟨⟨"c.toml"⟩, ⟨"x.toml"⟩⟩
      { category := some .audit, name := some "a", required := some true }).runOn
        (Store.treeOf trimmedContract) = (.ok r, t') ∧
    (Store.load ⟨"c.toml"⟩).runOn t' = (.ok k', t') ∧
    k'.catalogue.plugins .audit =
      [{ name := "a", flows := { request := true }, required := some true },
        { name := "b", flows := { request := true } }] := by
  have hload := Store.load_treeOf (d := trimmedContract) fun _ h => nomatch h
  have haddressed := addressed_of_mem ⟨⟨"c.toml"⟩, ⟨"x.toml"⟩⟩ _ _ hload rfl .audit
    { name := "a", flows := { request := true } } (by decide)
  obtain ⟨outcome, hstores⟩ := haddressed.set rfl
    { category := some .audit, name := some "a", required := some true } rfl rfl
  obtain ⟨t', k', hset, hload', hprune⟩ := hstores.exists_runOn (Store.writable_treeOf _)
  refine ⟨t', k', _, hset, hload', ?_⟩
  rw [(Contract.prune_eq_prune_iff.1 hprune).2.2]
  rfl

/-- A contract with a plugin whose name has blanks at its ends. -/
def blanksContract : Contract where
  plugins := some (({} : Catalogue).withPlugins .audit
    [{ name := " a ", flows := { request := true } }])

/-- A flow is asked for, of the plugin of that name. -/
def blanksUpdate : Update where
  category := some .audit
  name := some " a "
  flows := [.response]

/-- The contract is valid, but a plugin of the name is said not to exist, or is made once more. -/
theorem blanks_hide_plugin :
    blanksContract.validate = .ok () ∧
    (Store.load ⟨"c.toml"⟩).runOn (Store.treeOf blanksContract) =
      (.ok blanksContract, Store.treeOf blanksContract) ∧
    (∃ e, (Plugins.set ⟨⟨"c.toml"⟩, ⟨"x.toml"⟩⟩
        { category := some .audit, name := some " a ", required := some true }).runOn
          (Store.treeOf blanksContract) = (.error e, Store.treeOf blanksContract) ∧
      e.cause = .refused (.missingArgument
        "flow (plugin 'a' does not exist in category 'audit')")) ∧
    ∃ (r : Report) (t' : FileTree) (k' : Contract),
      (Plugins.set ⟨⟨"c.toml"⟩, ⟨"x.toml"⟩⟩ blanksUpdate).runOn (Store.treeOf blanksContract) =
        (.ok r, t') ∧
      r.outcome = .created ∧ (Store.load ⟨"c.toml"⟩).runOn t' = (.ok k', t') ∧
      (k'.catalogue.plugins .audit).map Plugin.name = [" a ", "a"] := by
  let locs : Locations := ⟨⟨"c.toml"⟩, ⟨"x.toml"⟩⟩
  have hload : (Store.load locs.contract).runOn (Store.treeOf blanksContract) =
      (.ok blanksContract, Store.treeOf blanksContract) := Store.load_treeOf fun _ h => nomatch h
  refine ⟨rfl, hload, ?_, ?_⟩
  · let u : Update := { category := some .audit, name := some " a ", required := some true }
    have htarget : u.target = .ok (some (.audit, "a")) := by rfl
    exact ⟨_, runOn_set_of_refused locs htarget hload rfl, rfl⟩
  · have htarget : blanksUpdate.target = .ok (some (.audit, "a")) := by rfl
    have hmap : ((setIn blanksUpdate (some (.audit, "a")) blanksContract.catalogue).map fun r =>
        (r.1.outcome, (r.2.plugins .audit).map Plugin.name)) = .ok (.created, [" a ", "a"]) := by
      rfl
    obtain ⟨⟨r, cat⟩, hset, hr⟩ := map_eq_ok.1 hmap
    obtain ⟨houtcome, hnames⟩ := Prod.mk.inj hr
    have hperforms : Performs locs.contract _ id (Plugins.set locs blanksUpdate) :=
      performs_set htarget
    have hstores := stores_editPlugins hperforms hload hset
    obtain ⟨t', k', hset', hload', hprune⟩ := hstores.exists_runOn (Store.writable_treeOf _)
    refine ⟨_, t', k', hset', houtcome, hload', ?_⟩
    rw [(Contract.prune_eq_prune_iff.1 hprune).2.2]
    exact hnames

end FleetConfig.Plugins
