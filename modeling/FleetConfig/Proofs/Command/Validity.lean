import FleetConfig.Command.Plugins
import FleetConfig.Command.Servers
import FleetConfig.Command.Settings
import FleetConfig.Proofs.Contract.Validity

/-!
# What commands make of valid contracts

Only the command that sets settings checks the section that it has made. The others make a valid
contract of a valid one because of what they check on the way, or because they only take away. None
brings a duration into a contract that could not be read back.

## Main definitions

* `Contract.KeepsValid` — a change makes a valid contract of a valid one.

## Main results

* `Settings.keepsValid_set`, `Settings.keepsValid_remove`, `Plugins.keepsValid_add`,
  `Plugins.keepsValid_set`, `Plugins.keepsValid_move`, `Plugins.keepsValid_remove`,
  `Tools.keepsValid_edit`, `Servers.keepsValid_remove` — the changes that commands make.
-/

namespace FleetConfig

open Plugin (Category)

/-! ### Changes to contracts -/

namespace Contract

/-- A change that is not refused makes a valid contract of a valid one, with durations that can be
read back if they could be before. -/
def KeepsValid {α : Type} (f : Contract → Except ConfigError (α × Contract)) : Prop :=
  ∀ k a k', k.Valid → k.InRange → f k = .ok (a, k') → k'.Valid ∧ k'.InRange

theorem keepsValid_editPlugins {α : Type} {f : Catalogue → Except ConfigError (α × Catalogue)}
    (hf : ∀ cat a cat', cat.Valid → f cat = .ok (a, cat') → cat'.Valid) :
    KeepsValid (·.editPlugins f) := by
  intro k a k' hvalid hrange h
  obtain ⟨cat', hcat', rfl⟩ := editPlugins_eq_ok_iff.1 h
  refine ⟨⟨hvalid.servers, hvalid.daemon, fun cat hcat => ?_⟩, hrange⟩
  cases hcat
  exact hf _ _ _ hvalid.catalogue hcat'

theorem keepsValid_editDaemon {α : Type} {f : Daemon → Except ConfigError (α × Daemon)}
    (hf : ∀ d a d', d.AllSettings Daemon.Key.Accepts → d.AllSettings (fun _ l => l.InRange) →
      f d = .ok (a, d') →
      d'.AllSettings Daemon.Key.Accepts ∧ d'.AllSettings fun _ l => l.InRange) :
    KeepsValid (·.editDaemon f) := by
  intro k a k' hvalid hrange h
  obtain ⟨d', hd', rfl⟩ := editDaemon_eq_ok_iff.1 h
  rw [inRange_iff] at hrange
  obtain ⟨haccepts, hrange'⟩ :=
    hf _ _ _ (allSettings_settings hvalid.daemon) (allSettings_settings hrange) hd'
  refine ⟨⟨hvalid.servers, fun d hd => ?_, hvalid.plugins⟩, inRange_iff.2 fun d hd => ?_⟩
  · cases hd
    exact haccepts
  · cases hd
    exact hrange'

end Contract

open Contract (KeepsValid keepsValid_editPlugins keepsValid_editDaemon)

/-! ### Settings -/

namespace Settings

/-- What each change of one key keeps, a row of changes keeps. -/
theorem change_invariant {P : Daemon → Prop}
    {step : Daemon → String × String → Except ConfigError (Outcome × Daemon)}
    (hstep : ∀ d a o d', P d → step d a = .ok (o, d') → P d')
    {assignments : List (String × String)} {d d' : Daemon} {r : Report} (h : P d)
    (hchange : change step assignments d = .ok (r, d')) : P d' := by
  induction assignments generalizing d r with
  | nil =>
    cases hchange
    exact h
  | cons a assignments ih =>
    obtain ⟨⟨o, d₁⟩, hfirst, hchange⟩ := bind_eq_ok.1 hchange
    obtain ⟨⟨r₁, d₂⟩, hrest, hchange⟩ := bind_eq_ok.1 hchange
    cases hchange
    exact ih (hstep d a o d₁ h hfirst) hrest

/-- Settings that are made can be read back. -/
theorem inRange_of_setIn {assignments : List (String × String)} {d d' : Daemon} {r : Report}
    (hrange : d.AllSettings fun _ l => l.InRange) (h : setIn assignments d = .ok (r, d')) :
    d'.AllSettings fun _ l => l.InRange := by
  obtain ⟨⟨r, d₁⟩, hchange, h⟩ := bind_eq_ok.1 h
  obtain ⟨_, -, h⟩ := bind_eq_ok.1 h
  cases h
  exact change_invariant (fun _ _ _ _ h hset => h.set hset fun _ _ => Setting.Kind.inRange_of_parse)
    hrange hchange

/-- What is true of all settings is true of those that are left when some are cleared. -/
theorem allSettings_of_removeIn {P : Daemon.Key → Setting.Leaf → Prop} {keys : List String}
    {d d' : Daemon} {r : Report} (h : d.AllSettings P) (hremove : removeIn keys d = .ok (r, d')) :
    d'.AllSettings P :=
  change_invariant (fun _ _ _ _ h hremove => h.remove hremove) h hremove

/-- The section is checked after all settings were made. -/
theorem keepsValid_set (assignments : List (String × String)) :
    KeepsValid (·.editDaemon (setIn assignments)) := by
  refine keepsValid_editDaemon fun d a d' _ hrange h => ⟨?_, inRange_of_setIn hrange h⟩
  obtain ⟨⟨r, d₁⟩, hchange, h⟩ := bind_eq_ok.1 h
  obtain ⟨_, hvalid, h⟩ := bind_eq_ok.1 h
  cases h
  exact Daemon.violations_eq_nil_iff.1 (ConfigError.collect_map_eq_ok_iff.1 hvalid)

/-- What is cleared is no violation. -/
theorem keepsValid_remove (keys : List String) : KeepsValid (·.editDaemon (removeIn keys)) :=
  keepsValid_editDaemon fun _ _ _ haccepts hrange h =>
    ⟨allSettings_of_removeIn haccepts h, allSettings_of_removeIn hrange h⟩

end Settings

/-! ### Plugins -/

namespace Plugins

theorem keepsValid_add (a : Addition) : KeepsValid (·.editPlugins (addIn a)) := by
  refine keepsValid_editPlugins fun cat o cat' hcat h => ?_
  rw [addIn] at h
  split at h
  · cases h
  · exact hcat.upsert h

/-- Whichever of the directory and a plugin is changed. -/
theorem keepsValid_set (u : Update) (target : Option (Category × String)) :
    KeepsValid (·.editPlugins (setIn u target)) := by
  refine keepsValid_editPlugins fun cat r cat' hcat h => ?_
  have hdir : (setDirIn u cat).2.Valid := by
    rw [setDirIn]
    split
    · exact hcat.setDir u.dir
    · exact hcat
  cases target with
  | none =>
    cases h
    exact hdir
  | some place =>
    obtain ⟨p, -, h⟩ := bind_eq_ok.1 h
    obtain ⟨⟨o, cat₁⟩, hupsert, h⟩ := bind_eq_ok.1 h
    cases h
    exact hdir.upsert hupsert

theorem keepsValid_move (c : Category) (name : String) (request : Catalogue.Move) :
    KeepsValid (·.editPlugins (moveIn c name request)) := by
  refine keepsValid_editPlugins fun cat r cat' hcat h => ?_
  obtain ⟨⟨o, cat₁⟩, hmove, h⟩ := bind_eq_ok.1 h
  cases h
  exact hcat.move hmove

theorem keepsValid_remove (c : Category) (name : String) :
    KeepsValid (·.editPlugins (·.delete c name)) :=
  keepsValid_editPlugins fun _ _ _ hcat h => hcat.delete h

end Plugins

/-! ### Servers and their tools -/

theorem Tools.keepsValid_edit (server : String) (f : NameSet → NameSet) :
    KeepsValid (editIn server f) := by
  intro k r k' hvalid hrange h
  rw [editIn] at h
  split at h
  · cases h
  · obtain ⟨⟨o, k₁⟩, hupsert, h⟩ := bind_eq_ok.1 h
    cases h
    refine ⟨hvalid.upsertServer hupsert, ?_⟩
    rw [Contract.InRange, Contract.durations, Contract.daemon_of_upsertServer hupsert]
    exact hrange

theorem Servers.keepsValid_remove (server : String) :
    KeepsValid (·.deleteServer server) := by
  intro k o k' hvalid hrange h
  refine ⟨hvalid.deleteServer h, ?_⟩
  rw [Contract.InRange, Contract.durations, Contract.daemon_of_deleteServer h]
  exact hrange

end FleetConfig
