import FleetConfig.Contract
import FleetConfig.Proofs.Daemon.Validity
import FleetConfig.Proofs.Plugin.Validity

/-!
# Valid contracts

A contract is valid if its servers are valid and of different names, and its sections are valid. The
changes to servers keep a contract valid, and so does pruning.

## Main definitions

* `Contract.Valid` — the roster of the servers, and the sections.

## Main results

* `Contract.validate_eq_ok_iff` — validity as the check has it.
* `Contract.Valid.upsertServer`, `Contract.Valid.deleteServer`, `Contract.Valid.prune`.
-/

namespace FleetConfig

theorem Server.validate_eq_ok_iff {s : Server} : s.validate = .ok () ↔ s.violations = [] :=
  ConfigError.collect_map_eq_ok_iff

namespace Contract

/-- Servers are valid and of different names. -/
abbrev ValidServers (ss : List Server) : Prop := Roster Server.name (·.violations = []) ss

/-- The servers are valid and of different names, and the sections are valid. -/
structure Valid (k : Contract) : Prop where
  servers : ValidServers k.servers
  daemon : ∀ d ∈ k.daemon, d.AllSettings Daemon.Key.Accepts
  plugins : ∀ cat ∈ k.plugins, cat.Valid

variable {k k' : Contract} {o : Outcome}

/-! ### The check -/

theorem serverViolations_eq_nil_iff {seen : List String} {ss : List Server} :
    serverViolations seen ss = [] ↔ ValidServers ss ∧ ∀ s ∈ ss, s.name ∉ seen := by
  induction ss generalizing seen with
  | nil => exact ⟨fun _ => ⟨roster_nil, nofun⟩, fun _ => rfl⟩
  | cons s ss ih =>
    rw [serverViolations, List.append_eq_nil_iff, List.append_eq_nil_iff, List.map_eq_nil_iff, ih,
      and_comm (a := _ = [])]
    refine Iff.trans ?_ roster_cons_and_unseen_iff.symm
    simp only [List.contains_iff_mem, ite_eq_right_iff, List.cons_ne_nil, imp_false]

/-- The check succeeds on valid contracts alone. -/
theorem validate_eq_ok_iff : k.validate = .ok () ↔ k.Valid := by
  have hservers : serverViolations [] k.servers = [] ↔ ValidServers k.servers :=
    serverViolations_eq_nil_iff.trans (and_iff_left fun _ _ => List.not_mem_nil)
  have hdaemon : k.daemon.toList.flatMap (fun d => d.violations.map Violation.inDaemon) = [] ↔
      ∀ d ∈ k.daemon, d.AllSettings Daemon.Key.Accepts := by
    simp only [← Daemon.violations_eq_nil_iff]
    cases k.daemon <;> simp
  have hplugins :
      k.plugins.toList.flatMap (fun cat => cat.violations.map Violation.inPlugins) = [] ↔
        ∀ cat ∈ k.plugins, cat.Valid := by
    simp only [← Catalogue.violations_eq_nil_iff]
    cases k.plugins <;> simp
  rw [validate, ConfigError.collect_map_eq_ok_iff, violations, List.append_eq_nil_iff,
    List.append_eq_nil_iff, hservers, hdaemon, hplugins]
  exact ⟨fun h => ⟨h.1.1, h.1.2, h.2⟩, fun h => ⟨⟨h.servers, h.daemon⟩, h.plugins⟩⟩

theorem inRange_iff :
    k.InRange ↔ ∀ d ∈ k.daemon, d.AllSettings fun _ l => l.InRange := by
  simp only [InRange, durations, forall_mem_toList_flatMap, Daemon.inRange_iff]

namespace Valid

/-! ### Sections -/

theorem empty : Valid {} := by
  refine ⟨roster_nil, ?_, ?_⟩
  · intro d hd
    cases hd
  · intro cat hcat
    cases hcat

theorem catalogue (h : k.Valid) : k.catalogue.Valid := by
  rw [Contract.catalogue]
  cases hplugins : k.plugins with
  | none => exact .empty
  | some cat => exact h.plugins cat hplugins

/-- Pruning drops settings of no section and no plugin. -/
theorem prune (h : k.Valid) : k.prune.Valid := by
  refine ⟨h.servers, fun d hd => ?_, fun cat hcat => ?_⟩
  · obtain ⟨hd, -⟩ := Option.filter_eq_some_iff.1 hd
    obtain ⟨d', hd', rfl⟩ := Option.map_eq_some_iff.1 hd
    exact (h.daemon d' hd').prune
  · exact h.plugins cat (Option.filter_eq_some_iff.1 hcat).1

/-! ### Servers -/

theorem upsertServer {s : Server} (h : k.Valid) (hupsert : k.upsertServer s = .ok (o, k')) :
    k'.Valid := by
  rw [Contract.upsertServer_eq] at hupsert
  obtain ⟨_, hs, hupsert⟩ := bind_eq_ok.1 hupsert
  have hs := Server.validate_eq_ok_iff.1 hs
  split at hupsert
  · rename_i hnone
    cases hupsert
    exact ⟨h.servers.concat hs (name_ne_of_findIdx? hnone), h.daemon, h.plugins⟩
  · rename_i i hi
    split at hupsert
    · cases hupsert
      exact h
    · cases hupsert
      exact ⟨h.servers.set hi hs, h.daemon, h.plugins⟩

theorem deleteServer {name : String} (h : k.Valid)
    (hdelete : k.deleteServer name = .ok (o, k')) : k'.Valid := by
  rw [Contract.deleteServer_eq] at hdelete
  split at hdelete
  · cases hdelete
  · cases hdelete
    exact ⟨h.servers.eraseIdx _, h.daemon, h.plugins⟩

end Valid

/-! ### Settings -/

theorem daemon_of_upsertServer {s : Server} (h : k.upsertServer s = .ok (o, k')) :
    k'.daemon = k.daemon := by
  rw [upsertServer_eq] at h
  obtain ⟨_, -, h⟩ := bind_eq_ok.1 h
  split at h
  · cases h
    rfl
  · split at h <;> cases h <;> rfl

theorem daemon_of_deleteServer {name : String} (h : k.deleteServer name = .ok (o, k')) :
    k'.daemon = k.daemon := by
  rw [deleteServer_eq] at h
  split at h <;> cases h
  rfl

/-- What is true of all settings of a contract is true of those of an absent section. -/
theorem allSettings_settings {P : Daemon.Key → Setting.Leaf → Prop}
    (h : ∀ d ∈ k.daemon, d.AllSettings P) : k.settings.AllSettings P := by
  rw [settings]
  cases hdaemon : k.daemon with
  | none => exact Daemon.allSettings_default
  | some d => exact h d hdaemon

end Contract

end FleetConfig
