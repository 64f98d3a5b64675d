import FleetConfig.Command.Servers
import FleetConfig.Proofs.Contract.Pruning
import FleetConfig.Proofs.Plugin.Outcomes

/-!
# Outcomes of changes to contracts

A change to the servers reports that nothing has changed exactly if the contract is the same when
pruned. A change to a section makes the same contract exactly if it makes the same section.

## Main results

* `Contract.outcome_upsertServer`, `Contract.outcome_deleteServer` — changes to servers.
* `Contract.of_editPlugins`, `Contract.of_editDaemon` — what a change to a section is.
* `Tools.outcome_editIn` — changes to the tools of a server.
-/

namespace FleetConfig

namespace Contract

variable {α : Type} {k k' : Contract} {o : Outcome} {a : α}

/-! ### Servers -/

/-- Contracts with other servers are different when pruned. -/
theorem prune_ne_of_servers (h : k'.servers ≠ k.servers) : k'.prune ≠ k.prune :=
  fun heq => h (prune_eq_prune_iff.1 heq).1

theorem outcome_upsertServer {s : Server} (h : k.upsertServer s = .ok (o, k')) :
    o = .noop ↔ k'.prune = k.prune := by
  rw [upsertServer_eq] at h
  obtain ⟨_, -, h⟩ := bind_eq_ok.1 h
  split at h
  · cases h
    refine iff_of_false nofun (prune_ne_of_servers ?_)
    exact mt List.append_right_eq_self.1 (List.cons_ne_nil _ _)
  · rename_i i hi
    split at h
    · cases h
      exact iff_of_true rfl rfl
    · rename_i hne
      cases h
      exact iff_of_false nofun (prune_ne_of_servers (set_ne_of_findIdx? hi hne))

theorem outcome_deleteServer {name : String} (h : k.deleteServer name = .ok (o, k')) :
    o = .noop ↔ k'.prune = k.prune := by
  rw [deleteServer_eq] at h
  split at h
  · cases h
  · rename_i i hi
    cases h
    exact iff_of_false nofun (prune_ne_of_servers (eraseIdx_ne_of_findIdx? hi))

/-! ### Sections -/

/-- A change to the plugins makes the same contract if it makes the same catalogue. -/
theorem of_editPlugins {f : Catalogue → Except ConfigError (α × Catalogue)}
    (h : k.editPlugins f = .ok (a, k')) :
    ∃ cat', f k.catalogue = .ok (a, cat') ∧ (k'.prune = k.prune ↔ cat' = k.catalogue) := by
  obtain ⟨cat', hcat', rfl⟩ := editPlugins_eq_ok_iff.1 h
  exact ⟨cat', hcat', prune_plugins_eq_iff k⟩

/-- A change to the settings makes the same contract if it makes the same section. -/
theorem of_editDaemon {f : Daemon → Except ConfigError (α × Daemon)}
    (h : k.editDaemon f = .ok (a, k')) :
    ∃ d', f k.settings = .ok (a, d') ∧ (k'.prune = k.prune ↔ d'.prune = k.settings.prune) := by
  obtain ⟨d', hd', rfl⟩ := editDaemon_eq_ok_iff.1 h
  exact ⟨d', hd', prune_daemon_eq_iff k⟩

end Contract

/-! ### Tools -/

theorem Tools.outcome_editIn {server : String} {f : NameSet → NameSet} {k k' : Contract}
    {r : Report} (h : editIn server f k = .ok (r, k')) :
    r.outcome = .noop ↔ k'.prune = k.prune := by
  rw [editIn] at h
  split at h
  · cases h
  · obtain ⟨⟨o, k₁⟩, hupsert, h⟩ := bind_eq_ok.1 h
    cases h
    exact Contract.outcome_upsertServer hupsert

end FleetConfig
