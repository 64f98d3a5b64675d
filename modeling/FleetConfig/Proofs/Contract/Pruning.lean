import FleetConfig.Contract
import FleetConfig.Proofs.Daemon.Registry

/-!
# Pruned contracts

Pruning a contract drops sections that say nothing. An absent section is read as an empty one, so
what pruning leaves is determined by the servers, the pruned settings and the plugins.

## Main results

* `Contract.settings_prune`, `Contract.catalogue_prune` — what is read of a pruned contract.
* `Contract.prune_eq_prune_iff` — when contracts are the same when pruned.
* `Contract.prune_plugins_eq_iff`, `Contract.prune_daemon_eq_iff` — when another section makes the
  same contract.
* `Contract.prune_prune` — a pruned contract is pruned already.
-/

namespace FleetConfig

open Daemon (dropEmpty dropEmpty_eq_dropEmpty_iff getD_dropEmpty)
open Plugin (Category)

theorem Catalogue.isEmpty_iff {cat : Catalogue} : cat.isEmpty = true ↔ cat = default := by
  rw [isEmpty, Bool.and_eq_true, Option.isNone_iff_eq_none, List.all_eq_true]
  constructor
  · rintro ⟨hdir, hplugins⟩
    exact ext_all hdir fun c hc => List.isEmpty_iff.1 (hplugins c hc)
  · rintro rfl
    exact ⟨rfl, fun _ _ => rfl⟩

namespace Contract

/-- To drop a section that says nothing is to drop the empty section. -/
theorem filter_isEmpty {α : Type} [DecidableEq α] [Inhabited α] {isEmpty : α → Bool}
    (h : ∀ a, isEmpty a = true ↔ a = default) (a? : Option α) :
    a?.filter (!isEmpty ·) = dropEmpty a? := by
  rw [dropEmpty]
  cases a? with
  | none => rfl
  | some a =>
    simp only [Option.filter_some, Option.some.injEq, ← h]
    cases isEmpty a <;> rfl

variable (k : Contract)

theorem daemon_prune : k.prune.daemon = dropEmpty (k.daemon.map Daemon.prune) :=
  filter_isEmpty (fun _ => Daemon.isEmpty_iff) _

theorem plugins_prune : k.prune.plugins = dropEmpty k.plugins :=
  filter_isEmpty (fun _ => Catalogue.isEmpty_iff) _

theorem getD_map_prune : (k.daemon.map Daemon.prune).getD default = k.settings.prune := by
  rw [settings]
  cases k.daemon <;> rfl

theorem settings_prune : k.prune.settings = k.settings.prune := by
  rw [settings, daemon_prune, getD_dropEmpty, getD_map_prune]

theorem catalogue_prune : k.prune.catalogue = k.catalogue := by
  rw [catalogue, plugins_prune, getD_dropEmpty, catalogue]

/-- Contracts are the same when pruned if their servers, their pruned settings and their plugins
are. -/
theorem prune_eq_prune_iff {k k' : Contract} : k.prune = k'.prune ↔
    k.servers = k'.servers ∧ k.settings.prune = k'.settings.prune ∧
      k.catalogue = k'.catalogue := by
  have hsettings : k.settings.prune = k'.settings.prune ↔ k.prune.daemon = k'.prune.daemon := by
    rw [daemon_prune, daemon_prune, dropEmpty_eq_dropEmpty_iff, getD_map_prune, getD_map_prune]
  have hcatalogue : k.catalogue = k'.catalogue ↔ k.prune.plugins = k'.prune.plugins := by
    rw [plugins_prune, plugins_prune, dropEmpty_eq_dropEmpty_iff, catalogue, catalogue]
  rw [hsettings, hcatalogue, ← mk.injEq]
  exact Iff.rfl

/-- Another catalogue makes another contract. -/
theorem prune_plugins_eq_iff {cat : Catalogue} :
    ({ k with plugins := some cat } : Contract).prune = k.prune ↔ cat = k.catalogue :=
  prune_eq_prune_iff.trans ⟨fun h => h.2.2, fun h => ⟨rfl, rfl, h⟩⟩

/-- Other settings make another contract if they are others when pruned. -/
theorem prune_daemon_eq_iff {d : Daemon} :
    ({ k with daemon := some d } : Contract).prune = k.prune ↔ d.prune = k.settings.prune :=
  prune_eq_prune_iff.trans ⟨fun h => h.2.1, fun h => ⟨rfl, h, rfl⟩⟩

theorem prune_prune : k.prune.prune = k.prune :=
  prune_eq_prune_iff.2 ⟨rfl, by rw [settings_prune, Daemon.prune_prune], catalogue_prune k⟩

end Contract

end FleetConfig
