import FleetConfig.Proofs.Command.Validity
import FleetConfig.Proofs.Contract.Pruning
import FleetConfig.Proofs.Store.Succeeding

/-!
# Sections that commands leave alone

Only the commands for settings change the daemon section of a contract, and those bring no duration
into it that could not be read back. So what a command makes of a contract that was loaded can be
loaded again, whether it is valid or not, and each key then reads what the change has left under it.

## Main definitions

* `Contract.KeepsDaemon` — a change leaves the daemon section alone.
* `Contract.KeepsRange` — a change brings in no duration that could not be read back.

## Main results

* `Contract.exists_load_after` — what is read of a contract after a change.
-/

namespace FleetConfig

open Daemon (Key)
open Store (Modified)

namespace Contract

variable {α : Type}

/-- A change that is not refused leaves the daemon section alone. -/
def KeepsDaemon (f : Contract → Except ConfigError (α × Contract)) : Prop :=
  ∀ k a k', f k = .ok (a, k') → k'.daemon = k.daemon

/-- A change that is not refused makes a contract with durations that can be read back if they could
be before. -/
def KeepsRange (f : Contract → Except ConfigError (α × Contract)) : Prop :=
  ∀ k a k', k.InRange → f k = .ok (a, k') → k'.InRange

variable {f : Contract → Except ConfigError (α × Contract)}

theorem KeepsDaemon.keepsRange (h : KeepsDaemon f) : KeepsRange f := by
  intro k a k' hrange hf
  rw [InRange, durations, h k a k' hf]
  exact hrange

theorem keepsDaemon_editPlugins (g : Catalogue → Except ConfigError (α × Catalogue)) :
    KeepsDaemon (·.editPlugins g) := by
  intro k a k' h
  obtain ⟨cat', -, rfl⟩ := editPlugins_eq_ok_iff.1 h
  rfl

theorem keepsRange_editDaemon {g : Daemon → Except ConfigError (α × Daemon)}
    (hg : ∀ d a d', d.AllSettings (fun _ l => l.InRange) → g d = .ok (a, d') →
      d'.AllSettings fun _ l => l.InRange) : KeepsRange (·.editDaemon g) := by
  intro k a k' hrange h
  obtain ⟨d', hd', rfl⟩ := editDaemon_eq_ok_iff.1 h
  refine inRange_iff.2 fun d hd => ?_
  cases hd
  exact hg _ _ _ (allSettings_settings (inRange_iff.1 hrange)) hd'

end Contract

open Contract (KeepsDaemon KeepsRange keepsRange_editDaemon)

/-! ### Commands -/

theorem Settings.keepsRange_set (assignments : List (String × String)) :
    KeepsRange (·.editDaemon (setIn assignments)) :=
  keepsRange_editDaemon fun _ _ _ => inRange_of_setIn

theorem Settings.keepsRange_remove (keys : List String) :
    KeepsRange (·.editDaemon (removeIn keys)) :=
  keepsRange_editDaemon fun _ _ _ => allSettings_of_removeIn

theorem Tools.keepsDaemon_edit (server : String) (f : NameSet → NameSet) :
    KeepsDaemon (editIn server f) := by
  intro k r k' h
  rw [editIn] at h
  split at h
  · cases h
  · obtain ⟨⟨o, k₁⟩, hupsert, h⟩ := bind_eq_ok.1 h
    cases h
    exact Contract.daemon_of_upsertServer hupsert

theorem Servers.keepsDaemon_remove (server : String) : KeepsDaemon (·.deleteServer server) :=
  fun _ _ _ h => Contract.daemon_of_deleteServer h

/-! ### Reading after a change -/

namespace Contract

variable {p : Path} {t t' : FileTree} {k k' : Contract} {b : α}
  {f : Contract → Except ConfigError (α × Contract)}

/-- What is loaded has durations that can be read back. -/
theorem inRange_of_load (h : (Store.load p).runOn t = (.ok k, t')) : k.InRange := by
  obtain ⟨-, ⟨-, rfl⟩ | ⟨s, -, hparse⟩⟩ := Store.runOn_load_eq_ok.1 h
  · exact fun _ hd => nomatch hd
  · exact Document.Lawful.inRange_of_parse s k hparse

/-- After a change each key reads what the change has left under it. -/
theorem exists_load_after (h : Modified p f b k k' t t') (hf : KeepsRange f) :
    ∃ k'' : Contract, (Store.load p).runOn t' = (.ok k'', t') ∧
      ∀ key : Key, key.read k''.settings = key.read k'.settings := by
  have hrange := hf _ _ _ (inRange_of_load h.load) h.change
  obtain ⟨k'', hload, hprune⟩ := h.load_after hrange (prune_prune _)
  have hsettings := (prune_eq_prune_iff.1 hprune).2.1
  exact ⟨k'', hload, fun key => Daemon.prune_eq_prune_iff.1 hsettings key key.mem_all⟩

end Contract

end FleetConfig
