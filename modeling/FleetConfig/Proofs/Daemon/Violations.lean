import FleetConfig.Proofs.Daemon.Validity
import FleetConfig.Proofs.Daemon.Registry
import FleetConfig.Proofs.Walks

/-!
# Violations under keys

The check of the daemon section looks at its settings through the structure of the section. It finds
what a walk through the keys finds: the listen address, the methods and the origins under their
keys, and then the durations of no length under all of them. So it finds no more in a section of
which some keys were cleared.

## Main definitions

* `Daemon.Key.faults`, `Daemon.Key.zeroFaults` — the violations of a setting under a key.

## Main results

* `Daemon.violations_eq_flatMap_read` — all violations, key by key.
* `Daemon.violations_sublist_of_read` — clearing keys adds no violation.
-/

namespace FleetConfig.Daemon

open Setting (Leaf)

namespace Key

/-- The violations of a setting under a key, apart from a duration of no length. -/
def faults : Key → Leaf → List Violation
  | apiAddr, .text addr => addressViolations addr
  | corsMethods, .list methods => methodViolations methods
  | corsAllowOrigins, .list origins => origins.flatMap originViolations
  | _, _ => []

/-- The violation of a duration of no length under a key. -/
def zeroFaults (k : Key) : Leaf → List Violation
  | .duration t => if t.isZero then [.zeroDuration k] else []
  | _ => []

/-- The keys whose settings are looked at one by one, in the order in which they are. -/
def checked : List Key := [apiAddr, corsMethods, corsAllowOrigins]

/-- An absent list has as many faults as an empty one. -/
private theorem toList_listSetting_flatMap {f : Leaf → List Violation} (h : f (.list []) = [])
    (xs : List String) : (listSetting xs).toList.flatMap f = f (.list xs) := by
  cases xs with
  | nil => exact h.symm
  | cons x xs => exact List.flatMap_singleton f _

end Key

variable {d d' : Daemon}

theorem apiViolations_eq_flatMap_read :
    d.api.toList.flatMap Api.violations =
      Key.checked.flatMap fun k => (k.read d).toList.flatMap k.faults := by
  rw [Key.checked, List.flatMap_cons, List.flatMap_cons, List.flatMap_singleton]
  simp only [Key.read_eq_readFull d, Key.readFull]
  rw [Key.toList_listSetting_flatMap rfl, Key.toList_listSetting_flatMap rfl]
  obtain ⟨api, mcp⟩ := d
  rcases api with _ | ⟨addr, timeout, cors⟩
  · rfl
  have haddr : (addr.map Leaf.text).toList.flatMap Key.apiAddr.faults =
      addr.toList.flatMap addressViolations := by
    cases addr <;> rfl
  have hcors : cors.toList.flatMap Cors.violations =
      methodViolations (cors.getD default).methods ++
        (cors.getD default).allowOrigins.flatMap originViolations := by
    cases cors with
    | none => rfl
    | some c => exact List.flatMap_singleton _ c
  rw [Option.toList_some, List.flatMap_singleton, Api.violations, hcors, ← haddr]
  rfl

theorem zeroDurations_eq_flatMap_read :
    d.zeroDurations.map Violation.zeroDuration =
      Key.all.flatMap fun k => (k.read d).toList.flatMap k.zeroFaults := by
  rw [zeroDurations, map_filter_eq_flatMap]
  refine List.flatMap_congr fun k _ => ?_
  rcases k.read d with _ | _ | _ | t | _
  case some.duration => exact (List.flatMap_singleton _ _).symm
  all_goals rfl

/-- The violations of the section are those of the settings under its keys. -/
theorem violations_eq_flatMap_read :
    d.violations = (Key.checked.flatMap fun k => (k.read d).toList.flatMap k.faults) ++
      Key.all.flatMap fun k => (k.read d).toList.flatMap k.zeroFaults := by
  rw [violations, apiViolations_eq_flatMap_read, zeroDurations_eq_flatMap_read]

/-- A section whose keys read the same or nothing has no other violations. -/
theorem violations_sublist_of_read (h : ∀ k : Key, k.read d' = k.read d ∨ k.read d' = none) :
    List.Sublist d'.violations d.violations := by
  have hread (k : Key) : List.Sublist (k.read d').toList (k.read d).toList := by
    obtain heq | hnone := h k
    · rw [heq]
    · rw [hnone]
      exact List.nil_sublist _
  rw [violations_eq_flatMap_read, violations_eq_flatMap_read]
  exact (List.Sublist.flatMap_right _ fun k _ => (hread k).flatMap _).append
    (List.Sublist.flatMap_right _ fun k _ => (hread k).flatMap _)

end FleetConfig.Daemon
