import FleetConfig.Proofs.Command.Assignments
import FleetConfig.Proofs.Contract.Outcomes

/-!
# Assignments that agree

Each of several changes of settings reports its own outcome, and nothing is reported to have changed
if none of them has changed anything. A change can be undone by a later one for the same key, so the
section may be the same although changes are reported. That takes two changes that ask for different
values of one key.

## Main definitions

* `Settings.Agree` — all input for a key denotes the same value.
* `Settings.Agreeing` — assignments agree on each key.

## Main results

* `Settings.outcome_setEach` — what the outcome of a row of changes tells.
* `Settings.outcome_setIn`, `Settings.outcome_removeIn` — the outcomes that commands report.
-/

namespace FleetConfig.Settings

open Daemon (Asks Key)

variable {k : Key} {pairs : List (String × String)} {assignments : List String} {d d' : Daemon}
  {r : Report}

theorem Report.outcome_eq_noop_iff : r.outcome = .noop ↔ ∀ c ∈ r.changes, c.2 = .noop :=
  Outcome.combineAll_eq_noop_iff.trans List.forall_mem_map

/-- All input for a key denotes the same value. -/
def Agree (k : Key) (inputs : List String) : Prop :=
  ∀ i ∈ inputs, ∀ i' ∈ inputs, k.kind.parse k.path i = k.kind.parse k.path i'

/-- No two assignments ask for different values of a key. -/
def Agreeing (assignments : List String) : Prop :=
  ∀ k ∈ Key.all, Agree k (assignments.filterMap (inputFor? k))

theorem agree_of_forall {v : Option Setting.Leaf} {inputs : List String}
    (h : ∀ i ∈ inputs, k.kind.parse k.path i = .ok v) : Agree k inputs :=
  fun i hi i' hi' => (h i hi).trans (h i' hi').symm

/-! ### A row of changes -/

/-- Nothing is reported to have changed if each change asks for what is there, and the section is
the same then. -/
theorem outcome_of_setEach (h : setEach pairs d = .ok (r, d')) :
    (r.outcome = .noop ↔ ∀ a ∈ pairs, ∀ k v, Asks a.1 a.2 k v → v = k.read d) ∧
      (r.outcome = .noop → d' = d) := by
  rw [Report.outcome_eq_noop_iff]
  induction pairs generalizing d r with
  | nil =>
    cases h
    exact ⟨iff_of_true nofun nofun, fun _ => rfl⟩
  | cons a pairs ih =>
    obtain ⟨k, v, r', hasks, hrest, rfl⟩ := setEach_cons_eq_ok h
    have hfirst : (∀ k v, Asks a.1 a.2 k v → v = k.read d) ↔
        Outcome.ofChange (k.read d) v = .noop := by
      rw [Outcome.ofChange_eq_noop_iff]
      refine ⟨fun h => (h k v hasks).symm, fun h k' v' hasks' => ?_⟩
      obtain rfl : k = k' := (hasks.key_eq_iff hasks').2 rfl
      have hvalue := hasks.value.symm.trans hasks'.value
      rw [h, Except.ok.inj hvalue]
    rw [List.forall_mem_cons, List.forall_mem_cons, hfirst]
    by_cases hnoop : Outcome.ofChange (k.read d) v = .noop
    · -- The first change leaves the section as it is.
      rw [Daemon.apply, hnoop] at hrest
      obtain ⟨hiff, hsame⟩ := ih hrest
      exact ⟨and_congr_right fun _ => hiff, fun h => hsame h.2⟩
    · exact ⟨iff_of_false (fun h => hnoop h.1) (fun h => hnoop h.1), fun h => absurd h.1 hnoop⟩

/-- If all input for a key denotes the same value, each change asks for what the key holds after all
changes. -/
theorem read_eq_of_agree {a : String × String} {v : Option Setting.Leaf}
    (h : setEach pairs d = .ok (r, d')) (ha : a ∈ pairs) (hasks : Asks a.1 a.2 k v)
    (hagree : Agree k (pairs.filterMap (inputIn? k))) : v = k.read d' := by
  have hinput : a.2 ∈ pairs.filterMap (inputIn? k) :=
    List.mem_filterMap.2 ⟨a, ha, by rw [inputIn?_of_asks hasks, if_pos rfl]⟩
  -- The last change for the key decides what it holds.
  have hlast := List.getLast?_eq_some_getLast (List.ne_nil_of_mem hinput)
  have hsame := hagree _ hinput _ (List.mem_of_getLast? hlast)
  rw [hasks.value, parse_of_setEach h hlast] at hsame
  exact Except.ok.inj hsame

/-- Nothing is reported to have changed if the section is the same and no two changes ask for
different values of a key. -/
theorem outcome_setEach (h : setEach pairs d = .ok (r, d')) :
    r.outcome = .noop ↔
      d'.prune = d.prune ∧ ∀ k ∈ Key.all, Agree k (pairs.filterMap (inputIn? k)) := by
  obtain ⟨hiff, hsame⟩ := outcome_of_setEach h
  constructor
  · intro hnoop
    refine ⟨by rw [hsame hnoop], fun k _ => agree_of_forall (v := k.read d) fun i hi => ?_⟩
    obtain ⟨a, ha, hinput⟩ := List.mem_filterMap.1 hi
    obtain ⟨k', v, hasks⟩ := exists_asks_of_setEach h a ha
    rw [inputIn?_of_asks hasks] at hinput
    split_ifs at hinput with hk
    cases hinput
    rw [hk, ← hiff.1 hnoop a ha k' v hasks]
    exact hasks.value
  · rintro ⟨hprune, hagree⟩
    refine hiff.2 fun a ha k v hasks => ?_
    rw [read_eq_of_agree h ha hasks (hagree k k.mem_all)]
    exact Daemon.prune_eq_prune_iff.1 hprune k k.mem_all

/-! ### Commands -/

theorem outcome_setIn (hparsed : assignments.mapM parseAssignment = .ok pairs)
    (h : setIn pairs d = .ok (r, d')) :
    r.outcome = .noop ↔ d'.prune = d.prune ∧ Agreeing assignments := by
  obtain ⟨⟨r', d₁⟩, hset, h⟩ := bind_eq_ok.1 h
  obtain ⟨_, -, h⟩ := bind_eq_ok.1 h
  cases h
  simp only [outcome_setEach hset, Agreeing, filterMap_inputIn? (forall₂_of_mapM hparsed)]

/-- All input that clears keys is the same. -/
theorem agree_of_clearing (k : Key) (names : List String) :
    Agree k ((names.map fun name => (Text.trim name, "")).filterMap (inputIn? k)) := by
  refine agree_of_forall (v := none) fun i hi => ?_
  obtain ⟨a, ha, hinput⟩ := List.mem_filterMap.1 hi
  obtain ⟨name, -, rfl⟩ := List.mem_map.1 ha
  rw [inputIn?] at hinput
  split_ifs at hinput
  cases hinput
  rfl

theorem outcome_removeIn {names : List String} (h : removeIn names d = .ok (r, d')) :
    r.outcome = .noop ↔ d'.prune = d.prune := by
  rw [removeIn_eq_setEach] at h
  rw [outcome_setEach h]
  exact and_iff_left fun k _ => agree_of_clearing k names

end FleetConfig.Settings
