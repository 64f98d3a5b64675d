import FleetConfig.Command.Settings
import FleetConfig.Proofs.Daemon.Writing

/-!
# Assignments to keys

Settings are assigned one after another, and the last assignment to a key decides what the key
holds afterwards. No assignment has blank input, so a key that is assigned holds a setting, unless
it holds lists and the input names no item.

## Main definitions

* `Settings.inputFor?` — the input that an assignment has for a key.
* `Settings.lastInput?` — that of the last assignment that has one.
* `Settings.Assigned` — what some assignments have made of the setting under a key.

## Main results

* `Settings.assigned_of_setIn` — what assignments make of the daemon section.
-/

namespace FleetConfig

open Setting (Leaf NamesNoItem)

namespace Settings

open Daemon (Key)

/-! ### Input for a key -/

/-- The input that a name with its input has for a key. -/
def inputIn? (k : Key) (a : String × String) : Option String :=
  if Text.trim a.1 = k.path then some a.2 else none

/-- The input that an assignment has for a key, if it names the key. -/
def inputFor? (k : Key) (assignment : String) : Option String :=
  (Text.splitFirst '=' assignment).bind (inputIn? k)

/-- The input for a key of the last assignment that names it. -/
def lastInput? (k : Key) (assignments : List String) : Option String :=
  (assignments.filterMap (inputFor? k)).getLast?

variable {k : Key} {a : String × String} {raw : String}

/-- An assignment is cut at its first equals sign, and its input is not blank. -/
theorem exists_split_of_parse (h : parseAssignment raw = .ok a) :
    ∃ name, Text.splitFirst '=' raw = some (name, a.2) ∧ a.1 = Text.trim name ∧
      Text.isBlankText a.2 = false := by
  rw [parseAssignment] at h
  split at h
  · cases h
  rename_i name input hsplit
  dsimp only at h
  split at h
  · cases h
  split at h
  · cases h
  rename_i hblank
  cases h
  exact ⟨name, hsplit, rfl, Bool.eq_false_iff.2 hblank⟩

/-- The input of an assignment is not blank, and blanks around the name do not count. -/
theorem parseAssignment_eq_ok (h : parseAssignment raw = .ok a) :
    (∀ k, inputIn? k a = inputFor? k raw) ∧ Text.isBlankText a.2 = false := by
  obtain ⟨name, hsplit, hname, hblank⟩ := exists_split_of_parse h
  refine ⟨fun k => ?_, hblank⟩
  have htrim : Text.trim (Text.trim name) = Text.trim name := Text.trimmed_trim name
  rw [inputFor?, hsplit, Option.bind_some, inputIn?, inputIn?, hname, htrim]

variable {assignments : List String} {pairs : List (String × String)}

/-- The input for a key is the same before and after assignments are read. -/
theorem filterMap_inputIn? (h : List.Forall₂ (fun raw a => parseAssignment raw = .ok a)
    assignments pairs) (k : Key) :
    pairs.filterMap (inputIn? k) = assignments.filterMap (inputFor? k) := by
  induction h with
  | nil => rfl
  | cons ha _ ih =>
    rw [List.filterMap_cons, List.filterMap_cons, (parseAssignment_eq_ok ha).1, ih]

/-! ### A row of changes -/

variable {d d' : Daemon} {r : Report}

/-- Sets one key after the other. -/
abbrev setEach (pairs : List (String × String)) (d : Daemon) :
    Except ConfigError (Report × Daemon) :=
  change (fun d a => d.set a.1 a.2) pairs d

/-- The first of some changes puts its value under its key, and the others follow. -/
theorem setEach_cons_eq_ok (h : setEach (a :: pairs) d = .ok (r, d')) :
    ∃ k v r', Daemon.Asks a.1 a.2 k v ∧ setEach pairs (d.apply k v).2 = .ok (r', d') ∧
      r = ⟨(a.1, Outcome.ofChange (k.read d) v) :: r'.changes⟩ := by
  obtain ⟨⟨o, d₁⟩, hset, h⟩ := bind_eq_ok.1 h
  obtain ⟨⟨r', d₂⟩, hrest, h⟩ := bind_eq_ok.1 h
  cases h
  obtain ⟨k, v, hasks, rfl, rfl⟩ := Daemon.set_eq_ok_iff.1 hset
  exact ⟨k, v, r', hasks, hrest, rfl⟩

/-- To clear keys is to set them to blank input. -/
theorem removeIn_eq_setEach (keys : List String) (d : Daemon) :
    removeIn keys d = setEach (keys.map fun key => (Text.trim key, "")) d := by
  rw [removeIn]
  induction keys generalizing d with
  | nil => rw [List.map_nil, change, setEach, change]
  | cons key keys ih =>
    rw [List.map_cons, change, setEach, change]
    refine bind_congr fun result => ?_
    dsimp only
    rw [ih]

theorem inputIn?_of_asks {v : Option Leaf} (h : Daemon.Asks a.1 a.2 k v) (key : Key) :
    inputIn? key a = if key = k then some a.2 else none := by
  rw [inputIn?, ← h.path]
  exact if_congr (Key.path_injective.eq_iff.trans eq_comm) rfl rfl

/-- A key that no change names holds what it held. -/
theorem read_of_setEach (h : setEach pairs d = .ok (r, d'))
    (hnone : pairs.filterMap (inputIn? k) = []) : k.read d' = k.read d := by
  induction pairs generalizing d r with
  | nil =>
    cases h
    rfl
  | cons a pairs ih =>
    obtain ⟨k₁, v, r', hasks, hrest, -⟩ := setEach_cons_eq_ok h
    rw [List.filterMap_cons, inputIn?_of_asks hasks] at hnone
    split_ifs at hnone with hk
    rw [ih hrest hnone, Daemon.read_apply _ _ _ hasks.fits, if_neg hk]

/-- A key that is named holds what the last input for it denotes. -/
theorem parse_of_setEach {input : String} (h : setEach pairs d = .ok (r, d'))
    (hlast : (pairs.filterMap (inputIn? k)).getLast? = some input) :
    k.kind.parse k.path input = .ok (k.read d') := by
  induction pairs generalizing d r with
  | nil => cases hlast
  | cons a pairs ih =>
    obtain ⟨k₁, v, r', hasks, hrest, -⟩ := setEach_cons_eq_ok h
    rw [List.filterMap_cons, inputIn?_of_asks hasks] at hlast
    split_ifs at hlast with hk
    · subst hk
      cases hinputs : pairs.filterMap (inputIn? k) with
      | nil =>
        -- The first change is the last one for its key.
        rw [hinputs] at hlast
        cases hlast
        rw [read_of_setEach hrest hinputs, Daemon.read_apply _ _ _ hasks.fits, if_pos rfl]
        exact hasks.value
      | cons input' inputs =>
        rw [hinputs, List.getLast?_cons_cons] at hlast
        exact ih hrest (hinputs ▸ hlast)
    · exact ih hrest hlast

/-- Each change asks for a value, or nothing, under a key. -/
theorem exists_asks_of_setEach (h : setEach pairs d = .ok (r, d')) :
    ∀ a ∈ pairs, ∃ k v, Daemon.Asks a.1 a.2 k v := by
  induction pairs generalizing d r with
  | nil => exact nofun
  | cons a pairs ih =>
    obtain ⟨k, v, r', hasks, hrest, -⟩ := setEach_cons_eq_ok h
    exact List.forall_mem_cons.2 ⟨⟨k, v, hasks⟩, ih hrest⟩

/-! ### Assignments -/

/-- What some assignments have made of the setting under a key. -/
structure Assigned (assignments : List String) (k : Key) (before after : Option Leaf) : Prop where
  /-- A key that is not named holds what it held. -/
  unnamed : lastInput? k assignments = none → after = before
  /-- A key that is named holds what the last input for it denotes. -/
  named : ∀ input, lastInput? k assignments = some input → k.kind.parse k.path input = .ok after
  /-- That is a setting, unless the key holds lists and the input names no item. -/
  cleared_iff : ∀ input, lastInput? k assignments = some input →
    (after = none ↔ k.kind = .list ∧ NamesNoItem input)

variable {input : String}

/-- Input that is assigned is not blank. -/
theorem isBlankText_lastInput? (hparsed : assignments.mapM parseAssignment = .ok pairs)
    (hlast : lastInput? k assignments = some input) : Text.isBlankText input = false := by
  have hall : ∀ raw ∈ assignments, ∃ a, parseAssignment raw = .ok a :=
    ((List.forall₂_and_left _ _).1
      ((forall₂_of_mapM hparsed).imp fun raw a ha => ⟨⟨a, ha⟩, ha⟩)).1
  obtain ⟨raw, hraw, hinput⟩ := List.mem_filterMap.1 (List.mem_of_getLast? hlast)
  obtain ⟨a, ha⟩ := hall raw hraw
  obtain ⟨hinputs, hblank⟩ := parseAssignment_eq_ok ha
  rw [← hinputs, inputIn?] at hinput
  split_ifs at hinput
  cases hinput
  exact hblank

/-- An assignment names a key if its change does. -/
theorem exists_inputFor? (h : List.Forall₂ (fun raw a => parseAssignment raw = .ok a)
    assignments pairs) (hall : ∀ a ∈ pairs, ∃ k v, Daemon.Asks a.1 a.2 k v) :
    ∀ raw ∈ assignments, ∃ k input, inputFor? k raw = some input := by
  induction h with
  | nil => exact nofun
  | cons ha _ ih =>
    obtain ⟨⟨k, v, hasks⟩, hall⟩ := List.forall_mem_cons.1 hall
    have hinput := inputIn?_of_asks hasks k
    rw [if_pos rfl, (parseAssignment_eq_ok ha).1] at hinput
    exact List.forall_mem_cons.2 ⟨⟨k, _, hinput⟩, ih hall⟩

/-- All assignments name keys, and what they make of each key is decided by the last one for it. -/
theorem assigned_of_setIn (hparsed : assignments.mapM parseAssignment = .ok pairs)
    (h : setIn pairs d = .ok (r, d')) :
    (∀ raw ∈ assignments, ∃ k input, inputFor? k raw = some input) ∧
      ∀ k : Key, Assigned assignments k (k.read d) (k.read d') := by
  obtain ⟨⟨r', d₁⟩, hset, h⟩ := bind_eq_ok.1 h
  obtain ⟨_, -, h⟩ := bind_eq_ok.1 h
  cases h
  have hforall := forall₂_of_mapM hparsed
  refine ⟨exists_inputFor? hforall (exists_asks_of_setEach hset), fun k => ?_⟩
  have hnamed (input : String) (hlast : lastInput? k assignments = some input) :
      k.kind.parse k.path input = .ok (k.read d') := by
    rw [lastInput?, ← filterMap_inputIn? hforall] at hlast
    exact parse_of_setEach hset hlast
  refine ⟨fun hnone => ?_, hnamed, fun input hlast => ?_⟩
  · rw [lastInput?, List.getLast?_eq_none_iff, ← filterMap_inputIn? hforall] at hnone
    exact read_of_setEach hset hnone
  · have hblank := isBlankText_lastInput? hparsed hlast
    have hiff : k.kind.parse k.path input = .ok none ↔ _ := Setting.Kind.parse_eq_none_iff
    rw [hnamed input hlast, hblank, Except.ok.injEq] at hiff
    simpa only [Bool.false_eq_true, false_or] using hiff

end Settings

end FleetConfig
