import FleetConfig.Proofs.Cli.Validity
import FleetConfig.Proofs.Command.Assignments
import FleetConfig.Proofs.Command.Sections

/-!
# Settings under requests

What is read from a contract after settings were assigned is decided by the last assignment to each
key. A key that was configured is cleared by a request to clear it, and else by one assignment only:
that of input that names no item to a key that holds lists.

## Main definitions

* `Cli.Request.Clears` — a request may clear a key.

## Main results

* `Settings.assigned_of_set` — what a command to set settings makes of each key.
* `Cli.clears_of_perform` — requests that change the contract clear only what they may clear.
* `Cli.settings_hold_last_assignment` — both of these together.
-/

namespace FleetConfig

open Contract (KeepsDaemon exists_load_after keepsDaemon_editPlugins)
open Daemon (Key)
open Setting (NamesNoItem)
open Settings (Assigned inputFor? lastInput?)
open Store (Edits)

variable {locs : Locations} {t t' : FileTree} {k : Contract} {o : Cli.Output}
  {assignments : List String}

/-! ### Settings that are cleared -/

/-- A key that is cleared although no request to clear it was made. -/
theorem Settings.Assigned.clears {key : Key} {before after : Option Setting.Leaf}
    (h : Assigned assignments key before after) (hbefore : before ≠ none) (hafter : after = none) :
    key.kind = .list ∧ ∃ input ∈ lastInput? key assignments, NamesNoItem input := by
  cases hlast : lastInput? key assignments with
  | none => exact absurd ((h.unnamed hlast).symm.trans hafter) hbefore
  | some input =>
    obtain ⟨hkind, hinput⟩ := (h.cleared_iff input hlast).1 hafter
    exact ⟨hkind, input, rfl, hinput⟩

/-- A key that is not named is not cleared. -/
theorem Settings.exists_name_of_removeIn {names : List String} {d d' : Daemon} {r : Report}
    {key : Key} (h : removeIn names d = .ok (r, d')) (hne : key.read d' ≠ key.read d) :
    ∃ name ∈ names, Text.trim name = key.path := by
  by_contra hnone
  push Not at hnone
  rw [removeIn_eq_setEach] at h
  refine hne (read_of_setEach h (List.filterMap_eq_nil_iff.2 (List.forall_mem_map.2 ?_)))
  intro name hname
  have htrim : Text.trim (Text.trim name) = Text.trim name := Text.trimmed_trim name
  rw [inputIn?, htrim, if_neg (hnone name hname)]

/-- What is read after assignments were made is what they have made of each key. -/
theorem Settings.assigned_of_set (locs : Locations) {r : Report}
    (hload : (Store.load locs.contract).runOn t = (.ok k, t))
    (h : (set locs assignments).runOn t = (.ok r, t')) :
    (∀ raw ∈ assignments, ∃ key ∈ Key.all, ∃ input, inputFor? key raw = some input) ∧
      ∃ k' : Contract, (Store.load locs.contract).runOn t' = (.ok k', t') ∧
        ∀ key ∈ Key.all, Assigned assignments key (key.read k.settings) (key.read k'.settings) := by
  obtain ⟨f, ⟨pairs, hparsed, rfl⟩, r', k₀, k', -, hmodified⟩ :=
    (edits_set assignments).exists_modified h
  obtain rfl := hmodified.eq_of_load hload
  obtain ⟨k'', hload', hread⟩ := exists_load_after hmodified (keepsRange_set pairs)
  obtain ⟨d', hset, rfl⟩ := Contract.editDaemon_eq_ok_iff.1 hmodified.change
  obtain ⟨hnames, hassigned⟩ := assigned_of_setIn hparsed hset
  refine ⟨fun raw hraw => ?_, k'', hload', fun key _ => ?_⟩
  · obtain ⟨key, hinput⟩ := hnames raw hraw
    exact ⟨key, key.mem_all, hinput⟩
  · rw [hread]
    exact hassigned key

namespace Cli

/-- A request may clear a key: one to clear it, or one whose last assignment to the key, which then
holds lists, has input that names no item. -/
def Request.Clears (key : Key) : Request → Prop
  | .removeSettings names => ∃ name ∈ names, Text.trim name = key.path
  | .setSettings assignments =>
    key.kind = .list ∧ ∃ input ∈ lastInput? key assignments, NamesNoItem input
  | _ => False

/-- An edit that leaves the daemon section alone clears no key. -/
theorem clears_of_keepsDaemon {α β : Type} {request : Request}
    {Among : (Contract → Except ConfigError (β × Contract)) → Prop} {report : β → α}
    {x : Action (StateM FileTree) α} {a : α} (hx : Edits locs.contract Among report x)
    (hkeeps : ∀ f, Among f → KeepsDaemon f)
    (hload : (Store.load locs.contract).runOn t = (.ok k, t)) (h : x.runOn t = (.ok a, t')) :
    ∃ k' : Contract, (Store.load locs.contract).runOn t' = (.ok k', t') ∧
      ∀ key ∈ Key.all, key.read k.settings ≠ none → key.read k'.settings = none →
        request.Clears key := by
  obtain ⟨f, hf, b, k₀, k', -, hmodified⟩ := hx.exists_modified h
  obtain rfl := hmodified.eq_of_load hload
  have hkeeps := hkeeps f hf
  obtain ⟨k'', hload', hread⟩ := exists_load_after hmodified hkeeps.keepsRange
  refine ⟨k'', hload', fun key _ hbefore hafter => absurd ?_ hbefore⟩
  rwa [hread, Contract.settings, hkeeps _ _ _ hmodified.change] at hafter

/-- Requests that change the contract clear only keys that they may clear. -/
theorem clears_of_perform {request : Request} (hedits : request.editsContract = true)
    (hload : (Store.load locs.contract).runOn t = (.ok k, t))
    (h : (perform locs request).runOn t = (.ok o, t')) :
    ∃ k' : Contract, (Store.load locs.contract).runOn t' = (.ok k', t') ∧
      ∀ key ∈ Key.all, key.read k.settings ≠ none → key.read k'.settings = none →
        request.Clears key := by
  cases request with
  | setSettings assignments =>
    obtain ⟨r, t₁, hset, hr⟩ := Action.runOn_bind_eq_ok.1 h
    cases hr
    obtain ⟨-, k', hload', hassigned⟩ := Settings.assigned_of_set locs hload hset
    exact ⟨k', hload', fun key hkey => (hassigned key hkey).clears⟩
  | removeSettings names =>
    obtain ⟨f, rfl, r, k₀, k', -, hmodified⟩ :=
      ((Settings.edits_remove names).bind_pure _).exists_modified h
    obtain rfl := hmodified.eq_of_load hload
    obtain ⟨k'', hload', hread⟩ := exists_load_after hmodified (Settings.keepsRange_remove names)
    obtain ⟨d', hremove, rfl⟩ := Contract.editDaemon_eq_ok_iff.1 hmodified.change
    refine ⟨k'', hload', fun key _ hbefore hafter => ?_⟩
    rw [hread] at hafter
    exact Settings.exists_name_of_removeIn hremove fun heq => hbefore (heq.symm.trans hafter)
  -- The other requests leave the daemon section alone.
  | addPlugin addition =>
    refine clears_of_keepsDaemon ((Plugins.edits_add addition).bind_pure _) ?_ hload h
    rintro f rfl
    exact keepsDaemon_editPlugins _
  | setPlugin update =>
    refine clears_of_keepsDaemon ((Plugins.edits_set update).bind_pure _) ?_ hload h
    rintro f ⟨target, -, rfl⟩
    exact keepsDaemon_editPlugins _
  | movePlugin c name move =>
    refine clears_of_keepsDaemon ((Plugins.edits_move c name move).bind_pure _) ?_ hload h
    rintro f rfl
    exact keepsDaemon_editPlugins _
  | removePlugin c name =>
    refine clears_of_keepsDaemon ((Plugins.edits_remove c name).bind_pure _) ?_ hload h
    rintro f rfl
    exact keepsDaemon_editPlugins _
  | setTools server tools | removeTools server tools =>
    refine clears_of_keepsDaemon ((Tools.edits_edit _ server tools _).bind_pure _) ?_ hload h
    rintro f rfl
    exact Tools.keepsDaemon_edit server _
  | removeServer server =>
    refine clears_of_keepsDaemon ((Servers.edits_remove server).bind_pure _) ?_ hload h
    rintro f rfl
    exact Servers.keepsDaemon_remove server
  | _ => cases hedits

/-! ### The result -/

/-- After settings were assigned, each key that was named holds what the last input for it denotes,
and all others hold what they held; it is only input that names no item, for a key that holds lists,
that leaves a named key without a setting. No request that changes the contract clears a key except
by such an assignment or on demand. -/
theorem settings_hold_last_assignment (locs : Locations) (t : FileTree) (k : Contract)
    (hload : (Store.load locs.contract).runOn t = (.ok k, t)) :
    (∀ assignments r t', (Settings.set locs assignments).runOn t = (.ok r, t') →
      (∀ raw ∈ assignments, ∃ key ∈ Key.all, ∃ input, inputFor? key raw = some input) ∧
        ∃ k' : Contract, (Store.load locs.contract).runOn t' = (.ok k', t') ∧ ∀ key ∈ Key.all,
          Assigned assignments key (key.read k.settings) (key.read k'.settings)) ∧
      ∀ request o t', request.editsContract = true →
        (perform locs request).runOn t = (.ok o, t') →
        ∃ k' : Contract, (Store.load locs.contract).runOn t' = (.ok k', t') ∧
          ∀ key ∈ Key.all, key.read k.settings ≠ none → key.read k'.settings = none →
            request.Clears key :=
  ⟨fun _ _ _ => Settings.assigned_of_set locs hload,
    fun _ _ _ hedits => clears_of_perform hedits hload⟩

/-- Assignments that are accepted are made if the contract can be written. -/
theorem exists_set_of_writable (locs : Locations) (assignments : List String)
    {pairs : List (String × String)} {r : Settings.Report} {d : Daemon} {t₀ : FileTree}
    {place : Place} (hload : (Store.load locs.contract).runOn t = (.ok k, t))
    (hne : assignments.isEmpty = false)
    (hparsed : assignments.mapM Settings.parseAssignment = .ok pairs)
    (hset : Settings.setIn pairs k.settings = .ok (r, d))
    (hwritable : Store.Writable locs.contract t t₀ place) :
    ∃ t', (Settings.set locs assignments).runOn t = (.ok r, t') := by
  have hedit : k.editDaemon (Settings.setIn pairs) = .ok (r, { k with daemon := some d }) :=
    Contract.editDaemon_eq_ok_iff.2 ⟨d, hset, rfl⟩
  let f (k : Contract) := k.editDaemon (Settings.setIn pairs)
  obtain ⟨t', ht'⟩ := Store.exists_runOn_modify (f := f) hload hedit hwritable
  exact ⟨t', (Settings.performs_set hne hparsed).ok ht'⟩

/-- A contract with a list of headers. -/
def headersContract : Contract where
  daemon := some { api := some { cors := some { allowHeaders := ["A"] } } }

/-- The contract in its file. -/
def headersTree : FileTree where
  entries := [(["c.toml"], .file (Document.print headersContract).toUTF8)]
  workingDir := []

theorem load_headersTree :
    (Store.load ⟨"c.toml"⟩).runOn headersTree = (.ok headersContract, headersTree) :=
  Store.load_treeOf fun _ h => nomatch h

theorem writable_headersTree : Store.Writable ⟨"c.toml"⟩ headersTree headersTree ["c.toml"] :=
  Store.writable_treeOf headersContract

/-- The headers are assigned twice, and the address in between. -/
theorem settings_hold_last_assignment_headersTwice :
    ∃ (t' : FileTree) (k' : Contract), (Store.load ⟨"c.toml"⟩).runOn t' = (.ok k', t') ∧
      Key.corsAllowHeaders.read k'.settings = some (.list ["B", "C"]) ∧
      Key.apiAddr.read k'.settings = some (.text ":80") := by
  obtain ⟨t', ht'⟩ := exists_set_of_writable ⟨⟨"c.toml"⟩, ⟨"x.toml"⟩⟩
    ["api.cors.allow_headers=B", "api.addr = :80", "api.cors.allow_headers=B, C"]
    load_headersTree rfl rfl rfl writable_headersTree
  obtain ⟨-, k', hload, hassigned⟩ :=
    (settings_hold_last_assignment ⟨⟨"c.toml"⟩, ⟨"x.toml"⟩⟩ headersTree _ load_headersTree).1 _ _ _
      ht'
  refine ⟨t', k', hload, ?_, ?_⟩
  · have hnamed := (hassigned .corsAllowHeaders (by decide)).named "B, C" rfl
    exact (Except.ok.inj hnamed).symm
  · have hnamed := (hassigned .apiAddr (by decide)).named " :80" rfl
    exact (Except.ok.inj hnamed).symm

/-- A comma clears the headers, although it is no blank input. -/
theorem comma_clears_headers :
    ∃ (r : Settings.Report) (t' : FileTree) (k' : Contract),
      (Settings.set ⟨⟨"c.toml"⟩, ⟨"x.toml"⟩⟩ ["api.cors.allow_headers=,"]).runOn headersTree =
        (.ok r, t') ∧ (Store.load ⟨"c.toml"⟩).runOn t' = (.ok k', t') ∧
      Key.corsAllowHeaders.read headersContract.settings = some (.list ["A"]) ∧
      Key.corsAllowHeaders.read k'.settings = none := by
  obtain ⟨t', ht'⟩ := exists_set_of_writable ⟨⟨"c.toml"⟩, ⟨"x.toml"⟩⟩
    ["api.cors.allow_headers=,"] load_headersTree rfl rfl rfl writable_headersTree
  obtain ⟨-, k', hload, hassigned⟩ :=
    Settings.assigned_of_set ⟨⟨"c.toml"⟩, ⟨"x.toml"⟩⟩ load_headersTree ht'
  have hnamed := (hassigned .corsAllowHeaders (by decide)).named "," rfl
  exact ⟨_, t', k', ht', hload, rfl, (Except.ok.inj hnamed).symm⟩

end Cli

end FleetConfig
