import FleetConfig.Proofs.Cli.Validity
import FleetConfig.Proofs.Cli.Failing
import FleetConfig.Proofs.Cli.Ordering
import FleetConfig.Proofs.Cli.Outcomes
import FleetConfig.Proofs.Cli.Settings
import FleetConfig.Proofs.Command.Arguments
import FleetConfig.Proofs.Context.Frames
import FleetConfig.Proofs.Contract.Frames

/-!
# What requests leave

A request that succeeds changes only what it is about. A request about arguments or variables
changes one entry of the execution context, and a request about settings, plugins, tools or servers
changes what it names in the contract, up to empty sections. No file but the one that it manages is
changed.

## Main definitions

* `Cli.Request.ContextFrame`, `Cli.Request.ContractFrame` — what a request leaves of a document.

## Main results

* `Cli.leaves_of_context`, `Cli.leaves_of_contract` — what the edits that requests make leave.
* `Cli.request_leaves_the_rest` — what requests that succeed leave.
-/

namespace FleetConfig

open Contract (KeepsRange SettingsFrame inRange_of_load keepsDaemon_editPlugins)
open Daemon (Key)
open Store (Edits OthersKept)

/-! ### Settings -/

namespace Settings

variable {k k' : Contract} {r : Report} {assignments names : List String}
  {pairs : List (String × String)}

/-- A key is assigned by an assignment that names it. -/
theorem exists_keyOf?_of_lastInput? {key : Key} {input : String}
    (h : lastInput? key assignments = some input) :
    ∃ raw ∈ assignments, keyOf? raw = some key.path := by
  obtain ⟨raw, hraw, hinput⟩ := List.mem_filterMap.1 (List.mem_of_getLast? h)
  obtain ⟨cut, hcut, hinput⟩ := Option.bind_eq_some_iff.1 hinput
  rw [inputIn?] at hinput
  split_ifs at hinput with hname
  exact ⟨raw, hraw, by rw [keyOf?, hcut, Option.map_some, hname]⟩

theorem settingsFrame_of_setIn (hparsed : assignments.mapM parseAssignment = .ok pairs)
    (h : k.editDaemon (setIn pairs) = .ok (r, k')) :
    k.SettingsFrame (fun key => ∃ raw ∈ assignments, keyOf? raw = some key.path) k' := by
  obtain ⟨d', hset, rfl⟩ := Contract.editDaemon_eq_ok_iff.1 h
  refine ⟨rfl, rfl, fun key hkey => ((assigned_of_setIn hparsed hset).2 key).unnamed ?_⟩
  cases hlast : lastInput? key assignments with
  | none => rfl
  | some input => exact absurd (exists_keyOf?_of_lastInput? hlast) hkey

theorem settingsFrame_of_removeIn (h : k.editDaemon (removeIn names) = .ok (r, k')) :
    k.SettingsFrame (fun key => ∃ name ∈ names, Text.trim name = key.path) k' := by
  obtain ⟨d', hremove, rfl⟩ := Contract.editDaemon_eq_ok_iff.1 h
  exact ⟨rfl, rfl, fun key hkey => by_contra fun hne => hkey (exists_name_of_removeIn hremove hne)⟩

end Settings

/-! ### Requests -/

namespace Cli

variable {locs : Locations} {t t' : FileTree} {o : Output} {β : Type} {report : β → Output}
  {x : Action (StateM FileTree) Output}

/-- What a request leaves of the execution context. -/
def Request.ContextFrame (x x' : Context) : Request → Prop
  | .setArguments server _ _ | .removeArguments server _ | .clearArguments server _ =>
    Arguments.Frame server x x'
  | .setVariables server _ | .removeVariables server _ | .clearVariables server _ =>
    Variables.Frame server x x'
  | _ => x' = x

/-- What a request leaves of the contract. -/
def Request.ContractFrame (k k' : Contract) : Request → Prop
  | .setSettings assignments =>
    k.SettingsFrame (fun key => ∃ raw ∈ assignments, Settings.keyOf? raw = some key.path) k'
  | .removeSettings names =>
    k.SettingsFrame (fun key => ∃ name ∈ names, Text.trim name = key.path) k'
  | .addPlugin a =>
    k.PluginsFrame (fun cat cat' => cat'.dir = cat.dir ∧ cat.Frame a.category a.name cat') k'
  | .setPlugin update => k.PluginsFrame (Plugins.SetFrame update) k'
  | .movePlugin c name move =>
    k.PluginsFrame (fun cat cat' => ∃ p, cat.find? c name = some p ∧
      cat.FirstMoved c (move.toCategory.getD c) p cat') k'
  | .removePlugin c name =>
    k.PluginsFrame (fun cat cat' =>
      cat' = cat.withPlugins c (Named.rest Plugin.name name (cat.plugins c))) k'
  | .setTools server _ | .removeTools server _ =>
    k.ServersFrame (fun ss ss' => ∃ tools, ss' =
      ss.modify (ss.findIdx fun s => s.name == server) fun s => { s with tools }) k'
  | .removeServer server =>
    k.ServersFrame (fun ss ss' => ss' = Named.rest Server.name server ss) k'
  | _ => k' = k

/-- What an edit of the execution context leaves. -/
theorem leaves_of_context {Among : (Context → Except ConfigError (β × Context)) → Prop}
    {Frame : Context → Context → Prop} (hx : Edits locs.context Among report x)
    (h : x.runOn t = (.ok o, t'))
    (hframe : ∀ f, Among f → ∀ x b x', f x = .ok (b, x') → Frame x x') :
    OthersKept locs.context t t' ∧ ∃ x x' : Context,
      (Store.load locs.context).runOn t = (.ok x, t) ∧
      (Store.load locs.context).runOn t' = (.ok x', t') ∧ Frame x x' := by
  obtain ⟨f, hf, b, x, x', -, hmodified⟩ := hx.exists_modified h
  obtain ⟨x'', hload, (hsame : x'' = x')⟩ := hmodified.load_after trivial rfl
  have hchange := hframe f hf x b x' hmodified.change
  exact ⟨hmodified.othersKept, x, x'', hmodified.load, hload, hsame ▸ hchange⟩

/-- What an edit of the contract leaves, up to empty sections. -/
theorem leaves_of_contract {Among : (Contract → Except ConfigError (β × Contract)) → Prop}
    {Frame : Contract → Contract → Prop} (hx : Edits locs.contract Among report x)
    (h : x.runOn t = (.ok o, t'))
    (hprune : ∀ {k k₁ k' : Contract}, Frame k k₁ → k'.prune = k₁.prune → Frame k k')
    (hframe : ∀ f, Among f → KeepsRange f ∧ ∀ k b k', f k = .ok (b, k') → Frame k k') :
    OthersKept locs.contract t t' ∧ ∃ k k' : Contract,
      (Store.load locs.contract).runOn t = (.ok k, t) ∧
      (Store.load locs.contract).runOn t' = (.ok k', t') ∧ Frame k k' := by
  obtain ⟨f, hf, b, k, k', -, hmodified⟩ := hx.exists_modified h
  obtain ⟨hkeeps, hframe⟩ := hframe f hf
  have hrange := hkeeps _ _ _ (inRange_of_load hmodified.load) hmodified.change
  obtain ⟨k'', hload, hsame⟩ := hmodified.load_after hrange k'.prune_prune
  exact ⟨hmodified.othersKept, k, k'', hmodified.load, hload,
    hprune (hframe k b k' hmodified.change) hsame⟩

/-- What requests that change arguments or variables leave. -/
theorem contextFrame_of_perform {request : Request} (hedits : request.editsContext = true)
    (h : (perform locs request).runOn t = (.ok o, t')) :
    OthersKept locs.context t t' ∧ ∃ x x' : Context,
      (Store.load locs.context).runOn t = (.ok x, t) ∧
      (Store.load locs.context).runOn t' = (.ok x', t') ∧ request.ContextFrame x x' := by
  cases request with
  | setArguments server switches tokens =>
    refine leaves_of_context ((Arguments.edits_set switches server tokens).bind_pure _) h ?_
    rintro _ rfl x r x' hmade
    exact Arguments.frame_setIn hmade
  | removeArguments server names =>
    refine leaves_of_context ((Arguments.edits_remove server names).bind_pure _) h ?_
    rintro _ rfl x r x' hmade
    exact Arguments.frame_removeIn hmade
  | clearArguments server force =>
    refine leaves_of_context ((Arguments.edits_clear server force).bind_pure _) h ?_
    rintro _ rfl x r x' hmade
    exact Arguments.frame_clearIn hmade
  | setVariables server pairs =>
    refine leaves_of_context ((Variables.edits_set server pairs).bind_pure _) h ?_
    rintro _ ⟨parsed, -, rfl⟩ x r x' hmade
    exact Variables.frame_setIn hmade
  | removeVariables server keys =>
    refine leaves_of_context ((Variables.edits_remove server keys).bind_pure _) h ?_
    rintro _ rfl x r x' hmade
    exact Variables.frame_removeIn hmade
  | clearVariables server force =>
    refine leaves_of_context ((Variables.edits_clear server force).bind_pure _) h ?_
    rintro _ rfl x r x' hmade
    exact Variables.frame_clearIn hmade
  | _ => cases hedits

/-- What requests that change the contract leave. -/
theorem contractFrame_of_perform {request : Request} (hedits : request.editsContract = true)
    (h : (perform locs request).runOn t = (.ok o, t')) :
    OthersKept locs.contract t t' ∧ ∃ k k' : Contract,
      (Store.load locs.contract).runOn t = (.ok k, t) ∧
      (Store.load locs.contract).runOn t' = (.ok k', t') ∧ request.ContractFrame k k' := by
  cases request with
  | setSettings assignments =>
    refine leaves_of_contract ((Settings.edits_set assignments).bind_pure _) h .of_prune_eq ?_
    rintro _ ⟨pairs, hparsed, rfl⟩
    exact ⟨Settings.keepsRange_set pairs, fun _ _ _ hmade =>
      Settings.settingsFrame_of_setIn hparsed hmade⟩
  | removeSettings names =>
    refine leaves_of_contract ((Settings.edits_remove names).bind_pure _) h .of_prune_eq ?_
    rintro _ rfl
    exact ⟨Settings.keepsRange_remove names, fun _ _ _ hmade =>
      Settings.settingsFrame_of_removeIn hmade⟩
  | addPlugin a =>
    refine leaves_of_contract ((Plugins.edits_add a).bind_pure _) h .of_prune_eq ?_
    rintro _ rfl
    exact ⟨(keepsDaemon_editPlugins _).keepsRange, fun _ _ _ hmade =>
      Contract.pluginsFrame_of_editPlugins hmade fun _ => Plugins.frame_addIn⟩
  | setPlugin update =>
    refine leaves_of_contract ((Plugins.edits_set update).bind_pure _) h .of_prune_eq ?_
    rintro _ ⟨target, htarget, rfl⟩
    exact ⟨(keepsDaemon_editPlugins _).keepsRange, fun _ _ _ hmade =>
      Contract.pluginsFrame_of_editPlugins hmade fun _ => Plugins.setFrame_of_setIn htarget⟩
  | movePlugin c name move =>
    refine leaves_of_contract ((Plugins.edits_move c name move).bind_pure _) h .of_prune_eq ?_
    rintro _ rfl
    exact ⟨(keepsDaemon_editPlugins _).keepsRange, fun _ _ _ hmade =>
      Contract.pluginsFrame_of_editPlugins hmade fun _ => Plugins.firstMoved_of_moveIn⟩
  | removePlugin c name =>
    refine leaves_of_contract ((Plugins.edits_remove c name).bind_pure _) h .of_prune_eq ?_
    rintro _ rfl
    exact ⟨(keepsDaemon_editPlugins _).keepsRange, fun _ _ _ hmade =>
      Contract.pluginsFrame_of_editPlugins hmade fun _ => Catalogue.eq_of_delete⟩
  | setTools server tools | removeTools server tools =>
    refine leaves_of_contract ((Tools.edits_edit _ server tools _).bind_pure _) h .of_prune_eq ?_
    rintro _ rfl
    exact ⟨(Tools.keepsDaemon_edit server _).keepsRange, fun _ _ _ hmade =>
      Tools.serversFrame_of_editIn hmade⟩
  | removeServer server =>
    refine leaves_of_contract ((Servers.edits_remove server).bind_pure _) h .of_prune_eq ?_
    rintro _ rfl
    exact ⟨(Servers.keepsDaemon_remove server).keepsRange, fun _ _ _ hmade =>
      Contract.serversFrame_of_deleteServer hmade⟩
  | _ => cases hedits

/-! ### The result -/

/-- A request that succeeds changes only what it is about, for all documents that can be loaded,
valid or not. If it only tells what is there, it changes nothing. Otherwise all files but the one
that it manages are as they were. If it is about the arguments or the variables of a server, all
other servers of the execution context are as they were, and so is the other half of the server's
entry; the server disappears only if both halves are empty then. If it is about the contract,
everything is as it was there, up to empty sections, but for the settings of the keys, the plugin
with its category, the tools, or the server that it names. A name is that of the first plugin of its
category, or of the first server, that has it. -/
theorem request_leaves_the_rest (locs : Locations) (request : Request) (t t' : FileTree)
    (o : Output) (h : (perform locs request).runOn t = (.ok o, t')) :
    (request.reads = true → t' = t) ∧
    (request.editsContext = true → OthersKept locs.context t t' ∧ ∃ x x' : Context,
      (Store.load locs.context).runOn t = (.ok x, t) ∧
      (Store.load locs.context).runOn t' = (.ok x', t') ∧ request.ContextFrame x x') ∧
    (request.editsContract = true → OthersKept locs.contract t t' ∧ ∃ k k' : Contract,
      (Store.load locs.contract).runOn t = (.ok k, t) ∧
      (Store.load locs.contract).runOn t' = (.ok k', t') ∧ request.ContractFrame k k') :=
  ⟨fun hreads => (readsOnly_perform hreads).eq_of_runOn h,
    fun hedits => contextFrame_of_perform hedits h, fun hedits => contractFrame_of_perform hedits h⟩

/-- The contract with two plugins of one name in its file, and an execution context beside it. -/
def besideTree : FileTree where
  entries := [(["c.toml"], .file (Document.print namesakesContract).toUTF8),
    (["x.toml"], .file (Document.print (Arguments.contextOf ["v"])).toUTF8)]
  workingDir := []

/-- The first of the two plugins moves into another category. The second one stays, and so do the
settings and the execution context. -/
theorem request_leaves_the_rest_namesake : ∃ (o : Output) (t' : FileTree) (k' : Contract),
    (perform ⟨⟨"c.toml"⟩, ⟨"x.toml"⟩⟩
      (.movePlugin .audit "a" { toCategory := some .content })).runOn besideTree = (.ok o, t') ∧
    (Store.load ⟨"c.toml"⟩).runOn t' = (.ok k', t') ∧
    t'.read ⟨"x.toml"⟩ = .ok (Document.print (Arguments.contextOf ["v"])).toUTF8 ∧
    k'.catalogue.plugins .audit = [{ name := "a", flows := { response := true } }] ∧
    Key.apiAddr.read k'.settings = some (.text ":90") := by
  let move : Catalogue.Move := { toCategory := some .content }
  have hload : (Store.load ⟨"c.toml"⟩).runOn besideTree = (.ok namesakesContract, besideTree) :=
    Store.load_of_read rfl fun _ h => nomatch h
  have hwritable : Store.Writable ⟨"c.toml"⟩ besideTree besideTree ["c.toml"] :=
    ⟨rfl, ⟨⟨""⟩, rfl, rfl⟩, fun _ => rfl⟩
  let f (k : Contract) := k.editPlugins (Plugins.moveIn .audit "a" move)
  obtain ⟨t', ht'⟩ := Store.exists_runOn_modify (f := f) hload rfl hwritable
  have hperform : (perform ⟨⟨"c.toml"⟩, ⟨"x.toml"⟩⟩ (.movePlugin .audit "a" move)).runOn
      besideTree = (.ok _, t') :=
    ((Plugins.performs_move .audit "a" move).bind_pure _).ok ht'
  obtain ⟨hothers, k, k', hload', hload'', hframe⟩ :=
    (request_leaves_the_rest ⟨⟨"c.toml"⟩, ⟨"x.toml"⟩⟩ (.movePlugin .audit "a" move) _ _ _
      hperform).2.2 rfl
  cases hload'.symm.trans hload
  obtain ⟨p, hfind, hmoved⟩ := hframe.catalogue
  cases hfind
  refine ⟨_, t', k', hperform, hload'', hothers.read ⟨"x.toml"⟩ _ (by decide) rfl, ?_, ?_⟩
  · exact hmoved.left (by decide)
  · exact Daemon.prune_eq_prune_iff.1 hframe.settings .apiAddr Key.apiAddr.mem_all

end Cli

end FleetConfig
