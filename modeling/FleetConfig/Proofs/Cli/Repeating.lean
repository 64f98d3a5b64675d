import FleetConfig.Proofs.Cli.Ordering
import FleetConfig.Proofs.Cli.Outcomes
import FleetConfig.Proofs.Command.Repeating

/-!
# Requests that are made again

To set variables, tools, settings or plugins twice is to set them once, and the same holds of tools
and settings that are removed. The second request reports that nothing has changed and leaves all
files alone. Settings are an exception if one key is assigned twice, since the first assignment then
changes what the second one restores.

## Main definitions

* `Cli.Request.Repeatable` — the requests that change nothing when they are made again.

## Main results

* `Settings.settled_setIn`, `Settings.settled_removeIn` — settings that are changed again.
* `Cli.repeated_request_is_noop` — a request that succeeds changes nothing when it is made again.
-/

namespace FleetConfig

open Store (Edits Settled)

/-! ### Settings -/

namespace Settings

open Daemon (Asks Key)

variable {pairs : List (String × String)} {names : List String} {d d' d₁ : Daemon} {r : Report}

/-- There is one input for a key at most, so all input for it agrees. -/
theorem agree_of_distinctKeys (h : DistinctKeys pairs) (k : Key) :
    Agree k (pairs.filterMap (inputIn? k)) := by
  have hlength := length_inputs_le_one h k
  generalize pairs.filterMap (inputIn? k) = inputs at hlength
  match inputs, hlength with
  | [], _ => exact nofun
  | [_], _ =>
    intro i hi i' hi'
    rw [List.mem_singleton.1 hi, List.mem_singleton.1 hi']

/-- A row of changes that agree on each key, made again, changes nothing. -/
theorem setEach_again (h : setEach pairs d = .ok (r, d'))
    (hagree : ∀ k, Agree k (pairs.filterMap (inputIn? k)))
    (hread : ∀ k : Key, k.read d₁ = k.read d') :
    ∃ r', setEach pairs d₁ = .ok (r', d₁) ∧ r'.outcome = .noop := by
  obtain ⟨r', d₂, hagain⟩ := exists_setEach (exists_asks_of_setEach h) d₁
  obtain ⟨hiff, hsame⟩ := outcome_of_setEach hagain
  have hnoop : r'.outcome = .noop := hiff.2 fun a ha k v hasks =>
    (read_eq_of_agree h ha hasks (hagree k)).trans (hread k).symm
  rw [hsame hnoop] at hagain
  exact ⟨r', hagain, hnoop⟩

/-- A change of the section that makes nothing new of what it has left. -/
theorem settled_editDaemon {f : Daemon → Except ConfigError (Report × Daemon)} {k k' : Contract}
    (h : k.editDaemon f = .ok (r, k'))
    (hagain : ∀ d d' d₁ r, f d = .ok (r, d') → (∀ key : Key, key.read d₁ = key.read d') →
      ∃ r', f d₁ = .ok (r', d₁) ∧ r'.outcome = .noop) :
    Settled (·.outcome = .noop) (fun k : Contract => k.editDaemon f) k' := by
  obtain ⟨d', hmade, rfl⟩ := Contract.editDaemon_eq_ok_iff.1 h
  intro k₁ hprune
  have hsettings : k₁.settings.prune = d'.prune := (Contract.prune_eq_prune_iff.1 hprune).2.1
  obtain ⟨r', hsame, hnoop⟩ := hagain _ _ k₁.settings _ hmade fun key =>
    Daemon.prune_eq_prune_iff.1 hsettings key key.mem_all
  exact ⟨r', _, Contract.editDaemon_eq_ok_iff.2 ⟨_, hsame, rfl⟩, hnoop,
    (Contract.prune_daemon_eq_iff k₁).2 rfl⟩

/-- Different keys that were set are set again without a change. -/
theorem settled_setIn {k k' : Contract} (hdistinct : DistinctKeys pairs)
    (h : k.editDaemon (setIn pairs) = .ok (r, k')) :
    Settled (·.outcome = .noop) (fun k : Contract => k.editDaemon (setIn pairs)) k' := by
  refine settled_editDaemon h fun d d' d₁ r hmade hread => ?_
  obtain ⟨⟨r₁, d₂⟩, hset, hmade⟩ := bind_eq_ok.1 hmade
  obtain ⟨_, hvalid, hmade⟩ := bind_eq_ok.1 hmade
  cases hmade
  obtain ⟨r', hagain, hnoop⟩ := setEach_again hset (agree_of_distinctKeys hdistinct) hread
  have hvalid' := validate_of_read_eq (fun key => (hread key).symm) hvalid
  exact ⟨r', bind_eq_ok.2 ⟨_, hagain, bind_eq_ok.2 ⟨_, hvalid', rfl⟩⟩, hnoop⟩

/-- Keys that were cleared are cleared again without a change. -/
theorem settled_removeIn {k k' : Contract} (h : k.editDaemon (removeIn names) = .ok (r, k')) :
    Settled (·.outcome = .noop) (fun k : Contract => k.editDaemon (removeIn names)) k' := by
  refine settled_editDaemon h fun d d' d₁ r hmade hread => ?_
  rw [removeIn_eq_setEach] at hmade ⊢
  exact setEach_again hmade (fun k => agree_of_clearing k names) hread

end Settings

/-! ### Requests -/

namespace Cli

open Contract (KeepsRange inRange_of_load keepsDaemon_editPlugins)

variable {locs : Locations} {t t' : FileTree} {o : Output}

/-- Holds of the requests that change nothing when they are made again: those that set variables,
tools or plugins, those that remove tools or settings, and those that set settings of different
keys. -/
def Request.Repeatable : Request → Prop
  | .setVariables _ _ | .setTools _ _ | .removeTools _ _ | .removeSettings _ | .setPlugin _ => True
  | .setSettings assignments => (assignments.filterMap Settings.keyOf?).Nodup
  | _ => False

/-- A request that edits the contract by changes that settle changes nothing when it is made again.
-/
theorem again_of_contract {β : Type} {Among : (Contract → Except ConfigError (β × Contract)) → Prop}
    {report : β → Output} {x : Action (StateM FileTree) Output} {outcome : β → Outcome}
    (h : Edits locs.contract Among report x) (hx : x.runOn t = (.ok o, t'))
    (hword : ∀ b, (report b).outcome? = some (outcome b))
    (hsettles : ∀ f, Among f → KeepsRange f ∧
      ∀ k b k', f k = .ok (b, k') → Settled (outcome · = .noop) f k') :
    ∃ o', x.runOn t' = (.ok o', t') ∧ o'.outcome? = some .noop := by
  obtain ⟨b, hagain, hnoop⟩ := h.runOn_again hx Contract.prune_prune fun f hf _ _ _ hmodified =>
    ⟨(hsettles f hf).1 _ _ _ (inRange_of_load hmodified.load) hmodified.change,
      (hsettles f hf).2 _ _ _ hmodified.change⟩
  exact ⟨report b, hagain, (hword b).trans (congrArg some hnoop)⟩

/-- A request that sets variables, tools, plugins or settings of different keys, or removes tools or
settings, and succeeds, succeeds at once again. It then reports that nothing has changed, and leaves
the whole file tree as it is. -/
theorem repeated_request_is_noop (locs : Locations) (request : Request) (t t' : FileTree)
    (o : Output) (hrepeatable : request.Repeatable)
    (h : (perform locs request).runOn t = (.ok o, t')) :
    ∃ o', (perform locs request).runOn t' = (.ok o', t') ∧ o'.outcome? = some .noop := by
  cases request with
  | setVariables server pairs =>
    have hsettles : ∀ f, (∃ parsed, pairs.mapM Variables.parsePair = .ok parsed ∧
        f = Variables.setIn server parsed) → ∀ r x x', Store.Modified locs.context f r x x' t t' →
          True ∧ Settled (·.outcome = .noop) f x' := by
      rintro f ⟨parsed, -, rfl⟩ r x x' hmodified
      exact ⟨trivial, Variables.settled_setIn hmodified.change⟩
    obtain ⟨r, hagain, hnoop⟩ :=
      ((Variables.edits_set server pairs).bind_pure _).runOn_again h (fun _ => rfl) hsettles
    exact ⟨_, hagain, (Outcome.ofText?_text r.outcome).trans (congrArg some hnoop)⟩
  | setTools server tools =>
    refine again_of_contract ((Tools.edits_edit _ server tools _).bind_pure _) h
      (fun r => Outcome.ofText?_text r.outcome) ?_
    rintro _ rfl
    exact ⟨(Tools.keepsDaemon_edit server _).keepsRange, fun _ _ _ hmade =>
      Tools.settled_editIn (NameSet.foldl_insert_twice _) hmade⟩
  | removeTools server tools =>
    refine again_of_contract ((Tools.edits_edit _ server tools _).bind_pure _) h
      (fun r => Outcome.ofText?_text r.outcome) ?_
    rintro _ rfl
    exact ⟨(Tools.keepsDaemon_edit server _).keepsRange, fun _ _ _ hmade =>
      Tools.settled_editIn (NameSet.foldl_erase_twice _) hmade⟩
  | setSettings assignments =>
    refine again_of_contract ((Settings.edits_set assignments).bind_pure _) h
      (fun r => Outcome.ofText?_text r.outcome) ?_
    rintro _ ⟨pairs, hparsed, rfl⟩
    have hdistinct := Settings.distinctKeys_of_mapM hparsed hrepeatable
    exact ⟨Settings.keepsRange_set pairs, fun _ _ _ hmade => Settings.settled_setIn hdistinct hmade⟩
  | removeSettings names =>
    refine again_of_contract ((Settings.edits_remove names).bind_pure _) h
      (fun r => Outcome.ofText?_text r.outcome) ?_
    rintro _ rfl
    exact ⟨Settings.keepsRange_remove names, fun _ _ _ hmade => Settings.settled_removeIn hmade⟩
  | setPlugin update =>
    refine again_of_contract ((Plugins.edits_set update).bind_pure _) h
      (fun r => Outcome.ofText?_text r.outcome) ?_
    rintro _ ⟨target, -, rfl⟩
    exact ⟨(keepsDaemon_editPlugins _).keepsRange, fun _ _ _ hmade => Plugins.settled_setIn hmade⟩
  | _ => cases hrepeatable

/-- A directory is asked for, and a plugin whose name is given with blanks at its ends. -/
def auditUpdate : Plugins.Update where
  dir := some " d "
  category := some .audit
  name := some " a "
  flows := [.request, .request]

/-- The first request makes the plugin, and the second one finds it. -/
theorem repeated_request_is_noop_newPlugin : ∃ (o o' : Output) (t' : FileTree),
    (perform ⟨⟨"c.toml"⟩, ⟨"x.toml"⟩⟩ (.setPlugin auditUpdate)).runOn
      (Store.treeOf ({} : Contract)) = (.ok o, t') ∧
    o.outcome? = some .created ∧
    (perform ⟨⟨"c.toml"⟩, ⟨"x.toml"⟩⟩ (.setPlugin auditUpdate)).runOn t' = (.ok o', t') ∧
    o'.outcome? = some .noop := by
  let locs : Locations := ⟨⟨"c.toml"⟩, ⟨"x.toml"⟩⟩
  have hload := Store.load_treeOf (d := ({} : Contract)) fun _ h => nomatch h
  let f (k : Contract) := k.editPlugins (Plugins.setIn auditUpdate (some (.audit, "a")))
  have hmade : (f {}).map (·.1.outcome) = .ok .created := by rfl
  obtain ⟨⟨r, k⟩, hedit, hr⟩ := map_eq_ok.1 hmade
  obtain ⟨t', ht'⟩ := Store.exists_runOn_modify (f := f) hload hedit (Store.writable_treeOf _)
  have hfirst : (perform locs (.setPlugin auditUpdate)).runOn (Store.treeOf ({} : Contract)) =
      (.ok (ofPlugins "Set" r), t') :=
    ((Plugins.performs_set rfl).bind_pure _).ok ht'
  obtain ⟨o', hagain, hnoop⟩ :=
    repeated_request_is_noop locs (.setPlugin auditUpdate) _ t' _ trivial hfirst
  have hword : (ofPlugins "Set" r).outcome? = some .created :=
    (Outcome.ofText?_text r.outcome).trans (congrArg some hr)
  exact ⟨_, o', t', hfirst, hword, hagain, hnoop⟩

end Cli

end FleetConfig
