import FleetConfig.Proofs.Cli.Validity
import FleetConfig.Proofs.Cli.Settings
import FleetConfig.Proofs.Command.Agreement
import FleetConfig.Proofs.Context.Outcomes

/-!
# Results and files

A request that changes a document reports an outcome. It says that nothing has changed exactly if
the file has the bytes that it had, with two exceptions. Settings that are assigned one after
another report each change, also one that a later assignment to the same key undoes. And a plugin
that moves within its category is told by its name from those that it passes, which does not tell
apart plugins of one name.

## Main definitions

* `Cli.Output.outcome?` — the outcome that a result reports.
* `Cli.Request.document?` — the file that a request manages.
* `Cli.Request.Agrees`, `Cli.Request.MovesAlone` — the requests that are no exceptions.
* `Cli.Told` — what an outcome tells of a file.

## Main results

* `Cli.told_of_context`, `Cli.told_of_contract` — what the results of requests tell.
* `Cli.result_tells_of_file` — when a result says that nothing has changed.
-/

namespace FleetConfig.Cli

open Contract (KeepsRange inRange_of_load keepsDaemon_editPlugins)
open Store (Modified)

/-! ### Outcomes that are told -/

/-- The outcome that a result reports. -/
def Output.outcome? (o : Output) : Option Outcome :=
  match o.data with
  | .record fields =>
    match fields.lookup "result" with
    | some (.text word) => Outcome.ofText? word
    | _ => none
  | _ => none

/-- What an outcome tells of the file of a path. -/
structure Told (p : Path) (t t' : FileTree) (Sound Agrees : Prop) (outcome : Outcome) : Prop where
  /-- If the file has the bytes that it had, and what was asked for agrees, nothing is reported to
  have changed. -/
  noop : t'.read p = t.read p → Agrees → outcome = .noop
  /-- If nothing is reported to have changed, what was asked for agrees. -/
  agrees : outcome = .noop → Agrees
  /-- If nothing is reported to have changed, the file has the bytes that it had, provided that the
  report is sound. -/
  unchanged : outcome = .noop → Sound → t'.read p = t.read p

variable {p : Path} {t t' : FileTree} {locs : Locations} {o : Output}

namespace Told

variable {δ β : Type} [Document δ] [Document.Lawful δ] {f : δ → Except ConfigError (β × δ)} {b : β}
  {d d' : δ} {Sound Agrees : Prop} {outcome : Outcome}

/-- What an outcome tells of a document it tells of the file. -/
theorem of_modified (h : Modified p f b d d' t t') (hrange : Document.Lawful.InRange d')
    (hprune : Document.prune (Document.prune d') = Document.prune d')
    (hsame : Document.prune d' = Document.prune d → Agrees → outcome = .noop)
    (hnoop : outcome = .noop → Agrees ∧ (Sound → Document.prune d' = Document.prune d)) :
    Told p t t' Sound Agrees outcome where
  noop hread := hsame ((h.read_eq_iff hrange hprune).1 hread)
  agrees ho := (hnoop ho).1
  unchanged ho hsound := (h.read_eq_iff hrange hprune).2 ((hnoop ho).2 hsound)

/-- An outcome that tells whether the document is the same tells whether the file is. -/
theorem of_iff (h : Modified p f b d d' t t') (hrange : Document.Lawful.InRange d')
    (hprune : Document.prune (Document.prune d') = Document.prune d')
    (hiff : outcome = .noop ↔ Document.prune d' = Document.prune d) :
    Told p t t' Sound True outcome :=
  of_modified h hrange hprune (fun hsame _ => hiff.2 hsame)
    fun hnoop => ⟨trivial, fun _ => hiff.1 hnoop⟩

/-- An outcome that tells whether the pruned contract is the same tells whether the file is. -/
theorem of_contract {f : Contract → Except ConfigError (β × Contract)} {k k' : Contract}
    (h : Modified p f b k k' t t') (hf : KeepsRange f)
    (hiff : outcome = .noop ↔ k'.prune = k.prune) : Told p t t' Sound True outcome :=
  of_iff h (hf _ _ _ (inRange_of_load h.load) h.change) k'.prune_prune hiff

end Told

/-! ### Requests -/

/-- The file that a request manages. -/
def Request.document? (locs : Locations) (request : Request) : Option Path :=
  if request.editsContract then some locs.contract
  else if request.editsContext then some locs.context
  else none

/-- No two settings that are asked for are different values of one key. -/
def Request.Agrees : Request → Prop
  | .setSettings assignments => Settings.Agreeing assignments
  | _ => True

/-- A plugin that is moved within its category is alone there with its name. -/
def Request.MovesAlone (locs : Locations) (t : FileTree) : Request → Prop
  | .movePlugin c name move => move.toCategory = none →
    ∀ k : Contract, (Store.load locs.contract).runOn t = (.ok k, t) → k.catalogue.Alone c name
  | _ => True

/-- What the result of a request tells of the file of a path. -/
def Tells (locs : Locations) (request : Request) (p : Path) (t t' : FileTree) (o : Output) : Prop :=
  ∃ outcome, o.outcome? = some outcome ∧
    Told p t t' (request.MovesAlone locs t) request.Agrees outcome

/-- The results of requests that change arguments or variables. -/
theorem told_of_context {request : Request} (hedits : request.editsContext = true)
    (h : (perform locs request).runOn t = (.ok o, t')) :
    Tells locs request locs.context t t' o := by
  cases request with
  | setArguments server switches tokens =>
    obtain ⟨f, rfl, r, x, x', rfl, hmodified⟩ :=
      ((Arguments.edits_set switches server tokens).bind_pure _).exists_modified h
    exact ⟨r.outcome, Outcome.ofText?_text _,
      .of_iff hmodified trivial rfl (Arguments.outcome_setIn hmodified.change)⟩
  | removeArguments server names =>
    obtain ⟨f, rfl, r, x, x', rfl, hmodified⟩ :=
      ((Arguments.edits_remove server names).bind_pure _).exists_modified h
    exact ⟨r.outcome, Outcome.ofText?_text _,
      .of_iff hmodified trivial rfl (Arguments.outcome_removeIn hmodified.change)⟩
  | clearArguments server force =>
    obtain ⟨f, rfl, r, x, x', rfl, hmodified⟩ :=
      ((Arguments.edits_clear server force).bind_pure _).exists_modified h
    exact ⟨r.outcome, Outcome.ofText?_text _,
      .of_iff hmodified trivial rfl (Arguments.outcome_clearIn hmodified.change)⟩
  | setVariables server pairs =>
    obtain ⟨f, ⟨parsed, -, rfl⟩, r, x, x', rfl, hmodified⟩ :=
      ((Variables.edits_set server pairs).bind_pure _).exists_modified h
    exact ⟨r.outcome, Outcome.ofText?_text _,
      .of_iff hmodified trivial rfl (Variables.outcome_setIn hmodified.change)⟩
  | removeVariables server keys =>
    obtain ⟨f, rfl, r, x, x', rfl, hmodified⟩ :=
      ((Variables.edits_remove server keys).bind_pure _).exists_modified h
    exact ⟨r.outcome, Outcome.ofText?_text _,
      .of_iff hmodified trivial rfl (Variables.outcome_removeIn hmodified.change)⟩
  | clearVariables server force =>
    obtain ⟨f, rfl, r, x, x', rfl, hmodified⟩ :=
      ((Variables.edits_clear server force).bind_pure _).exists_modified h
    exact ⟨r.outcome, Outcome.ofText?_text _,
      .of_iff hmodified trivial rfl (Variables.outcome_clearIn hmodified.change)⟩
  | _ => cases hedits

/-- The results of requests that change the contract. -/
theorem told_of_contract {request : Request} (hedits : request.editsContract = true)
    (h : (perform locs request).runOn t = (.ok o, t')) :
    Tells locs request locs.contract t t' o := by
  cases request with
  | setSettings assignments =>
    obtain ⟨f, ⟨pairs, hparsed, rfl⟩, r, k, k', rfl, hmodified⟩ :=
      ((Settings.edits_set assignments).bind_pure _).exists_modified h
    obtain ⟨d', hd', hprune⟩ := Contract.of_editDaemon hmodified.change
    have hiff := Settings.outcome_setIn hparsed hd'
    rw [← hprune] at hiff
    have hrange := Settings.keepsRange_set pairs _ _ _ (inRange_of_load hmodified.load)
      hmodified.change
    exact ⟨r.outcome, Outcome.ofText?_text _, .of_modified hmodified hrange k'.prune_prune
      (fun hsame hagrees => hiff.2 ⟨hsame, hagrees⟩)
      fun hnoop => ⟨(hiff.1 hnoop).2, fun _ => (hiff.1 hnoop).1⟩⟩
  | removeSettings names =>
    obtain ⟨f, rfl, r, k, k', rfl, hmodified⟩ :=
      ((Settings.edits_remove names).bind_pure _).exists_modified h
    obtain ⟨d', hd', hprune⟩ := Contract.of_editDaemon hmodified.change
    exact ⟨r.outcome, Outcome.ofText?_text _, .of_contract hmodified
      (Settings.keepsRange_remove names) ((Settings.outcome_removeIn hd').trans hprune.symm)⟩
  | addPlugin addition =>
    obtain ⟨f, rfl, outcome, k, k', rfl, hmodified⟩ :=
      ((Plugins.edits_add addition).bind_pure _).exists_modified h
    obtain ⟨cat', hcat', hprune⟩ := Contract.of_editPlugins hmodified.change
    exact ⟨outcome, Outcome.ofText?_text _, .of_contract hmodified
      (keepsDaemon_editPlugins _).keepsRange ((Plugins.outcome_addIn hcat').trans hprune.symm)⟩
  | setPlugin update =>
    obtain ⟨f, ⟨target, -, rfl⟩, r, k, k', rfl, hmodified⟩ :=
      ((Plugins.edits_set update).bind_pure _).exists_modified h
    obtain ⟨cat', hcat', hprune⟩ := Contract.of_editPlugins hmodified.change
    exact ⟨r.outcome, Outcome.ofText?_text _, .of_contract hmodified
      (keepsDaemon_editPlugins _).keepsRange ((Plugins.outcome_setIn hcat').trans hprune.symm)⟩
  | movePlugin c name move =>
    obtain ⟨f, rfl, r, k, k', rfl, hmodified⟩ :=
      ((Plugins.edits_move c name move).bind_pure _).exists_modified h
    obtain ⟨cat', hcat', hprune⟩ := Contract.of_editPlugins hmodified.change
    obtain ⟨hsame, hnoop⟩ := Plugins.outcome_moveIn hcat'
    have hrange := (keepsDaemon_editPlugins _).keepsRange _ _ _ (inRange_of_load hmodified.load)
      hmodified.change
    exact ⟨r.outcome, Outcome.ofText?_text _, .of_modified hmodified hrange k'.prune_prune
      (fun h _ => hsame (hprune.1 h))
      fun ho => ⟨trivial, fun hsound => hprune.2 (hnoop ho fun hc => hsound hc k hmodified.load)⟩⟩
  | removePlugin c name =>
    obtain ⟨f, rfl, outcome, k, k', rfl, hmodified⟩ :=
      ((Plugins.edits_remove c name).bind_pure _).exists_modified h
    obtain ⟨cat', hcat', hprune⟩ := Contract.of_editPlugins hmodified.change
    exact ⟨outcome, Outcome.ofText?_text _, .of_contract hmodified
      (keepsDaemon_editPlugins _).keepsRange ((Catalogue.outcome_delete hcat').trans hprune.symm)⟩
  | setTools server tools | removeTools server tools =>
    obtain ⟨f, rfl, r, k, k', rfl, hmodified⟩ :=
      ((Tools.edits_edit _ server tools _).bind_pure _).exists_modified h
    exact ⟨r.outcome, Outcome.ofText?_text _, .of_contract hmodified
      (Tools.keepsDaemon_edit server _).keepsRange (Tools.outcome_editIn hmodified.change)⟩
  | removeServer server =>
    obtain ⟨f, rfl, outcome, k, k', rfl, hmodified⟩ :=
      ((Servers.edits_remove server).bind_pure _).exists_modified h
    exact ⟨outcome, Outcome.ofText?_text _, .of_contract hmodified
      (Servers.keepsDaemon_remove server).keepsRange
      (Contract.outcome_deleteServer hmodified.change)⟩
  | _ => cases hedits

/-! ### The result -/

/-- A request that changes a document and succeeds reports that nothing has changed exactly if its
file has the bytes that it had, for all documents that can be loaded, valid or not. The exceptions
are settings that are different values of one key: these report a change although the file may be
the same in the end. Of a plugin that moves within its category, that holds if it is alone there
with its name; if it is not, a file that is the same is still reported to be. -/
theorem result_tells_of_file (locs : Locations) (request : Request) (p : Path) (t t' : FileTree)
    (o : Output) (hp : request.document? locs = some p)
    (h : (perform locs request).runOn t = (.ok o, t')) :
    ∃ outcome, o.outcome? = some outcome ∧
      (request.MovesAlone locs t →
        (outcome = .noop ↔ t'.read p = t.read p ∧ request.Agrees)) ∧
      (t'.read p = t.read p → request.Agrees → outcome = .noop) := by
  have htells : Tells locs request p t t' o := by
    rw [Request.document?] at hp
    split at hp
    · rename_i hedits
      cases hp
      exact told_of_contract hedits h
    · split at hp
      · rename_i hedits
        cases hp
        exact told_of_context hedits h
      · cases hp
  obtain ⟨outcome, hword, htold⟩ := htells
  refine ⟨outcome, hword, fun halone => ⟨fun hnoop => ?_, fun h => htold.noop h.1 h.2⟩, htold.noop⟩
  exact ⟨htold.unchanged hnoop halone, htold.agrees hnoop⟩

/-- The headers are assigned as they are. -/
theorem result_tells_of_file_sameHeaders :
    ∃ o, ∃ t' : FileTree,
      (perform ⟨⟨"c.toml"⟩, ⟨"x.toml"⟩⟩ (.setSettings ["api.cors.allow_headers= A"])).runOn
        headersTree = (.ok o, t') ∧
      o.outcome? = some .noop ∧ t'.read ⟨"c.toml"⟩ = headersTree.read ⟨"c.toml"⟩ := by
  obtain ⟨t', ht'⟩ := exists_set_of_writable ⟨⟨"c.toml"⟩, ⟨"x.toml"⟩⟩
    ["api.cors.allow_headers= A"] load_headersTree rfl rfl rfl writable_headersTree
  have hperform : (perform ⟨⟨"c.toml"⟩, ⟨"x.toml"⟩⟩
      (.setSettings ["api.cors.allow_headers= A"])).runOn headersTree = (.ok _, t') :=
    Action.runOn_bind_of_ok ht'
  obtain ⟨outcome, hword, htells, -⟩ := result_tells_of_file _ _ _ _ _ _ rfl hperform
  obtain rfl : Outcome.noop = outcome := Option.some.inj hword
  exact ⟨_, t', hperform, hword, ((htells trivial).1 rfl).1⟩

/-- A contract with an address and with two plugins of one name. -/
def namesakesContract : Contract where
  daemon := some { api := some { addr := some ":90" } }
  plugins := some (({} : Catalogue).withPlugins .audit
    [{ name := "a", flows := { request := true } }, { name := "a", flows := { response := true } }])

/-- The contract in its file. -/
def namesakesTree : FileTree where
  entries := [(["c.toml"], .file (Document.print namesakesContract).toUTF8)]
  workingDir := []

theorem load_namesakesTree :
    (Store.load ⟨"c.toml"⟩).runOn namesakesTree = (.ok namesakesContract, namesakesTree) :=
  Store.load_treeOf fun _ h => nomatch h

/-- An address that is assigned and taken back is reported although the file is the same. A plugin
that changes places with one of its name is not reported although the file is another. -/
theorem results_against_files :
    (∃ o, ∃ t' : FileTree,
      (perform ⟨⟨"c.toml"⟩, ⟨"x.toml"⟩⟩ (.setSettings ["api.addr=:80", "api.addr=:90"])).runOn
        namesakesTree = (.ok o, t') ∧
      o.outcome? = some .updated ∧ t'.read ⟨"c.toml"⟩ = namesakesTree.read ⟨"c.toml"⟩) ∧
    ∃ o, ∃ t' : FileTree,
      (perform ⟨⟨"c.toml"⟩, ⟨"x.toml"⟩⟩
        (.movePlugin .audit "a" { placement := some (.position 2) })).runOn namesakesTree =
          (.ok o, t') ∧
      o.outcome? = some .noop ∧ t'.read ⟨"c.toml"⟩ ≠ namesakesTree.read ⟨"c.toml"⟩ := by
  constructor
  · have hset := (Store.allOrNothing_modify ⟨"c.toml"⟩ (fun k : Contract => k.editDaemon
      (Settings.setIn [("api.addr", ":80"), ("api.addr", ":90")])) namesakesTree).unchanged _ _ _
      load_namesakesTree rfl rfl
    exact ⟨_, _, ((Settings.performs_set rfl rfl).bind_pure _).ok hset, rfl, rfl⟩
  · have hwritable := Store.writable_treeOf namesakesContract
    let f (k : Contract) :=
      k.editPlugins (Plugins.moveIn .audit "a" { placement := some (.position 2) })
    obtain ⟨t', ht'⟩ := Store.exists_runOn_modify (f := f) load_namesakesTree rfl hwritable
    refine ⟨_, t', ((Plugins.performs_move _ _ _).bind_pure _).ok ht', rfl, ?_⟩
    obtain ⟨k, k', hmodified⟩ := Store.exists_modified_of_modify ht'
    obtain rfl := hmodified.eq_of_load load_namesakesTree
    have hrange := (keepsDaemon_editPlugins _).keepsRange _ _ _
      (inRange_of_load hmodified.load) hmodified.change
    have hchange := hmodified.change
    cases hchange
    rw [Ne, hmodified.read_eq_iff hrange (Contract.prune_prune _)]
    decide

end FleetConfig.Cli
