import FleetConfig.Command.Exporting
import FleetConfig.Proofs.Export.Artifacts
import FleetConfig.Proofs.Files.Reaching
import FleetConfig.Proofs.Store.Saving

/-!
# What an export does to the files

An export is refused before anything is written, or it comes to write its two documents. What it
writes depends on the contract alone. The portable context is written first; if the environment
contract cannot be written then, the file of the portable context is put back.

## Main definitions

* `Exporting.Ready` — nothing about an export can be refused.

## Main results

* `Exporting.runOn_run_cases` — an export is refused, or it is ready and writes.
* `Exporting.runOn_writeBoth_eq_ok`, `Exporting.runOn_writeBoth_eq_error` — how writing ends.
-/

namespace FleetConfig.Exporting

open FileTree (Grown)
open Store (Writable Writes writeFile)

variable {locs : Locations} {r : Request} {t t' : FileTree} {k : Contract} {a : Export.Artifacts}
  {rendered : String}

/-! ### Before writing -/

/-- Nothing about an export can be refused: its outputs are seen to be two files, neither of which
is the execution context; both documents are loaded; and these are what is exported, whatever is
dropped of the execution context. -/
structure Ready (locs : Locations) (r : Request) (t : FileTree) (k : Contract)
    (a : Export.Artifacts) (rendered : String) : Prop where
  context_ne_source : t.sameFile r.contextOutput locs.context = false
  contract_ne_source : t.sameFile r.contractOutput locs.context = false
  outputs_differ : t.sameFile r.contextOutput r.contractOutput = false
  contract : (Store.load locs.contract).runOn t = (.ok k, t)
  artifacts : ∃ (x : Context) (dropped : List Export.Dropped),
    (Store.load locs.context).runOn t = (.ok x, t) ∧ Export.ofContract k x = .ok ⟨a, dropped⟩
  rendered : a.render r.format = .ok rendered

/-- What is reported of an export. -/
def report (r : Request) (k : Contract) (a : Export.Artifacts) : Report where
  contextOutput := r.contextOutput
  contractOutput := r.contractOutput
  servers := k.servers.length
  placeholders := a.contract.entries.length

theorem sameFile_apply (t : FileTree) (p q : Path) :
    (FileAccess.sameFile p q : StateM FileTree Bool) t = (t.sameFile p q, t) := by
  have hlocate : ∀ p : Path, (FileAccess.locate p : StateM FileTree (Option Place)) t =
      ((t.find? p).map Prod.fst, t) := fun p => rfl
  rw [FileAccess.sameFile, Action.bind_apply, hlocate, Action.bind_apply, hlocate,
    FileTree.sameFile]
  cases t.find? p <;> cases t.find? q <;> rfl

/-- Two paths are refused if they are seen to lead to one file. -/
theorem runOn_refuseSame (p q : Path) (e : ConfigError) :
    (do if ← liftM (FileAccess.sameFile p q : StateM FileTree Bool) then Action.refuse e :
      Action (StateM FileTree) Unit).runOn t =
      (if t.sameFile p q then .error (.ofError e) else .ok (), t) := by
  rw [Action.runOn_bind, Action.runOn_liftM, sameFile_apply]
  cases t.sameFile p q <;> rfl

private theorem refuseSame_eq_ok {same : Bool} {f : Failure} :
    ((if same then .error f else .ok (), t) : Except Failure Unit × FileTree) = (.ok (), t') ↔
      same = false ∧ t' = t := by
  cases same <;> simp [eq_comm]

theorem runOn_guardSource_eq_ok {output : Path} :
    (guardSource locs output).runOn t = (.ok (), t') ↔
      t.sameFile output locs.context = false ∧ t' = t := by
  rw [guardSource, runOn_refuseSame, refuseSame_eq_ok]

theorem runOn_guardOutputs_eq_ok :
    (guardOutputs r).runOn t = (.ok (), t') ↔
      t.sameFile r.contextOutput r.contractOutput = false ∧ t' = t := by
  rw [guardOutputs, runOn_refuseSame, refuseSame_eq_ok]

/-- What is done before anything is written. -/
def prepare (locs : Locations) (r : Request) :
    Action (StateM FileTree) (Contract × Export.Artifacts × String) := do
  guardSource locs r.contextOutput
  guardSource locs r.contractOutput
  guardOutputs r
  let k : Contract ← Store.load locs.contract
  let x : Context ← Store.load locs.context
  let exported ← Action.ofExcept (Export.ofContract k x)
  let rendered ← Action.ofExcept (exported.render r.format)
  return (k, exported.toArtifacts, rendered)

theorem run_eq : (run locs r : Action (StateM FileTree) Report) =
    prepare locs r >>= fun p => do
      writeBoth r p.2.1.context p.2.2
      return report r p.1 p.2.1 := by
  simp only [run, prepare, bind_assoc, pure_bind]
  rfl

theorem readsOnly_prepare : Action.ReadsOnly (prepare locs r) := by
  have hsame : ∀ (p q : Path) (e : ConfigError), Action.ReadsOnly (do
      if ← liftM (FileAccess.sameFile p q : StateM FileTree Bool) then Action.refuse e) :=
    fun p q e t => by rw [runOn_refuseSame]
  refine (hsame _ _ _).bind fun _ => (hsame _ _ _).bind fun _ => (hsame _ _ _).bind fun _ => ?_
  refine Store.readsOnly_load.bind fun k => Store.readsOnly_load.bind fun _ => ?_
  exact .bind (.ofExcept _) fun exported => .bind (.ofExcept _) fun rendered => .pure _

theorem runOn_prepare_eq_ok_iff :
    (prepare locs r).runOn t = (.ok (k, a, rendered), t) ↔ Ready locs r t k a rendered := by
  constructor
  · intro h
    obtain ⟨_, _, hguard, h⟩ := Action.runOn_bind_eq_ok.1 h
    obtain ⟨hcontextOutput, rfl⟩ := runOn_guardSource_eq_ok.1 hguard
    obtain ⟨_, _, hguard, h⟩ := Action.runOn_bind_eq_ok.1 h
    obtain ⟨hcontractOutput, rfl⟩ := runOn_guardSource_eq_ok.1 hguard
    obtain ⟨_, _, hguard, h⟩ := Action.runOn_bind_eq_ok.1 h
    obtain ⟨houtputs, rfl⟩ := runOn_guardOutputs_eq_ok.1 hguard
    obtain ⟨k', _, hk, h⟩ := Action.runOn_bind_eq_ok.1 h
    obtain rfl := Store.readsOnly_load.eq_of_runOn hk
    obtain ⟨x, _, hx, h⟩ := Action.runOn_bind_eq_ok.1 h
    obtain rfl := Store.readsOnly_load.eq_of_runOn hx
    obtain ⟨exported, _, hofContract, h⟩ := Action.runOn_bind_eq_ok.1 h
    obtain ⟨hexported, rfl⟩ := Action.runOn_ofExcept_eq_ok.1 hofContract
    obtain ⟨rendered', _, hrender, h⟩ := Action.runOn_bind_eq_ok.1 h
    obtain ⟨hrendered, rfl⟩ := Action.runOn_ofExcept_eq_ok.1 hrender
    cases h
    exact ⟨hcontextOutput, hcontractOutput, houtputs, hk, ⟨x, exported.dropped, hx, hexported⟩,
      hrendered⟩
  · intro h
    obtain ⟨x, dropped, hx, hexported⟩ := h.artifacts
    rw [prepare, Action.runOn_bind_of_ok (runOn_guardSource_eq_ok.2 ⟨h.context_ne_source, rfl⟩),
      Action.runOn_bind_of_ok (runOn_guardSource_eq_ok.2 ⟨h.contract_ne_source, rfl⟩),
      Action.runOn_bind_of_ok (runOn_guardOutputs_eq_ok.2 ⟨h.outputs_differ, rfl⟩),
      Action.runOn_bind_of_ok h.contract, Action.runOn_bind_of_ok hx,
      Action.runOn_bind_of_ok (Action.runOn_ofExcept_eq_ok.2 ⟨hexported, rfl⟩),
      Action.runOn_bind_of_ok (Action.runOn_ofExcept_eq_ok.2 ⟨h.rendered, rfl⟩)]
    rfl

/-- An export that is ready writes. -/
theorem Ready.runOn_run (h : Ready locs r t k a rendered) :
    (run locs r).runOn t =
      (((writeBoth r a.context rendered).runOn t).1.map fun _ => report r k a,
        ((writeBoth r a.context rendered).runOn t).2) := by
  rw [run_eq, Action.runOn_bind_of_ok (runOn_prepare_eq_ok_iff.2 h), Action.runOn_bind]
  rcases (writeBoth r a.context rendered).runOn t with ⟨e | _, t'⟩ <;> rfl

/-- An export is refused, and nothing is changed, or it is ready. -/
theorem runOn_run_cases (locs : Locations) (r : Request) (t : FileTree) :
    (∃ e, (run locs r).runOn t = (.error e, t)) ∨
      ∃ k a rendered, Ready locs r t k a rendered := by
  rcases hprepare : (prepare locs r).runOn t with ⟨e | ⟨k, a, rendered⟩, t'⟩
  · obtain rfl := readsOnly_prepare.eq_of_runOn hprepare
    refine .inl ⟨e, ?_⟩
    rw [run_eq, Action.runOn_bind, hprepare]
  · obtain rfl := readsOnly_prepare.eq_of_runOn hprepare
    exact .inr ⟨k, a, rendered, runOn_prepare_eq_ok_iff.1 hprepare⟩

/-! ### Writing -/

variable {x : Context} {e : Failure}

theorem writes_of_writeContract {p : Path}
    (h : (writeContract p rendered).runOn t = (.ok (), t')) : Writes p rendered.toUTF8 t t' := by
  obtain ⟨t₁, hgrown, ⟨⟨_, heq⟩, -⟩ | hwrite⟩ := Store.runOn_createParent_bind h
  · cases heq
  · exact (Store.runOn_writeFile_eq_ok (Action.runOn_within_eq_ok.1 hwrite)).of_grown hgrown

theorem grown_of_writeContract {p : Path}
    (h : (writeContract p rendered).runOn t = (.error e, t')) : Grown t t' := by
  obtain ⟨t₁, hgrown, ⟨-, rfl⟩ | hwrite⟩ := Store.runOn_createParent_bind h
  · exact hgrown
  · obtain ⟨_, hwrite⟩ := Action.runOn_within_eq_error hwrite
    rwa [Store.runOn_writeFile_eq_error hwrite]

/-- The portable context is saved first. If the environment contract cannot be written then, the
file of the portable context is put back. -/
theorem runOn_writeBoth :
    (writeBoth r x rendered).runOn t =
      match (Store.save r.contextOutput x).runOn t with
      | (.error e, t₁) =>
        (.error (e.within s!"Failed to write portable context: {r.contextOutput.text}"), t₁)
      | (.ok (), t₁) =>
        match (writeContract r.contractOutput rendered).runOn t₁ with
        | (.ok (), t₂) => (.ok (), t₂)
        | (.error e, t₂) =>
          (.error e, ((restore r.contextOutput (t.read r.contextOutput) :
            StateM FileTree Unit) t₂).2) := by
  rw [writeBoth, Action.runOn_bind, Action.runOn_liftM]
  show (Action.within _ (Store.save r.contextOutput x) >>= _).runOn t = _
  rw [Action.runOn_bind, Action.runOn_within]
  rcases (Store.save r.contextOutput x).runOn t with ⟨e | ⟨⟩, t₁⟩
  · rfl
  · dsimp only [Except.mapError]
    rcases hcontract : (writeContract r.contractOutput rendered).runOn t₁ with ⟨e | ⟨⟩, t₂⟩ <;>
      rw [Action.runOn_caught_bind hcontract] <;> rfl

/-- Writing succeeds if both documents are written one after the other. -/
theorem runOn_writeBoth_eq_ok_iff :
    (writeBoth r x rendered).runOn t = (.ok (), t') ↔
      ∃ t₁, (Store.save r.contextOutput x).runOn t = (.ok (), t₁) ∧
        (writeContract r.contractOutput rendered).runOn t₁ = (.ok (), t') := by
  rw [runOn_writeBoth]
  rcases (Store.save r.contextOutput x).runOn t with ⟨e | ⟨⟩, t₁⟩
  · simp
  · rcases hcontract : (writeContract r.contractOutput rendered).runOn t₁ with ⟨e | ⟨⟩, t₂⟩ <;>
      simp [hcontract]

/-- Writing fails if the portable context cannot be saved, or if it is saved and taken back. -/
theorem runOn_writeBoth_eq_error (h : (writeBoth r x rendered).runOn t = (.error e, t')) :
    (∃ e', (Store.save r.contextOutput x).runOn t = (.error e', t')) ∨
      ∃ t₁ t₂, (Store.save r.contextOutput x).runOn t = (.ok (), t₁) ∧
        (writeContract r.contractOutput rendered).runOn t₁ = (.error e, t₂) ∧
        t' = ((restore r.contextOutput (t.read r.contextOutput) : StateM FileTree Unit) t₂).2 := by
  rw [runOn_writeBoth] at h
  rcases hsave : (Store.save r.contextOutput x).runOn t with ⟨e' | ⟨⟩, t₁⟩ <;> rw [hsave] at h
  · cases h
    exact .inl ⟨e', rfl⟩
  · dsimp only at h
    rcases hcontract : (writeContract r.contractOutput rendered).runOn t₁ with ⟨e' | ⟨⟩, t₂⟩ <;>
      rw [hcontract] at h <;> cases h
    exact .inr ⟨t₁, t₂, rfl, hcontract, rfl⟩

/-- An export succeeds if both documents can be written one after the other. -/
theorem Ready.runOn_run_eq_ok {t₁ : FileTree} (h : Ready locs r t k a rendered)
    (hsave : (Store.save r.contextOutput a.context).runOn t = (.ok (), t₁))
    (hcontract : (writeContract r.contractOutput rendered).runOn t₁ = (.ok (), t')) :
    (run locs r).runOn t = (.ok (report r k a), t') := by
  rw [h.runOn_run, runOn_writeBoth_eq_ok_iff.2 ⟨t₁, hsave, hcontract⟩]
  rfl

/-- An export that is ready succeeds if both files can be written. -/
theorem Ready.runOn_run_of_writable {t₀ t₁ : FileTree} {place place' : Place}
    (h : Ready locs r t k a rendered) (hcontext : Writable r.contextOutput t t₀ place)
    (hcontract : Writable r.contractOutput
      (t₀.put place (.file (Document.print a.context).toUTF8)) t₁ place') :
    (run locs r).runOn t =
      (.ok (report r k a), t₁.put place' (.file rendered.toUTF8)) := by
  refine h.runOn_run_eq_ok (hcontext.save a.context) ?_
  show (writeContract r.contractOutput rendered).runOn
    (t₀.put place (.file (Document.print a.context).toUTF8)) = _
  rw [writeContract, Action.runOn_bind_of_ok (hcontract.createParent "directory")]
  exact Action.runOn_within_eq_ok.2 (hcontract.writeFile _)

/-- An export that succeeds has been ready, and has written both documents. -/
theorem exists_ready_of_run {rep : Report} (h : (run locs r).runOn t = (.ok rep, t')) :
    ∃ k a rendered t₁, Ready locs r t k a rendered ∧
      (Store.save r.contextOutput a.context).runOn t = (.ok (), t₁) ∧
      (writeContract r.contractOutput rendered).runOn t₁ = (.ok (), t') ∧ rep = report r k a := by
  rcases runOn_run_cases locs r t with ⟨e, hrefused⟩ | ⟨k, a, rendered, hready⟩
  · cases hrefused.symm.trans h
  · rw [hready.runOn_run] at h
    rcases hwrite : (writeBoth r a.context rendered).runOn t with ⟨e | ⟨⟩, t''⟩ <;>
      rw [hwrite] at h <;> cases h
    obtain ⟨t₁, hsave, hcontract⟩ := runOn_writeBoth_eq_ok_iff.1 hwrite
    exact ⟨k, a, rendered, t₁, hready, hsave, hcontract, rfl⟩

/-! ### A contract to export -/

/-- A contract with one server. -/
def oneServer : Contract where
  servers := [Export.repositoryServer]

/-- Its text. -/
def contractText : String := Document.print oneServer

/-- The environment contract of the server. -/
def environmentText : String := "MCPD__GH_SERVER__GITHUB_TOKEN=\nMCPD__GH_SERVER__REPO=\n"

/-- The portable context of the server. -/
def portableText : String :=
  Document.print (Export.artifactsOf [Export.repositoryServer]).context

theorem ready_contractText {p q : Path}
    (hcontract : t.read ⟨"c.toml"⟩ = .ok contractText.toUTF8)
    (hcontext : (Store.load ⟨"x.toml"⟩).runOn t = (.ok x, t))
    (hp : t.sameFile p ⟨"x.toml"⟩ = false) (hq : t.sameFile q ⟨"x.toml"⟩ = false)
    (hpq : t.sameFile p q = false) :
    Ready ⟨⟨"c.toml"⟩, ⟨"x.toml"⟩⟩ ⟨p, q, .dotenv⟩ t oneServer
      (Export.artifactsOf [Export.repositoryServer]) environmentText where
  context_ne_source := hp
  contract_ne_source := hq
  outputs_differ := hpq
  contract := Store.load_of_read hcontract fun _ hd => nomatch hd
  artifacts := ⟨x, _, hcontext, Export.ofContract_eq_ok (List.cons_ne_nil _ _) x⟩
  rendered := congrArg Except.ok (by decide :
    Export.dotenv (Export.artifactsOf [Export.repositoryServer]).contract = environmentText)

/-- The contract and the file of an execution context. -/
def sourceTree (contract context : ByteArray) : FileTree where
  entries := [(["c.toml"], .file contract), (["x.toml"], .file context)]
  workingDir := []

theorem load_sourceTree (b : ByteArray) (x : Context) :
    (Store.load ⟨"x.toml"⟩).runOn (sourceTree b (Document.print x).toUTF8) =
      (.ok x, sourceTree b (Document.print x).toUTF8) :=
  Store.load_of_read rfl trivial

/-- An export into a new directory. -/
def directoryRequest : Request where
  contextOutput := ⟨"out/p.toml"⟩
  contractOutput := ⟨"out/.env"⟩

theorem ready_directoryRequest (x : Context) :
    Ready ⟨⟨"c.toml"⟩, ⟨"x.toml"⟩⟩ directoryRequest
      (sourceTree contractText.toUTF8 (Document.print x).toUTF8) oneServer
      (Export.artifactsOf [Export.repositoryServer]) environmentText :=
  ready_contractText rfl (load_sourceTree _ x) rfl rfl rfl

/-- It succeeds beside any execution context. -/
theorem runOn_run_directoryRequest (x : Context) :
    ∃ report t', (run ⟨⟨"c.toml"⟩, ⟨"x.toml"⟩⟩ directoryRequest).runOn
      (sourceTree contractText.toUTF8 (Document.print x).toUTF8) = (.ok report, t') := by
  have hcontext : ∀ b b', Writable ⟨"out/p.toml"⟩ (sourceTree b b')
      ((sourceTree b b').put ["out"] .dir) ["out", "p.toml"] :=
    fun b b' => .of_resolve 1000 rfl ⟨⟨"out"⟩, rfl, rfl⟩ rfl rfl rfl nofun
  have hcontract : ∀ b b' b₁, Writable ⟨"out/.env"⟩
      (((sourceTree b b').put ["out"] .dir).put ["out", "p.toml"] (.file b₁))
      (((sourceTree b b').put ["out"] .dir).put ["out", "p.toml"] (.file b₁)) ["out", ".env"] :=
    fun b b' b₁ => .of_resolve 1000 rfl ⟨⟨"out"⟩, rfl, rfl⟩ rfl rfl rfl nofun
  exact ⟨_, _, (ready_directoryRequest x).runOn_run_of_writable (hcontext _ _) (hcontract _ _ _)⟩

end FleetConfig.Exporting
