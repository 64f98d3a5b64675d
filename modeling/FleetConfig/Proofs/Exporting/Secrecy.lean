import FleetConfig.Proofs.Document.Kinds
import FleetConfig.Proofs.Export.Fitting
import FleetConfig.Proofs.Exporting.Running
import FleetConfig.Proofs.Store.Comparing
import FleetConfig.Proofs.Store.Keeping

/-!
# What an export says of the execution context

An export tells what it drops of the execution context, and makes no other use of it. On trees that
differ only in the file of the execution context it writes the same, byte by byte; and the two
documents that it writes fit together.

## Main results

* `Exporting.Ready.of_sameBut` — what is exported does not depend on the execution context.
* `Exporting.runOn_run_of_sameBut` — nor does anything that is written.
-/

namespace FleetConfig.Exporting

open FleetConfig.Action (Blind)
open FileTree (SameBut)
open Store (Holds)

variable {locs : Locations} {r : Request} {t u t' u' : FileTree} {k : Contract}
  {a : Export.Artifacts} {rendered : String} {report : Report} {x y : Context}

theorem blind_writeContract (p : Path) (rendered : String) : Blind (writeContract p rendered) :=
  .bind (Store.blind_createParent _ p) fun _ => .within (Store.blind_writeFile p _) _

/-- A contract that is exported has servers. -/
theorem Ready.servers_ne_nil (h : Ready locs r t k a rendered) : k.servers ≠ [] := by
  obtain ⟨x, dropped, -, hexported⟩ := h.artifacts
  exact (Export.ofContract_eq_ok_iff.1 hexported).1

/-- The contract that is exported is in a file, and not in that of the execution context. -/
theorem Ready.read_contract (h : Ready locs r t k a rendered) (hx : Holds locs.context t x) :
    t.destination locs.contract ≠ t.destination locs.context ∧
      ∃ s : String, t.read locs.contract = .ok s.toUTF8 ∧ Document.parse s = .ok k := by
  obtain ⟨-, ⟨-, hempty⟩ | ⟨s, hread, hparse⟩⟩ := Store.runOn_load_eq_ok.1 h.contract
  · exact absurd (congrArg Contract.servers hempty) h.servers_ne_nil
  · refine ⟨fun heq => h.servers_ne_nil ?_, s, hread, hparse⟩
    obtain ⟨s', hread', hparse'⟩ := Store.holds_iff.1 hx
    have hbytes := FileTree.read_eq_of_destination_eq heq hread hread'
    rw [String.toByteArray_inj.1 hbytes] at hparse
    exact Document.servers_eq_nil_of_parse hparse hparse'

/-- What is exported does not depend on the execution context. -/
theorem Ready.of_sameBut (h : Ready locs r t k a rendered)
    (hbut : SameBut {t.destination locs.context} t u) (hx : Holds locs.context t x)
    (hy : Holds locs.context u y) : Ready locs r u k a rendered where
  context_ne_source := (hbut.sameFile_eq _ _).trans h.context_ne_source
  contract_ne_source := (hbut.sameFile_eq _ _).trans h.contract_ne_source
  outputs_differ := (hbut.sameFile_eq _ _).trans h.outputs_differ
  contract := by
    obtain ⟨hne, s, hread, hparse⟩ := h.read_contract hx
    rw [← hbut.read_eq hne] at hread
    exact Store.runOn_load_eq_ok.2 ⟨rfl, .inr ⟨s, hread, hparse⟩⟩
  artifacts := by
    obtain ⟨x₁, dropped, -, hexported⟩ := h.artifacts
    obtain ⟨hservers, heq⟩ := Export.ofContract_eq_ok_iff.1 hexported
    cases heq
    exact ⟨y, _, hy.2, Export.ofContract_eq_ok hservers y⟩
  rendered := h.rendered

/-- What is written does not depend on the execution context. -/
theorem runOn_run_of_sameBut (hbut : SameBut {t.destination locs.context} t u)
    (hx : Holds locs.context t x) (hy : Holds locs.context u y)
    (h : (run locs r).runOn t = (.ok report, t')) :
    ∃ u' portable rendered, (run locs r).runOn u = (.ok report, u') ∧
      SameBut {t.destination locs.context} t' u' ∧
      t'.read r.contextOutput = .ok portable ∧ u'.read r.contextOutput = .ok portable ∧
      t'.read r.contractOutput = .ok rendered ∧ u'.read r.contractOutput = .ok rendered := by
  obtain ⟨k, a, rendered, t₁, hready, hsave, hcontract, rfl⟩ := exists_ready_of_run h
  obtain ⟨u₁, hsaveU, hbut₁⟩ := (Store.blind_save _ _).runOn_eq_ok hbut hsave
  have hwrites := Store.runOn_save_eq_ok hsave
  -- The file of the portable context is no exception any more.
  have hsame :
      u₁.get? (t.destination r.contextOutput) = t₁.get? (t.destination r.contextOutput) := by
    rw [hwrites.get?_eq, ← hbut.destination_eq, (Store.runOn_save_eq_ok hsaveU).get?_eq]
  obtain ⟨u', hcontractU, hbut'⟩ :=
    (blind_writeContract _ _).runOn_eq_ok (hbut₁.diff hsame) hcontract
  have hrun := (hready.of_sameBut hbut hx hy).runOn_run_eq_ok hsaveU hcontractU
  have hwrites' := writes_of_writeContract hcontract
  obtain ⟨portable, hportable⟩ := hwrites'.exists_read hwrites.read_eq
  have hportableU : u'.read r.contextOutput = .ok portable := by
    rw [hbut'.read_eq, hportable]
    rw [hwrites'.destination_eq, hwrites.destination_eq]
    exact fun hmem => hmem.2 rfl
  exact ⟨u', portable, _, hrun, hbut'.mono fun _ hq => hq.1, hportable, hportableU,
    hwrites'.read_eq, (writes_of_writeContract hcontractU).read_eq⟩

/-- A valid contract with servers is exported to the same two documents beside all execution
contexts. They fit together, and what is dropped of an execution context is what it adds without
being required. And an export from one of two trees that differ only in the file of the execution
context, and can be loaded both, is one from the other; and if it succeeds on one, it succeeds on
the other and writes the same two files, byte by byte. -/
theorem export_fits_and_keeps_secrets :
    (∀ k : Contract, k.validate = .ok () → k.servers ≠ [] →
      ∃ a : Export.Artifacts, Export.FitsTogether k.servers a ∧
        ∀ x : Context, ∃ dropped, Export.ofContract k x = .ok ⟨a, dropped⟩ ∧
          ∀ d, d ∈ dropped ↔ Export.NotRequired k.servers x d) ∧
    ∀ (locs : Locations) (r : Request) (t u : FileTree) (x y : Context),
      SameBut {t.destination locs.context} t u →
      Holds locs.context t x → Holds locs.context u y →
      (∀ k a rendered, Ready locs r t k a rendered → Ready locs r u k a rendered) ∧
      ∀ report t', (run locs r).runOn t = (.ok report, t') →
        ∃ u' portable rendered, (run locs r).runOn u = (.ok report, u') ∧
          SameBut {t.destination locs.context} t' u' ∧
          t'.read r.contextOutput = .ok portable ∧ u'.read r.contextOutput = .ok portable ∧
          t'.read r.contractOutput = .ok rendered ∧ u'.read r.contractOutput = .ok rendered := by
  refine ⟨fun k hvalid hservers => ?_, fun locs r t u x y hbut hx hy => ⟨?_, ?_⟩⟩
  · have hss := (Contract.validate_eq_ok_iff.1 hvalid).servers
    exact ⟨_, Export.fitsTogether hss, fun x =>
      ⟨_, Export.ofContract_eq_ok hservers x, fun _ => Export.mem_droppedFrom_iff⟩⟩
  · exact fun k a rendered hready => hready.of_sameBut hbut hx hy
  · exact fun report t' h => runOn_run_of_sameBut hbut hx hy h

/-- What two hosts add to the server, one of them a secret. -/
def plainHost : Context where
  servers := .ofList [("gh-server", { args := ["--repo=public"] })]

/-- See `plainHost`. -/
def secretHost : Context where
  servers := .ofList [("gh-server", { env := .ofList [("GITHUB_TOKEN", "hunter2")] })]

/-- What a third host adds, some of it without being required. -/
def strayHost : Context where
  servers := .ofList [("gh-server", { args := ["--verbose", "--repo=x"] })]

private theorem sameBut_sourceTree (b b₁ b₂ : ByteArray) :
    SameBut {(sourceTree b b₁).destination ⟨"x.toml"⟩} (sourceTree b b₁) (sourceTree b b₂) := by
  refine ⟨rfl, rfl, fun q => ?_⟩
  by_cases hq : q = ["x.toml"]
  · subst hq
    exact .inr ⟨rfl, ⟨b₁, rfl⟩, b₂, rfl⟩
  · left
    simp only [FileTree.get?, sourceTree, List.lookup_cons, beq_eq_false_iff_ne.2 hq]

/-- The environment contract lists a placeholder that the portable context refers to, and an
argument is dropped if the server does not require it; and two hosts export the same. -/
theorem export_fits_and_keeps_secrets_two_hosts :
    (∃ a dropped, Export.ofContract oneServer strayHost = .ok ⟨a, dropped⟩ ∧
      a.RefersTo "MCPD__GH_SERVER__REPO" ∧
      .argument "gh-server" "--verbose" ∈ dropped ∧ .argument "gh-server" "--repo=x" ∉ dropped) ∧
    ∃ report t' u' portable rendered,
      (run ⟨⟨"c.toml"⟩, ⟨"x.toml"⟩⟩ directoryRequest).runOn
        (sourceTree contractText.toUTF8 (Document.print plainHost).toUTF8) = (.ok report, t') ∧
      (run ⟨⟨"c.toml"⟩, ⟨"x.toml"⟩⟩ directoryRequest).runOn
        (sourceTree contractText.toUTF8 (Document.print secretHost).toUTF8) = (.ok report, u') ∧
      t'.read ⟨"out/p.toml"⟩ = .ok portable ∧ u'.read ⟨"out/p.toml"⟩ = .ok portable ∧
      t'.read ⟨"out/.env"⟩ = .ok rendered ∧ u'.read ⟨"out/.env"⟩ = .ok rendered := by
  constructor
  · obtain ⟨a, hfits, hexported⟩ :=
      export_fits_and_keeps_secrets.1 oneServer rfl (List.cons_ne_nil _ _)
    obtain ⟨dropped, ha, -⟩ := hexported strayHost
    cases ha
    exact ⟨_, _, rfl, (hfits.keys _).1 (by decide), by decide, by decide⟩
  · have hholds : ∀ x : Context,
        Holds ⟨"x.toml"⟩ (sourceTree contractText.toUTF8 (Document.print x).toUTF8) x :=
      fun x => ⟨⟨_, rfl⟩, load_sourceTree _ x⟩
    obtain ⟨report, t', ht⟩ := runOn_run_directoryRequest plainHost
    obtain ⟨u', portable, rendered, hu, -, hreads⟩ :=
      (export_fits_and_keeps_secrets.2 ⟨⟨"c.toml"⟩, ⟨"x.toml"⟩⟩ directoryRequest _ _ plainHost
        secretHost (sameBut_sourceTree _ _ _) (hholds _) (hholds _)).2 report t' ht
    exact ⟨report, t', u', portable, rendered, ht, hu, hreads⟩

end FleetConfig.Exporting
