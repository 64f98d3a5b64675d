import FleetConfig.Proofs.Exporting.Running

/-!
# Exports that succeed

An export that succeeds has written the environment contract, and it is read back. The portable
context is read back too unless the environment contract has been written over it, and the execution
context is as it was unless one of the two has been written over it. Neither happens to paths that
are told apart; it happens to paths that name one place without being seen to do so.

## Main results

* `Exporting.export_delivers` — what can be read after an export.
* `Exporting.export_overwrites_source` — an export that writes over the execution context.
* `Exporting.export_overwrites_itself` — an export that writes both documents to one file.
-/

namespace FleetConfig.Exporting

open Store (Writable Writes)

/-- What an export that succeeds has delivered. It exports the contract that is loaded, beside the
execution context that is loaded; the environment contract is read back; the portable context is
read back if the outputs are told apart; and the file at the place of the execution context is as it
was, be it there or not, if the outputs are told apart from it. -/
theorem export_delivers (locs : Locations) (r : Request) (t t' : FileTree) (report : Report)
    (h : (run locs r).runOn t = (.ok report, t')) :
    ∃ (k : Contract) (x : Context) (a : Export.Exported) (rendered : String),
      (Store.load locs.contract).runOn t = (.ok k, t) ∧
      (Store.load locs.context).runOn t = (.ok x, t) ∧
      Export.ofContract k x = .ok a ∧ a.render r.format = .ok rendered ∧
      t'.read r.contractOutput = .ok rendered.toUTF8 ∧
      (t.ToldApart r.contextOutput r.contractOutput →
        t'.read r.contextOutput = .ok (Document.print a.context).toUTF8) ∧
      (t.ToldApart r.contextOutput locs.context → t.ToldApart r.contractOutput locs.context →
        (∀ bytes, t'.get? (t.destination locs.context) = some (.file bytes) ↔
          t.get? (t.destination locs.context) = some (.file bytes)) ∧
        ∀ bytes, t.read locs.context = .ok bytes → t'.read locs.context = .ok bytes) := by
  obtain ⟨k, a, rendered, t₁, hready, hsave, hcontract, -⟩ := exists_ready_of_run h
  have hcontext : Writes _ (Document.print a.context).toUTF8 t t₁ := Store.runOn_save_eq_ok hsave
  have hcontract := writes_of_writeContract hcontract
  obtain ⟨x, dropped, hx, hexported⟩ := hready.artifacts
  refine ⟨k, x, _, rendered, hready.contract, hx, hexported, hready.rendered, hcontract.read_eq,
    fun hapart => ?_, fun hcontextApart hcontractApart => ?_⟩
  · have hne := FileTree.destination_ne hapart hready.outputs_differ
    rw [← hcontext.destination_eq, ← hcontext.destination_eq] at hne
    exact hcontract.read_of_ne hne hcontext.read_eq
  · have hcontextNe := (FileTree.destination_ne hcontextApart hready.context_ne_source).symm
    have hcontractNe := (FileTree.destination_ne hcontractApart hready.contract_ne_source).symm
    have hcontractNe₁ : t₁.destination locs.context ≠ t₁.destination r.contractOutput := by
      rwa [hcontext.destination_eq, hcontext.destination_eq]
    constructor
    · intro bytes
      rw [← hcontext.besides.file_iff hcontextNe, ← hcontext.destination_eq]
      exact hcontract.besides.file_iff hcontractNe₁ bytes
    · intro bytes hread
      exact hcontract.read_of_ne hcontractNe₁ (hcontext.read_of_ne hcontextNe hread)

/-- What a host adds to the server of the contract. -/
def hostContext : Context where
  servers := .ofList [("gh-server", { env := .ofList [("GITHUB_TOKEN", "abc")] })]

/-- The contract beside this context. -/
def hostTree : FileTree := sourceTree contractText.toUTF8 (Document.print hostContext).toUTF8

/-- Both documents are written to a new directory, beside an execution context with a secret. -/
theorem export_delivers_in_directory :
    ∃ report t', (run ⟨⟨"c.toml"⟩, ⟨"x.toml"⟩⟩ directoryRequest).runOn hostTree =
        (.ok report, t') ∧
      t'.read ⟨"out/p.toml"⟩ = .ok portableText.toUTF8 ∧
      t'.read ⟨"out/.env"⟩ = .ok environmentText.toUTF8 ∧
      t'.read ⟨"x.toml"⟩ = .ok (Document.print hostContext).toUTF8 := by
  have hready := ready_directoryRequest hostContext
  obtain ⟨report, t', hrun⟩ := runOn_run_directoryRequest hostContext
  obtain ⟨k, x, a, rendered, hk, -, ha, hrendered, hread, hportable, hsource⟩ :=
    export_delivers _ _ _ _ _ hrun
  cases hready.contract.symm.trans hk
  obtain ⟨-, rfl⟩ := Export.ofContract_eq_ok_iff.1 ha
  cases hready.rendered.symm.trans hrendered
  have hplain : FileTree.Plain ⟨"out/p.toml"⟩ ∧ FileTree.Plain ⟨"out/.env"⟩ ∧
      FileTree.Plain ⟨"x.toml"⟩ := by decide
  obtain ⟨hp, hq, hx⟩ := hplain
  have hkept := hsource (FileTree.toldApart_of_plain hp hx rfl)
    (FileTree.toldApart_of_plain hq hx rfl)
  exact ⟨report, t', hrun, hportable (FileTree.toldApart_of_plain hp hq rfl), hread,
    hkept.2 _ rfl⟩

/-- The execution context is written over if the path of the portable context goes to it through a
directory that is not there yet. -/
theorem export_overwrites_source :
    ∃ report t', (run ⟨⟨"c.toml"⟩, ⟨"x.toml"⟩⟩ ⟨⟨"new/../x.toml"⟩, ⟨".env"⟩, .dotenv⟩).runOn
        hostTree = (.ok report, t') ∧
      hostTree.read ⟨"x.toml"⟩ = .ok (Document.print hostContext).toUTF8 ∧
      t'.read ⟨"x.toml"⟩ = .ok portableText.toUTF8 ∧
      portableText.toUTF8 ≠ (Document.print hostContext).toUTF8 := by
  have hready := ready_contractText (p := ⟨"new/../x.toml"⟩) (q := ⟨".env"⟩) rfl
    (load_sourceTree _ hostContext) rfl rfl rfl
  have hcontext : ∀ b b', Writable ⟨"new/../x.toml"⟩ (sourceTree b b')
      ((sourceTree b b').put ["new"] .dir) ["x.toml"] :=
    fun b b' => .of_resolve 1000 rfl ⟨⟨"new/.."⟩, rfl, rfl⟩ rfl rfl rfl nofun
  have hcontract : ∀ b b' b₁, Writable ⟨".env"⟩
      (((sourceTree b b').put ["new"] .dir).put ["x.toml"] (.file b₁))
      (((sourceTree b b').put ["new"] .dir).put ["x.toml"] (.file b₁)) [".env"] :=
    fun b b' b₁ => .of_resolve 1000 rfl ⟨⟨""⟩, rfl, rfl⟩ rfl rfl rfl nofun
  have hread : ∀ b b' b₁ b₂,
      ((((sourceTree b b').put ["new"] .dir).put ["x.toml"] (.file b₁)).put
        [".env"] (.file b₂)).read ⟨"x.toml"⟩ = .ok b₁ := fun b b' b₁ b₂ => rfl
  have hrun := hready.runOn_run_of_writable (hcontext _ _) (hcontract _ _ _)
  refine ⟨_, _, hrun, rfl, hread _ _ _ _, fun heq => ?_⟩
  have hprinted : portableText = Document.print hostContext := String.toByteArray_inj.1 heq
  have hparsed := Context.parse_print_eq (Export.artifactsOf [Export.repositoryServer]).context
  rw [← portableText, hprinted, Context.parse_print_eq] at hparsed
  exact absurd (Except.ok.inj hparsed) (by decide)

/-- Both documents are written to one file if that is not there yet and its paths are spelled
differently. -/
theorem export_overwrites_itself :
    ∃ report t', (run ⟨⟨"c.toml"⟩, ⟨"x.toml"⟩⟩ ⟨⟨"out"⟩, ⟨"./out"⟩, .dotenv⟩).runOn hostTree =
        (.ok report, t') ∧
      t'.read ⟨"out"⟩ = .ok environmentText.toUTF8 := by
  have hready := ready_contractText (p := ⟨"out"⟩) (q := ⟨"./out"⟩) rfl
    (load_sourceTree _ hostContext) rfl rfl rfl
  have hcontext : ∀ b b', Writable ⟨"out"⟩ (sourceTree b b') (sourceTree b b') ["out"] :=
    fun b b' => .of_resolve 1000 rfl ⟨⟨""⟩, rfl, rfl⟩ rfl rfl rfl nofun
  have hcontract : ∀ b b' b₁, Writable ⟨"./out"⟩ ((sourceTree b b').put ["out"] (.file b₁))
      ((sourceTree b b').put ["out"] (.file b₁)) ["out"] :=
    fun b b' b₁ => .of_resolve 1000 rfl ⟨⟨"."⟩, rfl, rfl⟩ rfl rfl rfl nofun
  have hread : ∀ b b' b₁ b₂,
      (((sourceTree b b').put ["out"] (.file b₁)).put ["out"] (.file b₂)).read ⟨"out"⟩ = .ok b₂ :=
    fun b b' b₁ b₂ => rfl
  have hrun := hready.runOn_run_of_writable (hcontext _ _) (hcontract _ _ _)
  exact ⟨_, _, hrun, hread _ _ _ _⟩

end FleetConfig.Exporting
