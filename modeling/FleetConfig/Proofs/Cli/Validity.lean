import FleetConfig.Cli.Run
import FleetConfig.Proofs.Command.Edits
import FleetConfig.Proofs.Command.Validity
import FleetConfig.Proofs.Context.WellFormed
import FleetConfig.Proofs.Document.RoundTrip
import FleetConfig.Proofs.Store.Keeping

/-!
# Documents under requests

Requests that change the contract find a valid one or none, and leave a valid one or none. So a
contract that was valid once is valid after any number of such requests, whatever they ask for and
whether they succeed. In the same way requests that change arguments or variables keep the execution
context well-formed.

## Main definitions

* `Cli.Request.editsContract`, `Cli.Request.editsContext` — hold of requests that change the
  contract or the execution context.
* `Cli.performAll` — carries out requests one after another.

## Main results

* `Cli.keeps_perform` — one request leaves the file of the contract valid, or missing, and so any
  row of requests does.
* `Cli.keepsContext_perform` — one request leaves the context well-formed, or missing.
* `Cli.context_stays_well_formed` — so does any row of requests.
-/

namespace FleetConfig

open FleetConfig.Action (Keeps)
open Contract (KeepsValid)
open Store (Holds MissingOr)

/-- The file of a contract is missing or holds a valid contract whose durations can be written. -/
abbrev Store.MissingOrValid (p : Path) (t : FileTree) : Prop :=
  MissingOr (fun k : Contract => k.Valid ∧ k.InRange) p t

variable {α : Type} {p : Path} {locs : Locations}

/-- What is read from a file can be written, so only validity counts. -/
theorem Store.missingOrValid_iff {t : FileTree} : MissingOrValid p t ↔
    MissingOr (fun k : Contract => k.validate = .ok ()) p t := by
  constructor
  · intro h
    exact h.mono fun k _ hk => Contract.validate_eq_ok_iff.2 hk.1
  · intro h
    refine h.mono fun k hholds hk => ⟨Contract.validate_eq_ok_iff.1 hk, ?_⟩
    obtain ⟨s, -, hparse⟩ := Store.holds_iff.1 hholds
    exact Document.Lawful.inRange_of_parse s k hparse

/-- A change that keeps contracts valid keeps the file valid. -/
theorem Contract.KeepsValid.modify {f : Contract → Except ConfigError (α × Contract)}
    (h : KeepsValid f) : Keeps (Store.MissingOrValid p) (Store.modify p f) :=
  Store.keeps_modify ⟨.empty, fun _ hd => nomatch hd⟩ (fun _ hk => hk.2)
    (fun _ hk => ⟨hk.1.prune, hk.2.prune⟩) fun k a k' hk hf => h k a k' hk.1 hk.2 hf

/-! ### Requests -/

namespace Cli

/-- Holds of requests that change the contract: its settings, its plugins, its servers and their
tools. -/
def Request.editsContract : Request → Bool
  | .setSettings _ | .removeSettings _ | .addPlugin _ | .setPlugin _ | .movePlugin _ _ _
  | .removePlugin _ _ | .setTools _ _ | .removeTools _ _ | .removeServer _ => true
  | _ => false

/-- The files after some requests, each of which may succeed or fail. -/
def performAll (locs : Locations) (requests : List Request) (t : FileTree) : FileTree :=
  requests.foldl (fun t request => ((perform locs request).runOn t).2) t

/-- A request that changes the contract leaves its file valid, or missing. -/
theorem keeps_perform {request : Request} (h : request.editsContract = true) :
    Keeps (Store.MissingOrValid locs.contract) (perform locs request) := by
  cases request with
  | setSettings assignments =>
    refine ((Settings.edits_set assignments).bind_pure _).keeps ?_
    rintro f ⟨parsed, -, rfl⟩
    exact (Settings.keepsValid_set parsed).modify
  | removeSettings keys =>
    refine ((Settings.edits_remove keys).bind_pure _).keeps ?_
    rintro f rfl
    exact (Settings.keepsValid_remove keys).modify
  | addPlugin addition =>
    refine ((Plugins.edits_add addition).bind_pure _).keeps ?_
    rintro f rfl
    exact (Plugins.keepsValid_add addition).modify
  | setPlugin update =>
    refine ((Plugins.edits_set update).bind_pure _).keeps ?_
    rintro f ⟨target, -, rfl⟩
    exact (Plugins.keepsValid_set update target).modify
  | movePlugin c name move =>
    refine ((Plugins.edits_move c name move).bind_pure _).keeps ?_
    rintro f rfl
    exact (Plugins.keepsValid_move c name move).modify
  | removePlugin c name =>
    refine ((Plugins.edits_remove c name).bind_pure _).keeps ?_
    rintro f rfl
    exact (Plugins.keepsValid_remove c name).modify
  | setTools server tools | removeTools server tools =>
    refine ((Tools.edits_edit _ server tools _).bind_pure _).keeps ?_
    rintro f rfl
    exact (Tools.keepsValid_edit server _).modify
  | removeServer server =>
    refine ((Servers.edits_remove server).bind_pure _).keeps ?_
    rintro f rfl
    exact (Servers.keepsValid_remove server).modify
  | _ => cases h

/-- If the contract is missing or valid, it is missing or valid after any row of requests that
change it, with any arguments, each of which may succeed or fail. A contract is missing if there is
no file at the place that its path names. -/
theorem contract_stays_valid (locs : Locations) (requests : List Request)
    (hedits : ∀ request ∈ requests, request.editsContract = true) (t : FileTree)
    (h : MissingOr (fun k : Contract => k.validate = .ok ()) locs.contract t) :
    MissingOr (fun k : Contract => k.validate = .ok ()) locs.contract
      (performAll locs requests t) := by
  rw [← Store.missingOrValid_iff] at h ⊢
  induction requests generalizing t with
  | nil => exact h
  | cons request requests ih =>
    have hfirst := hedits request List.mem_cons_self
    have hrest := fun r hr => hedits r (List.mem_cons_of_mem _ hr)
    exact ih hrest _ (keeps_perform hfirst t h)

/-- A contract with one server gets a plugin, which is moved to another category, and is refused a
setting. -/
theorem contract_stays_valid_plugin_moved :
    MissingOr (fun k : Contract => k.validate = .ok ()) ⟨"c.toml"⟩
      (performAll ⟨⟨"c.toml"⟩, ⟨"x.toml"⟩⟩
        [.addPlugin { name := "p", category := .audit, flows := [.request] },
          .movePlugin .audit "p" { toCategory := some .content },
          .setSettings ["api.addr=nowhere"]]
        { entries := [(["c.toml"], .file (Document.print
            ({ servers := [{ name := "a", package := "p" }] } : Contract)).toUTF8)]
          workingDir := [] }) := by
  refine contract_stays_valid ⟨⟨"c.toml"⟩, ⟨"x.toml"⟩⟩ _ ?_ _ (.inr ⟨_, Store.holds_iff.2
    ⟨_, rfl, Contract.parse_print_eq fun _ h => nomatch h⟩, rfl⟩)
  simp only [List.forall_mem_cons, Request.editsContract, true_and, List.not_mem_nil,
    false_implies, implies_true]

end Cli

/-! ### Execution contexts -/

/-- A change that keeps contexts well-formed keeps the file well-formed. -/
theorem Context.keeps_modify {f : Context → Except ConfigError (α × Context)}
    (hf : ∀ x a x', x.WellFormed → f x = .ok (a, x') → x'.WellFormed) :
    Keeps (MissingOr Context.WellFormed p) (Store.modify p f) :=
  Store.keeps_modify .empty (fun _ _ => trivial) (fun _ h => h) hf

namespace Cli

/-- Holds of requests that change the execution context. -/
def Request.editsContext : Request → Bool
  | .setArguments _ _ _ | .removeArguments _ _ | .clearArguments _ _ | .setVariables _ _ |
    .removeVariables _ _ | .clearVariables _ _ => true
  | _ => false

/-- A request that changes the execution context leaves its file well-formed, or missing. -/
theorem keepsContext_perform {request : Request} (h : request.editsContext = true) :
    Keeps (MissingOr Context.WellFormed locs.context) (perform locs request) := by
  cases request with
  | setArguments server switches tokens =>
    refine ((Arguments.edits_set switches server tokens).bind_pure _).keeps ?_
    rintro f rfl
    exact Context.keeps_modify fun x r x' hx hset =>
      Arguments.wellFormed_setIn (Flag.canonical_normalize switches tokens) hx hset
  | removeArguments server names =>
    refine ((Arguments.edits_remove server names).bind_pure _).keeps ?_
    rintro f rfl
    exact Context.keeps_modify fun x r x' => Arguments.wellFormed_removeIn
  | clearArguments server force =>
    refine ((Arguments.edits_clear server force).bind_pure _).keeps ?_
    rintro f rfl
    exact Context.keeps_modify fun x r x' => Arguments.wellFormed_clearIn
  | setVariables server pairs =>
    refine ((Variables.edits_set server pairs).bind_pure _).keeps ?_
    rintro f ⟨parsed, hparsed, rfl⟩
    exact Context.keeps_modify fun x r x' hx hset =>
      Variables.wellFormed_setIn (Variables.isName_of_parsed hparsed) hx hset
  | removeVariables server keys =>
    refine ((Variables.edits_remove server keys).bind_pure _).keeps ?_
    rintro f rfl
    exact Context.keeps_modify fun x r x' => Variables.wellFormed_removeIn
  | clearVariables server force =>
    refine ((Variables.edits_clear server force).bind_pure _).keeps ?_
    rintro f rfl
    exact Context.keeps_modify fun x r x' => Variables.wellFormed_clearIn
  | _ => cases h

/-- If the execution context is missing or well-formed, it is missing or well-formed after any row
of requests that change it, with any servers, tokens and texts, each of which may succeed or fail. A
context is missing if there is no file at the place that its path names. -/
theorem context_stays_well_formed (locs : Locations) (requests : List Request)
    (hedits : ∀ request ∈ requests, request.editsContext = true) (t : FileTree)
    (h : MissingOr Context.WellFormed locs.context t) :
    MissingOr Context.WellFormed locs.context (performAll locs requests t) := by
  induction requests generalizing t with
  | nil => exact h
  | cons request requests ih =>
    have hfirst := hedits request List.mem_cons_self
    have hrest := fun r hr => hedits r (List.mem_cons_of_mem _ hr)
    exact ih hrest _ (keepsContext_perform hfirst t h)

/-- A server gets arguments and a variable, a name with a blank is refused, and the server is
emptied again. -/
theorem context_stays_well_formed_emptied :
    MissingOr Context.WellFormed ⟨"x.toml"⟩
      (performAll ⟨⟨"c.toml"⟩, ⟨"x.toml"⟩⟩
        [.setArguments "time" ["--verbose"] [" --zone", "UTC ", "--verbose", "run", "run"],
          .setVariables "time" ["TZ=UTC", "A B=1"], .setVariables "time" [" TZ = UTC"],
          .setArguments "bad name" [] ["--x"], .removeArguments "time" ["run"],
          .clearArguments "time" true, .removeVariables "time" ["TZ"]]
        { entries := [], workingDir := [] }) := by
  refine context_stays_well_formed ⟨⟨"c.toml"⟩, ⟨"x.toml"⟩⟩ _ ?_ _ (.inl nofun)
  simp only [List.forall_mem_cons, Request.editsContext, true_and, List.not_mem_nil,
    false_implies, implies_true]

end Cli

end FleetConfig
