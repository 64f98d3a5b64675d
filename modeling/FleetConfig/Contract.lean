import FleetConfig.Daemon.Edit
import FleetConfig.Daemon.Validation
import FleetConfig.Plugin.Move
import FleetConfig.Server

/-!
# Contracts

The contract of a project declares its servers, the settings of the daemon and the plugins. A name
addresses the first server that has it.

## Main definitions

* `Contract` — what a project declares.
* `Contract.upsertServerEdit`, `Contract.deleteServerEdit` — changes to its servers.
* `Contract.inPlugins`, `Contract.inDaemon` — changes to a section, which open it in any case.
* `Contract.upsertServer`, `Contract.deleteServer`, `Contract.editPlugins`, `Contract.editDaemon` —
  what changes make, unless they are refused.
* `Contract.prune` — the contract without sections that say nothing.
* `Contract.violations`, `Contract.validate` — what is wrong with one.
-/

namespace FleetConfig

open Plugin (Category)

/-- What a project declares. -/
structure Contract where
  servers : List Server := []
  daemon : Option Daemon := none
  plugins : Option Catalogue := none
deriving DecidableEq, Inhabited

namespace Contract

/-! ### Servers -/

/-- The server of a name. -/
def server? (k : Contract) (name : String) : Option Server :=
  k.servers.find? fun s => s.name == name

/-- The place of the server of a name. -/
def indexOf? (k : Contract) (name : String) : Option Nat :=
  k.servers.findIdx? fun s => s.name == name

/-- The error that a server is not declared. -/
def serverNotFound (name : String) : ConfigError := .notFound s!"server '{name}'"

/-- Puts a server in the place of the one of its name, or at the end. -/
def upsertServerEdit (s : Server) : Edit Contract Outcome := do
  s.validate
  let k ← get
  match k.indexOf? s.name with
  | none =>
    set { k with servers := k.servers ++ [s] }
    return .created
  | some i =>
    if k.servers[i]? = some s then return .noop
    else
      set { k with servers := k.servers.set i s }
      return .updated

/-- The contract with a server put into it, unless that is refused. -/
def upsertServer (k : Contract) (s : Server) : Except ConfigError (Outcome × Contract) :=
  (upsertServerEdit s).made k

theorem upsertServer_eq (k : Contract) (s : Server) : k.upsertServer s = do
    s.validate
    match k.indexOf? s.name with
    | none => return (.created, { k with servers := k.servers ++ [s] })
    | some i =>
      if k.servers[i]? = some s then return (.noop, k)
      else return (.updated, { k with servers := k.servers.set i s }) := by
  rw [upsertServer, upsertServerEdit, Edit.made_bind_liftM]
  congr 1
  funext _
  rw [Edit.made_bind_get]
  split
  · rfl
  · split <;> rfl

/-- Removes the server of a name. -/
def deleteServerEdit (name : String) : Edit Contract Outcome := do
  let k ← get
  match k.indexOf? name with
  | none => throw (serverNotFound name)
  | some i =>
    set { k with servers := k.servers.eraseIdx i }
    return .deleted

/-- The contract without the server of a name, unless that is refused. -/
def deleteServer (k : Contract) (name : String) : Except ConfigError (Outcome × Contract) :=
  (deleteServerEdit name).made k

theorem deleteServer_eq (k : Contract) (name : String) : k.deleteServer name =
    match k.indexOf? name with
    | none => .error (serverNotFound name)
    | some i => .ok (.deleted, { k with servers := k.servers.eraseIdx i }) := by
  rw [deleteServer, deleteServerEdit, Edit.made_bind_get]
  split <;> rfl

/-! ### Sections -/

/-- The plugins, with an empty catalogue for an absent one. -/
def catalogue (k : Contract) : Catalogue := k.plugins.getD default

/-- The settings of the daemon, with none for an absent section. -/
def settings (k : Contract) : Daemon := k.daemon.getD default

/-- An edit of the plugins. The section is opened if it is absent, and stays open in any case. -/
def inPlugins {α : Type} (x : Edit Catalogue α) : Edit Contract α :=
  x.ofPart catalogue fun k cat => { k with plugins := some cat }

/-- An edit of the settings of the daemon. The section is opened if it is absent, and stays open in
any case. -/
def inDaemon {α : Type} (x : Edit Daemon α) : Edit Contract α :=
  x.ofPart settings fun k d => { k with daemon := some d }

/-- Replaces the plugins by what a function makes of them, if it makes something. -/
def onPlugins {α : Type} (k : Contract) (f : Catalogue → Except ConfigError (α × Catalogue)) :
    Except ConfigError α × Contract :=
  (inPlugins (.replacing f)).on k

/-- Replaces the settings of the daemon by what a function makes of them, if it makes something. -/
def onDaemon {α : Type} (k : Contract) (f : Daemon → Except ConfigError (α × Daemon)) :
    Except ConfigError α × Contract :=
  (inDaemon (.replacing f)).on k

/-- The contract with other plugins, unless the change is refused. -/
def editPlugins {α : Type} (k : Contract) (f : Catalogue → Except ConfigError (α × Catalogue)) :
    Except ConfigError (α × Contract) :=
  let (answer, k') := k.onPlugins f
  answer.map fun a => (a, k')

theorem editPlugins_eq {α : Type} (k : Contract)
    (f : Catalogue → Except ConfigError (α × Catalogue)) : k.editPlugins f = do
      let (a, cat) ← f k.catalogue
      return (a, { k with plugins := some cat }) := by
  rw [editPlugins, onPlugins, inPlugins, Edit.on_ofPart, Edit.on_replacing]
  cases f k.catalogue <;> rfl

/-- The plugins are what the change makes of them, and nothing else changes. -/
theorem editPlugins_eq_ok_iff {α : Type} {k k' : Contract} {a : α}
    {f : Catalogue → Except ConfigError (α × Catalogue)} : k.editPlugins f = .ok (a, k') ↔
      ∃ cat, f k.catalogue = .ok (a, cat) ∧ k' = { k with plugins := some cat } := by
  rw [editPlugins_eq]
  exact Edit.bind_put_eq_ok_iff fun cat => { k with plugins := some cat }

/-- The contract with other settings of the daemon, unless the change is refused. -/
def editDaemon {α : Type} (k : Contract) (f : Daemon → Except ConfigError (α × Daemon)) :
    Except ConfigError (α × Contract) :=
  let (answer, k') := k.onDaemon f
  answer.map fun a => (a, k')

theorem editDaemon_eq {α : Type} (k : Contract)
    (f : Daemon → Except ConfigError (α × Daemon)) : k.editDaemon f = do
      let (a, d) ← f k.settings
      return (a, { k with daemon := some d }) := by
  rw [editDaemon, onDaemon, inDaemon, Edit.on_ofPart, Edit.on_replacing]
  cases f k.settings <;> rfl

/-- The settings are what the change makes of them, and nothing else changes. -/
theorem editDaemon_eq_ok_iff {α : Type} {k k' : Contract} {a : α}
    {f : Daemon → Except ConfigError (α × Daemon)} : k.editDaemon f = .ok (a, k') ↔
      ∃ d, f k.settings = .ok (a, d) ∧ k' = { k with daemon := some d } := by
  rw [editDaemon_eq]
  exact Edit.bind_put_eq_ok_iff fun d => { k with daemon := some d }

/-- The plugins alone, or those of one category alone. -/
def onlyPlugins (k : Contract) (category : Option Category) : Contract where
  plugins := k.plugins.map fun cat => (category.map cat.only).getD cat

/-- Drops empty sections of the daemon, and the daemon and the plugins if they say nothing. -/
def prune (k : Contract) : Contract :=
  { k with
    daemon := (k.daemon.map Daemon.prune).filter (!·.isEmpty)
    plugins := k.plugins.filter (!·.isEmpty) }

/-! ### Validation -/

/-- What is wrong with a contract. -/
inductive Violation where
  | duplicateServer (name : String)
  | inServer (violation : Server.Violation)
  | inDaemon (violation : Daemon.Violation)
  | inPlugins (violation : Catalogue.Violation)

/-- The error that reports a violation. -/
def Violation.toError : Violation → ConfigError
  | duplicateServer name => .invalidValue "servers" s!"duplicate server '{name}'"
  | inServer violation => violation.toError
  | inDaemon violation => violation.toError
  | inPlugins violation => violation.toError

/-- The violations of the servers after those named in `seen`. -/
def serverViolations (seen : List String) : List Server → List Violation
  | [] => []
  | s :: ss =>
    (if seen.contains s.name then [.duplicateServer s.name] else []) ++
      s.violations.map .inServer ++ serverViolations (s.name :: seen) ss

/-- All violations, in the order of their report. -/
def violations (k : Contract) : List Violation :=
  serverViolations [] k.servers ++
    k.daemon.toList.flatMap (fun d => d.violations.map .inDaemon) ++
    k.plugins.toList.flatMap (fun cat => cat.violations.map .inPlugins)

/-- Succeeds if there is no violation. -/
def validate (k : Contract) : Except ConfigError Unit :=
  ConfigError.collect (k.violations.map Violation.toError)

end Contract

end FleetConfig
