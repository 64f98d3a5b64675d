import FleetConfig.Command.Arguments
import FleetConfig.Command.Plugins
import FleetConfig.Command.Servers
import FleetConfig.Command.Settings
import FleetConfig.Command.Variables
import FleetConfig.Proofs.Store.Editing

/-!
# The edits that commands make

Every command that changes a document is an edit of that document: of the execution context, if it
is about arguments or variables, and of the contract otherwise. Each lemma says which change is
made, and so what the command does if its arguments are accepted.

## Main results

* `Arguments.edits_set`, `Arguments.edits_remove`, `Arguments.edits_clear`, `Variables.edits_set`,
  `Variables.edits_remove`, `Variables.edits_clear` — edits of the execution context.
* `Settings.edits_set`, `Settings.edits_remove`, `Plugins.edits_add`, `Plugins.edits_set`,
  `Plugins.edits_move`, `Plugins.edits_remove`, `Tools.edits_edit`, `Servers.edits_remove` — edits
  of the contract.
-/

namespace FleetConfig

open Plugin (Category)
open Store (Edits Performs)

variable {locs : Locations}

/-! ### The execution context -/

namespace Arguments

/-- Arguments are set if there are some. -/
theorem performs_set {switches tokens : List String} (server : String)
    (hne : Flag.normalize switches tokens ≠ []) :
    Performs locs.context (setIn server (Flag.normalize switches tokens)) id
      (set locs switches server tokens) := by
  rw [set]
  split
  · rename_i hnil
    exact absurd hnil hne
  · exact .within .modify _

theorem edits_set (switches : List String) (server : String) (tokens : List String) :
    Edits locs.context (· = setIn server (Flag.normalize switches tokens)) id
      (set locs switches server tokens) := by
  by_cases hnil : Flag.normalize switches tokens = []
  · rw [set, hnil]
    exact .refuse _
  · exact .inr ⟨_, rfl, performs_set server hnil⟩

theorem edits_remove (server : String) (names : List String) :
    Edits locs.context (· = removeIn server names) id (remove locs server names) := by
  rw [remove]
  split
  · exact .refuse _
  · exact .within (.modify_self _) _

theorem edits_clear (server : String) (force : Bool) :
    Edits locs.context (· = clearIn server) id (clear locs server force) := by
  rw [clear]
  split
  · exact .within (.modify_self _) _
  · exact .refuse _

end Arguments

namespace Variables

theorem edits_set (server : String) (pairs : List String) :
    Edits locs.context
      (fun f => ∃ parsed, pairs.mapM parsePair = .ok parsed ∧ f = setIn server parsed) id
      (set locs server pairs) := by
  rw [set]
  split
  · exact .refuse _
  · exact .bind_ofExcept fun parsed h => .within (.modify ⟨parsed, h, rfl⟩) _

theorem edits_remove (server : String) (keys : List String) :
    Edits locs.context (· = removeIn server keys) id (remove locs server keys) := by
  rw [remove]
  split
  · exact .refuse _
  · exact .within (.modify_self _) _

theorem edits_clear (server : String) (force : Bool) :
    Edits locs.context (· = clearIn server) id (clear locs server force) := by
  rw [clear]
  split
  · exact .within (.modify_self _) _
  · exact .refuse _

end Variables

/-! ### Settings -/

namespace Settings

/-- Assignments that can be read are made. -/
theorem performs_set {assignments : List String} {parsed : List (String × String)}
    (hne : assignments.isEmpty = false) (hparsed : assignments.mapM parseAssignment = .ok parsed) :
    Performs locs.contract (fun k : Contract => k.editDaemon (setIn parsed)) id
      (set locs assignments) := by
  rw [set, hne, hparsed]
  exact .within .modify _

theorem edits_set (assignments : List String) :
    Edits locs.contract (fun f => ∃ parsed, assignments.mapM parseAssignment = .ok parsed ∧
      f = fun k : Contract => k.editDaemon (setIn parsed)) id (set locs assignments) := by
  rw [set]
  split
  · exact .refuse _
  · exact .bind_ofExcept fun parsed h => .within (.modify ⟨parsed, h, rfl⟩) _

theorem edits_remove (keys : List String) :
    Edits locs.contract (· = fun k : Contract => k.editDaemon (removeIn keys)) id
      (remove locs keys) := by
  rw [remove]
  split
  · exact .refuse _
  · exact .within (.modify_self _) _

end Settings

/-! ### Plugins -/

namespace Plugins

theorem edits_add (a : Addition) :
    Edits locs.contract (· = fun k : Contract => k.editPlugins (addIn a))
      (fun outcome : Outcome => { name := some a.name, category := some a.category,
                                  plugin := some a.plugin, outcome : Report }) (add locs a) := by
  rw [add]
  split
  · exact .refuse _
  · exact .bind_pure (.within (.modify_self _) _) _

/-- An update that says what is to be changed is made. -/
theorem performs_set {u : Update} {target : Option (Category × String)}
    (h : u.target = .ok target) :
    Performs locs.contract (fun k : Contract => k.editPlugins (setIn u target)) id
      (set locs u) := by
  rw [set, h]
  exact .within .modify _

theorem edits_set (u : Update) :
    Edits locs.contract (fun f => ∃ target, u.target = .ok target ∧
      f = fun k : Contract => k.editPlugins (setIn u target)) id (set locs u) :=
  .bind_ofExcept fun target h => .within (.modify ⟨target, h, rfl⟩) _

theorem performs_move (c : Category) (name : String) (request : Catalogue.Move) :
    Performs locs.contract (fun k : Contract => k.editPlugins (moveIn c name request)) id
      (move locs c name request) :=
  .within .modify _

theorem edits_move (c : Category) (name : String) (request : Catalogue.Move) :
    Edits locs.contract (· = fun k : Contract => k.editPlugins (moveIn c name request)) id
      (move locs c name request) :=
  .inr ⟨_, rfl, performs_move c name request⟩

theorem performs_remove (c : Category) (name : String) :
    Performs locs.contract (fun k : Contract => k.editPlugins (·.delete c name))
      (fun outcome : Outcome => { name := some name, category := some c, outcome : Report })
      (remove locs c name) :=
  .bind_pure (.within .modify _) _

theorem edits_remove (c : Category) (name : String) :
    Edits locs.contract (· = fun k : Contract => k.editPlugins (·.delete c name))
      (fun outcome : Outcome => { name := some name, category := some c, outcome : Report })
      (remove locs c name) :=
  .inr ⟨_, rfl, performs_remove c name⟩

end Plugins

/-! ### Servers and their tools -/

theorem Tools.edits_edit (verb server : String) (tools : List String)
    (f : NameSet → String → NameSet) :
    Edits locs.contract (· = editIn server fun set => (named tools).foldl f set) id
      (edit locs verb server tools f) := by
  rw [edit]
  refine .within ?_ _
  split
  · exact .refuse _
  · exact .modify_self _

theorem Servers.edits_remove (server : String) :
    Edits locs.contract (· = fun k : Contract => k.deleteServer server)
      (fun outcome : Outcome => { server, outcome : Report }) (remove locs server) :=
  .bind_pure (.within (.modify_self _) _) _

end FleetConfig
