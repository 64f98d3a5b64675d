import FleetConfig.Cli.Run
import FleetConfig.Proofs.Check.Running
import FleetConfig.Proofs.Command.Edits

/-!
# Requests that fail

A request that is refused, or that fails while it loads or saves, changes no file, even if some of
its changes had been made to the document that it loaded. Exporting writes two files and has its own
rules.

## Main definitions

* `Cli.Request.exports`, `Cli.Request.reads` — hold of requests to export, and of those that only
  tell what is there.

## Main results

* `Cli.readsOnly_perform` — requests that only tell what is there change nothing.
* `Cli.failsClean_perform` — other requests change no file when they fail.
-/

namespace FleetConfig

open FleetConfig.Action (FailsClean ReadsOnly)
open Store (readsOnly_load)

variable {locs : Locations}

/-! ### Requests that only read -/

theorem Arguments.readsOnly_list (server : String) : ReadsOnly (list locs server) :=
  .bind readsOnly_load fun _ => .bind (.ofExcept _) fun _ => .pure _

theorem Variables.readsOnly_list (server : String) : ReadsOnly (list locs server) :=
  .bind readsOnly_load fun _ => .bind (.ofExcept _) fun _ => .pure _

theorem Tools.readsOnly_list (server : String) : ReadsOnly (list locs server) := by
  refine .bind readsOnly_load fun k : Contract => ?_
  cases k.server? server
  · exact .refuse _
  · exact .pure _

theorem Plugins.readsOnly_catalogue : ReadsOnly (catalogue locs) :=
  .bind readsOnly_load fun _ => .pure _

theorem Plugins.readsOnly_get (c : Plugin.Category) (name : String) :
    ReadsOnly (get locs c name) := by
  refine .bind readsOnly_catalogue fun cat => ?_
  cases cat.find? c name
  · exact .refuse _
  · exact .pure _

/-! ### Requests -/

namespace Cli

/-- Holds of requests to export. -/
def Request.exports : Request → Bool
  | .exportContract _ => true
  | _ => false

/-- Holds of requests that only tell what is there. -/
def Request.reads : Request → Bool
  | .listArguments _ | .listVariables _ | .listTools _ | .getSetting _ | .listSettings | .listKeys
  | .validateSettings | .getPlugin _ _ | .getCatalogue | .listPlugins _
  | .validatePlugins _ _ _ => true
  | _ => false

/-- A request that only tells what is there changes nothing. -/
theorem readsOnly_perform {request : Request} (h : request.reads = true) :
    ReadsOnly (perform locs request) := by
  cases request with
  | listArguments server => exact .bind (Arguments.readsOnly_list server) fun _ => .pure _
  | listVariables server => exact .bind (Variables.readsOnly_list server) fun _ => .pure _
  | listTools server => exact .bind (Tools.readsOnly_list server) fun _ => .pure _
  | getSetting path => exact .bind (.bind readsOnly_load fun _ => .ofExcept _) fun _ => .pure _
  | listSettings => exact .bind (.bind readsOnly_load fun _ => .pure _) fun _ => .pure _
  | listKeys => exact .pure _
  | validateSettings | validatePlugins c programs verbose =>
    exact .bind (.bind (Check.readsOnly_loadContract _ _ _) fun _ => .pure _) fun _ => .pure _
  | getPlugin c name => exact .bind (Plugins.readsOnly_get c name) fun _ => .pure _
  | getCatalogue => exact .bind Plugins.readsOnly_catalogue fun _ => .pure _
  | listPlugins c =>
    exact .bind (.bind Plugins.readsOnly_catalogue fun _ => .pure _) fun _ => .pure _
  | _ => cases h

/-- A request other than to export changes no file when it fails. -/
theorem failsClean_perform (request : Request) (h : request.exports = false) :
    FailsClean (perform locs request) := by
  cases request with
  | setArguments server switches tokens =>
    exact ((Arguments.edits_set switches server tokens).bind_pure _).failsClean
  | removeArguments server names =>
    exact ((Arguments.edits_remove server names).bind_pure _).failsClean
  | clearArguments server force =>
    exact ((Arguments.edits_clear server force).bind_pure _).failsClean
  | setVariables server pairs => exact ((Variables.edits_set server pairs).bind_pure _).failsClean
  | removeVariables server keys =>
    exact ((Variables.edits_remove server keys).bind_pure _).failsClean
  | clearVariables server force =>
    exact ((Variables.edits_clear server force).bind_pure _).failsClean
  | setTools server tools | removeTools server tools =>
    exact ((Tools.edits_edit _ server tools _).bind_pure _).failsClean
  | setSettings assignments => exact ((Settings.edits_set assignments).bind_pure _).failsClean
  | removeSettings keys => exact ((Settings.edits_remove keys).bind_pure _).failsClean
  | addPlugin addition => exact ((Plugins.edits_add addition).bind_pure _).failsClean
  | setPlugin update => exact ((Plugins.edits_set update).bind_pure _).failsClean
  | movePlugin c name move => exact ((Plugins.edits_move c name move).bind_pure _).failsClean
  | removePlugin c name => exact ((Plugins.edits_remove c name).bind_pure _).failsClean
  | removeServer server => exact ((Servers.edits_remove server).bind_pure _).failsClean
  | exportContract request => cases h
  | _ => exact .of_readsOnly (readsOnly_perform rfl)

/-- Modifications of either document are made as a whole or not at all, and no request other than to
export leaves a file changed, new or missing when it fails. -/
theorem modifications_all_or_nothing :
    (∀ {α : Type} (p : Path) (f : Contract → Except ConfigError (α × Contract)) (t : FileTree),
        Store.AllOrNothing p f t) ∧
      (∀ {α : Type} (p : Path) (f : Context → Except ConfigError (α × Context)) (t : FileTree),
        Store.AllOrNothing p f t) ∧
      ∀ (locs : Locations) (request : Request) (t t' : FileTree) (e : Failure),
        request.exports = false → (perform locs request).runOn t = (.error e, t') →
        FileTree.Grown t t' ∧ FileTree.SameFiles t t' := by
  refine ⟨Store.allOrNothing_modify, Store.allOrNothing_modify, ?_⟩
  intro locs request t t' e hexports h
  have hgrown := failsClean_perform request hexports t e t' h
  exact ⟨hgrown, hgrown.sameFiles⟩

/-- The first of two settings has been made when the second is refused, and a server that is added
is there the next time. -/
theorem modifications_all_or_nothing_settings_server :
    (∃ e t', (perform ⟨⟨"c.toml"⟩, ⟨"x.toml"⟩⟩ (.setSettings ["api.addr=:80", "api.port=1"])).runOn
          { entries := [(["x.toml"], .file ⟨#[]⟩)], workingDir := [] } = (.error e, t') ∧
        FileTree.SameFiles { entries := [(["x.toml"], .file ⟨#[]⟩)], workingDir := [] } t') ∧
      ∃ t', (Store.load ⟨"c.toml"⟩).runOn t' =
        (.ok ({ servers := [{ name := "a", package := "p" }] } : Contract), t') := by
  constructor
  · obtain ⟨e, t', h⟩ : ∃ e t',
        (perform ⟨⟨"c.toml"⟩, ⟨"x.toml"⟩⟩ (.setSettings ["api.addr=:80", "api.port=1"])).runOn
          { entries := [(["x.toml"], .file ⟨#[]⟩)], workingDir := [] } = (.error e, t') :=
      ⟨_, _, rfl⟩
    exact ⟨e, t', h, (modifications_all_or_nothing.2.2 _ _ _ _ _ rfl h).2⟩
  · have hall := modifications_all_or_nothing.1 ⟨"c.toml"⟩
      (fun k => k.upsertServer { name := "a", package := "p" })
      { entries := [], workingDir := [] }
    exact ⟨_, hall.load_changed _ _ _ _ _ rfl rfl (fun _ hd => nomatch hd) (by decide) rfl⟩

end Cli

end FleetConfig
