import FleetConfig.Command.Variables
import FleetConfig.Proofs.Command.Addressing
import FleetConfig.Proofs.Context.Outcomes
import FleetConfig.Proofs.Contract.Changes
import FleetConfig.Proofs.Store.Repeating

/-!
# Changes that are made again

What a command has stored is what it would store again: variables under their names, the tools of a
server, and the fields of a plugin. So the same change, made again, is not refused, and reports that
nothing has changed.

## Main results

* `Context.upsert_again` — an entry that is stored again.
* `Variables.settled_setIn` — variables that are set again.
* `Tools.settled_editIn` — tools that are changed again.
* `Plugins.settled_setIn` — fields of a plugin that are set again.
-/

namespace FleetConfig

open Plugin (Category)
open Store (Settled)

/-! ### Entries and variables -/

namespace Context

variable {x x' : Context} {name : String} {e : Entry} {o : Outcome}

/-- What is stored already is stored without a change. -/
theorem upsert_of_stored (hname : Server.checkName name = .ok ())
    (h : x.server? name = e.stored) : x.upsert name e = .ok (.noop, x) := by
  rw [upsert, hname]
  rw [Entry.stored] at h
  cases hempty : e.isEmpty with
  | true =>
    rw [hempty, if_pos rfl] at h
    simp only [h, if_pos]
    rfl
  | false =>
    rw [hempty] at h
    have hnoop : Outcome.ofChange (x.server? name) (some e) = .noop :=
      (Outcome.ofChange_eq_noop_iff _ _).2 h
    simp only [hnoop]
    rfl

/-- An entry that was stored is stored again without a change. -/
theorem upsert_again (h : x.upsert name e = .ok (o, x')) :
    x'.upsert name e = .ok (.noop, x') := by
  obtain ⟨-, hserver, -⟩ := upsert_eq_ok h
  obtain ⟨_, hname, -⟩ := bind_eq_ok.1 h
  exact upsert_of_stored hname hserver

end Context

namespace Variables

variable {server : String} {pairs : List (String × String)} {x x' : Context} {r : Report}

/-- Variables that were set are set again without a change. -/
theorem setIn_again (h : setIn server pairs x = .ok (r, x')) :
    setIn server pairs x' = .ok ({ r with outcome := .noop }, x') := by
  obtain ⟨⟨o, x₁⟩, hupsert, h⟩ := bind_eq_ok.1 h
  cases h
  rw [setIn, Context.getD_server?_of_upsert hupsert, NameMap.foldl_insert_twice]
  exact bind_eq_ok.2 ⟨_, Context.upsert_again hupsert, rfl⟩

theorem settled_setIn (h : setIn server pairs x = .ok (r, x')) :
    Settled (·.outcome = .noop) (setIn server pairs) x' := by
  intro x₁ (hsame : x₁ = x')
  rw [hsame]
  exact ⟨_, x', setIn_again h, rfl, rfl⟩

end Variables

/-! ### Tools -/

namespace Contract

variable {k k' : Contract} {s : Server} {o : Outcome}

/-- A server that was put into a contract is found by its name. -/
theorem server?_of_upsertServer (h : k.upsertServer s = .ok (o, k')) :
    k'.server? s.name = some s := by
  rw [eq_putFirst_of_upsertServer h]
  exact Named.find?_putFirst Server.name s k.servers

/-- A valid server that is found as it is is put into its contract without a change. -/
theorem upsertServer_of_server? (hs : s.validate = .ok ()) (h : k.server? s.name = some s) :
    k.upsertServer s = .ok (.noop, k) := by
  rw [server?, List.find?_eq_bind_findIdx?_getElem?, Option.bind_eq_some_iff] at h
  obtain ⟨i, hi, hsame⟩ := h
  rw [upsertServer_eq, hs, indexOf?, hi]
  exact if_pos hsame

end Contract

namespace Tools

variable {server : String} {f : NameSet → NameSet} {k k' k₁ : Contract} {r : Report}

/-- Tools that were changed are changed again without a change, if the change makes nothing new of
what it has made. -/
theorem editIn_again (hf : ∀ s, f (f s) = f s) (h : editIn server f k = .ok (r, k'))
    (hservers : k₁.servers = k'.servers) :
    editIn server f k₁ = .ok ({ r with outcome := .noop }, k₁) := by
  rw [editIn] at h
  split at h
  · cases h
  rename_i s hserver
  obtain ⟨⟨o, k₂⟩, hupsert, h⟩ := bind_eq_ok.1 h
  cases h
  have hname := List.find?_some hserver
  obtain rfl : s.name = server := beq_iff_eq.1 hname
  have hserver' : k₁.server? s.name = some { s with tools := f s.tools } := by
    rw [Contract.server?, hservers]
    exact Contract.server?_of_upsertServer hupsert
  have hvalid :=
    Server.validate_eq_ok_iff.2 (Contract.Change.exists_upsertServer_iff.1 ⟨_, hupsert⟩)
  rw [editIn, hserver']
  dsimp only
  rw [hf]
  exact bind_eq_ok.2 ⟨_, Contract.upsertServer_of_server? hvalid hserver', rfl⟩

theorem settled_editIn (hf : ∀ s, f (f s) = f s) (h : editIn server f k = .ok (r, k')) :
    Settled (·.outcome = .noop) (editIn server f) k' := fun k₁ hprune =>
  ⟨_, k₁, editIn_again hf h (Contract.prune_eq_prune_iff.1 hprune).1, rfl, rfl⟩

end Tools

/-! ### Plugins -/

namespace Plugins

variable {u : Update} {cat cat' : Catalogue} {target : Option (Category × String)} {r : Report}

/-- To update a plugin twice is to update it once. -/
theorem apply_apply (u : Update) (p : Plugin) : u.apply (u.apply p) = u.apply p := by
  rw [Update.apply, Update.apply]
  cases u.flows.isEmpty <;> cases u.required <;> cases u.commitHash <;> rfl

/-- A directory that was set is set again without a change. -/
theorem setDirIn_again (hdir : cat'.dir = (setDirIn u cat).2.dir) :
    setDirIn u cat' = (.noop, cat') := by
  rw [setDirIn] at hdir ⊢
  split
  · rename_i hsome
    rw [if_pos hsome] at hdir
    obtain ⟨dir, plugins⟩ := cat'
    obtain rfl : dir = (u.dir.map Text.trim).filter (· != "") := hdir
    rw [Catalogue.setDir, (Outcome.ofChange_eq_noop_iff _ _).2 rfl]
  · rfl

/-- A plugin that an update has made is made again. -/
theorem updated_again {c : Category} {name : String} {p : Plugin}
    (h : updated u c name cat = .ok p) (hfind : cat'.find? c name = some p) :
    updated u c name cat' = .ok p := by
  have hsame : u.apply p = p := by
    rw [updated] at h
    split at h
    · cases h
      exact apply_apply u _
    · split at h
      · cases h
      · cases h
        exact apply_apply u _
  rw [updated, hfind]
  exact congrArg _ hsame

/-- What was set of the plugins is set again without a change. -/
theorem setIn_again (h : setIn u target cat = .ok (r, cat')) :
    setIn u target cat' = .ok ({ r with outcome := .noop }, cat') := by
  cases target with
  | none =>
    have hdir : cat'.dir = (setDirIn u cat).2.dir := by
      cases h
      rfl
    rw [setIn, setDirIn_again hdir]
    cases h
    rfl
  | some place =>
    obtain ⟨c, name⟩ := place
    obtain ⟨p, hupdated, h⟩ := bind_eq_ok.1 h
    obtain ⟨⟨o, cat₁⟩, hupsert, h⟩ := bind_eq_ok.1 h
    cases h
    have hfind := Catalogue.find?_of_upsert hupsert
    have hupdated' := updated_again hupdated (name_of_updated hupdated ▸ hfind)
    have hvalid := Plugin.validate_eq_ok_iff.2 (Catalogue.exists_upsert_iff.1 ⟨_, hupsert⟩)
    have hupsert' := Catalogue.upsert_of_find? hvalid hfind
    rw [setIn, setDirIn_again (Catalogue.dir_of_upsert hupsert)]
    exact bind_eq_ok.2 ⟨p, hupdated', bind_eq_ok.2 ⟨_, hupsert', rfl⟩⟩

theorem settled_setIn {k k' : Contract} (h : k.editPlugins (setIn u target) = .ok (r, k')) :
    Settled (·.outcome = .noop) (fun k : Contract => k.editPlugins (setIn u target)) k' := by
  obtain ⟨cat, hset, rfl⟩ := Contract.editPlugins_eq_ok_iff.1 h
  intro k₁ hprune
  have hcatalogue : k₁.catalogue = cat := (Contract.prune_eq_prune_iff.1 hprune).2.2
  have hagain := setIn_again hset
  rw [← hcatalogue] at hagain
  exact ⟨_, _, Contract.editPlugins_eq_ok_iff.2 ⟨_, hagain, rfl⟩, rfl,
    (Contract.prune_plugins_eq_iff k₁).2 rfl⟩

end Plugins

end FleetConfig
