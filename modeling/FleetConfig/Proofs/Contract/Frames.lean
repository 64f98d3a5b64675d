import FleetConfig.Proofs.Contract.Outcomes
import FleetConfig.Proofs.Plugin.Frames

/-!
# What changes to contracts leave

A change to one section of a contract leaves the others, up to empty sections. Of the servers, the
first one of a name is changed or taken out, and the rest stay.

## Main definitions

* `Contract.SettingsFrame`, `Contract.PluginsFrame`, `Contract.ServersFrame` — two contracts that
  differ in one section.

## Main results

* `Contract.pluginsFrame_of_editPlugins`, `Contract.serversFrame_of_deleteServer`,
  `Tools.serversFrame_of_editIn` — what changes leave.
-/

namespace FleetConfig

open Daemon (Key)
open Named (putFirst rest)

namespace Contract

variable {k k' k₁ : Contract} {o : Outcome} {s : Server} {name : String}

/-! ### Sections -/

/-- One contract differs from another under some keys of its settings at most. -/
structure SettingsFrame (Among : Key → Prop) (k k' : Contract) : Prop where
  servers : k'.servers = k.servers
  catalogue : k'.catalogue = k.catalogue
  /-- Other keys hold what they held. -/
  settings : ∀ key : Key, ¬Among key → key.read k'.settings = key.read k.settings

/-- One contract differs from another in its plugins at most, and these are related in a way. -/
structure PluginsFrame (Related : Catalogue → Catalogue → Prop) (k k' : Contract) : Prop where
  servers : k'.servers = k.servers
  settings : k'.settings.prune = k.settings.prune
  catalogue : Related k.catalogue k'.catalogue

/-- One contract differs from another in its servers at most, and these are related in a way. -/
structure ServersFrame (Related : List Server → List Server → Prop) (k k' : Contract) : Prop where
  settings : k'.settings.prune = k.settings.prune
  catalogue : k'.catalogue = k.catalogue
  servers : Related k.servers k'.servers

/-! ### Pruning -/

/-- What is left is left up to empty sections. -/
theorem SettingsFrame.of_prune_eq {Among : Key → Prop} (h : SettingsFrame Among k k₁)
    (hprune : k'.prune = k₁.prune) : SettingsFrame Among k k' := by
  obtain ⟨hservers, hsettings, hcatalogue⟩ := prune_eq_prune_iff.1 hprune
  refine ⟨hservers.trans h.servers, hcatalogue.trans h.catalogue, fun key hkey => ?_⟩
  rw [← h.settings key hkey]
  exact Daemon.prune_eq_prune_iff.1 hsettings key key.mem_all

theorem PluginsFrame.of_prune_eq {Related : Catalogue → Catalogue → Prop}
    (h : PluginsFrame Related k k₁) (hprune : k'.prune = k₁.prune) :
    PluginsFrame Related k k' := by
  obtain ⟨hservers, hsettings, hcatalogue⟩ := prune_eq_prune_iff.1 hprune
  exact ⟨hservers.trans h.servers, hsettings.trans h.settings, hcatalogue ▸ h.catalogue⟩

theorem ServersFrame.of_prune_eq {Related : List Server → List Server → Prop}
    (h : ServersFrame Related k k₁) (hprune : k'.prune = k₁.prune) :
    ServersFrame Related k k' := by
  obtain ⟨hservers, hsettings, hcatalogue⟩ := prune_eq_prune_iff.1 hprune
  exact ⟨hsettings.trans h.settings, hcatalogue.trans h.catalogue, hservers ▸ h.servers⟩

/-! ### Changes -/

theorem pluginsFrame_of_editPlugins {α : Type} {a : α}
    {f : Catalogue → Except ConfigError (α × Catalogue)} {Related : Catalogue → Catalogue → Prop}
    (h : k.editPlugins f = .ok (a, k'))
    (hf : ∀ cat', f k.catalogue = .ok (a, cat') → Related k.catalogue cat') :
    PluginsFrame Related k k' := by
  obtain ⟨cat', hcat', rfl⟩ := editPlugins_eq_ok_iff.1 h
  exact ⟨rfl, rfl, hf cat' hcat'⟩

/-- A server is put in the place of the first one of its name, or at the end. -/
theorem eq_putFirst_of_upsertServer (h : k.upsertServer s = .ok (o, k')) :
    k' = { k with servers := putFirst Server.name s k.servers } := by
  rw [Contract.upsertServer_eq] at h
  obtain ⟨_, -, h⟩ := bind_eq_ok.1 h
  split at h
  · rename_i hnone
    cases h
    rw [Named.putFirst_of_none hnone]
  · rename_i i hi
    split at h
    · rename_i hsame
      cases h
      rw [Named.putFirst_eq_self hi hsame]
    · cases h
      rw [Named.putFirst_of_some hi]

/-- The first server of the name is taken out. -/
theorem eq_rest_of_deleteServer (h : k.deleteServer name = .ok (o, k')) :
    k' = { k with servers := rest Server.name name k.servers } := by
  rw [deleteServer_eq] at h
  split at h
  · cases h
  · rename_i i hi
    cases h
    rw [← Named.eraseIdx_eq_rest hi]

theorem serversFrame_of_deleteServer (h : k.deleteServer name = .ok (o, k')) :
    ServersFrame (fun ss ss' => ss' = rest Server.name name ss) k k' := by
  rw [eq_rest_of_deleteServer h]
  exact ⟨rfl, rfl, rfl⟩

/-! ### Changes that are refused -/

theorem atomicOn_upsertServerEdit (s : Server) (k : Contract) :
    (upsertServerEdit s).AtomicOn k := by
  refine .bind_liftM fun _ _ => .bind_get ?_
  split
  · exact .of_made rfl
  · split <;> exact .of_made rfl

theorem atomicOn_deleteServerEdit (name : String) (k : Contract) :
    (deleteServerEdit name).AtomicOn k := by
  refine .bind_get ?_
  split
  · exact .throw _ k
  · exact .of_made rfl

/-- A refused edit of the plugins that leaves them as they were opens the section at most. -/
theorem on_inPlugins_of_error {α : Type} {x : Edit Catalogue α} {e : ConfigError}
    (hx : x.AtomicOn k.catalogue) (he : x.made k.catalogue = .error e) :
    (inPlugins x).on k = (.error e, { k with plugins := some k.catalogue }) := by
  rw [inPlugins, Edit.on_ofPart, hx.on_eq he]

theorem eq_of_inPlugins_of_error {α : Type} {x : Edit Catalogue α} {e : ConfigError}
    (hx : x.AtomicOn k.catalogue) (h : (inPlugins x).on k = (.error e, k')) :
    k' = { k with plugins := some k.catalogue } := by
  rw [inPlugins, Edit.on_ofPart] at h
  cases hon : x.on k.catalogue with
  | mk answer cat =>
    rw [hon] at h
    cases h
    rw [hx _ _ hon]

theorem on_inPlugins_of_ok {α : Type} {x : Edit Catalogue α} {a : α} {cat : Catalogue}
    (h : x.made k.catalogue = .ok (a, cat)) :
    (inPlugins x).on k = (.ok a, { k with plugins := some cat }) := by
  rw [inPlugins, Edit.on_ofPart, Edit.made_eq_ok_iff.1 h]

end Contract

/-- Only the tools of the first server of the name are changed. -/
theorem Tools.serversFrame_of_editIn {server : String} {f : NameSet → NameSet} {k k' : Contract}
    {r : Report} (h : editIn server f k = .ok (r, k')) :
    k.ServersFrame (fun ss ss' => ∃ tools, ss' =
      ss.modify (ss.findIdx fun s => s.name == server) fun s => { s with tools }) k' := by
  rw [editIn] at h
  split at h
  · cases h
  · rename_i s hserver
    obtain ⟨⟨o, k₁⟩, hupsert, h⟩ := bind_eq_ok.1 h
    cases h
    have hname := List.find?_some hserver
    rw [Contract.eq_putFirst_of_upsertServer hupsert]
    refine ⟨rfl, rfl, f s.tools, ?_⟩
    exact Named.putFirst_eq_modify (f := fun s₁ => { s₁ with tools := f s.tools })
      (beq_iff_eq.1 hname) hserver

end FleetConfig
