import FleetConfig.Proofs.Contract.Validity
import FleetConfig.Proofs.Daemon.Violations
import FleetConfig.Proofs.Walks

/-!
# What removals do to the check

The check of a contract is a walk through its servers, its settings and its plugins. A contract that
is left when something is taken out has no violation that the whole one does not have: what is
repeated in a part is repeated in the whole. So a command that removes something from a valid
contract need not check it again.

## Main definitions

* `Contract.Removal` — a contract without one of its servers, plugins or settings.
* `Contract.PartOf` — a contract without any number of them.

## Main results

* `Contract.violations_eq_append` — the violations of the three sections.
* `Contract.PartOf.violations_sublist` — a part has no other violations.
* `Contract.removal_of_deleteServer`, `Contract.removal_of_deletePlugin`,
  `Contract.removal_of_removeKey` — what the commands remove.
-/

namespace FleetConfig

open Plugin (Category)

/-! ### The check as a walk -/

/-- The violations of a plugin that stands behind others. -/
def Catalogue.pluginStep (c : Category) (front : List Plugin) (p : Plugin) :
    List Catalogue.Violation :=
  p.violations.map (.inPlugin c) ++
    if p.name ∈ front.map Plugin.name then [.duplicate c p.name] else []

theorem Catalogue.violationsAfter_eq_walk {c : Category} {seen : List String}
    {front ps : List Plugin} (hseen : ∀ n, n ∈ seen ↔ n ∈ front.map Plugin.name) :
    violationsAfter c seen ps = walk (pluginStep c) front ps := by
  induction ps generalizing seen front with
  | nil => rfl
  | cons p ps ih =>
    have hseen' (n : String) : n ∈ p.name :: seen ↔ n ∈ (front ++ [p]).map Plugin.name := by
      rw [List.map_append, List.mem_append, List.mem_cons, hseen, List.map_singleton,
        List.mem_singleton, or_comm]
    simp only [violationsAfter, walk, pluginStep, ih hseen', List.contains_iff_mem, hseen]

theorem Catalogue.violations_eq_walk (cat : Catalogue) :
    cat.violations = cat.dirViolations ++
      Category.all.flatMap fun c => walk (pluginStep c) [] (cat.plugins c) := by
  rw [violations]
  congr
  exact funext fun c => violationsAfter_eq_walk fun n => Iff.rfl

namespace Contract

/-- The violations of a server that stands behind others. -/
def serverStep (front : List Server) (s : Server) : List Violation :=
  (if s.name ∈ front.map Server.name then [.duplicateServer s.name] else []) ++
    s.violations.map .inServer

theorem serverViolations_eq_walk {seen : List String} {front ss : List Server}
    (hseen : ∀ n, n ∈ seen ↔ n ∈ front.map Server.name) :
    serverViolations seen ss = walk serverStep front ss := by
  induction ss generalizing seen front with
  | nil => rfl
  | cons s ss ih =>
    have hseen' (n : String) : n ∈ s.name :: seen ↔ n ∈ (front ++ [s]).map Server.name := by
      rw [List.map_append, List.mem_append, List.mem_cons, hseen, List.map_singleton,
        List.mem_singleton, or_comm]
    simp only [serverViolations, walk, serverStep, ih hseen', List.contains_iff_mem, hseen]

variable {k k' : Contract}

/-- The violations of the three sections; an absent section has those of an empty one. -/
theorem violations_eq_append (k : Contract) :
    k.violations = walk serverStep [] k.servers ++ k.settings.violations.map .inDaemon ++
      k.catalogue.violations.map .inPlugins := by
  have hdaemon : k.daemon.toList.flatMap (fun d => d.violations.map Violation.inDaemon) =
      k.settings.violations.map .inDaemon := by
    rw [settings]
    cases k.daemon with
    | none => rfl
    | some d => exact List.flatMap_singleton _ d
  have hplugins : k.plugins.toList.flatMap (fun cat => cat.violations.map Violation.inPlugins) =
      k.catalogue.violations.map .inPlugins := by
    rw [catalogue]
    cases k.plugins with
    | none => rfl
    | some cat => exact List.flatMap_singleton _ cat
  have hservers : serverViolations [] k.servers = walk serverStep [] k.servers :=
    serverViolations_eq_walk fun n => Iff.rfl
  rw [violations, hdaemon, hplugins, hservers]

/-! ### Parts -/

/-- A contract holds nothing that another one does not hold. -/
structure PartOf (k' k : Contract) : Prop where
  servers : List.Sublist k'.servers k.servers
  settings : ∀ key : Daemon.Key,
    key.read k'.settings = key.read k.settings ∨ key.read k'.settings = none
  dir : k'.catalogue.dir = k.catalogue.dir ∨ k'.catalogue.dir = none
  plugins : ∀ c, List.Sublist (k'.catalogue.plugins c) (k.catalogue.plugins c)

theorem PartOf.refl (k : Contract) : k.PartOf k :=
  ⟨List.Sublist.refl _, fun _ => .inl rfl, .inl rfl, fun _ => List.Sublist.refl _⟩

theorem serverStep_sublist {front' front : List Server} (h : front' ⊆ front) (s : Server) :
    List.Sublist (serverStep front' s) (serverStep front s) := by
  refine List.Sublist.append ?_ (List.Sublist.refl _)
  split
  · rename_i hmem
    rw [if_pos (List.map_subset _ h hmem)]
  · exact List.nil_sublist _

theorem pluginStep_sublist {c : Category} {front' front : List Plugin} (h : front' ⊆ front)
    (p : Plugin) :
    List.Sublist (Catalogue.pluginStep c front' p) (Catalogue.pluginStep c front p) := by
  refine List.Sublist.append (List.Sublist.refl _) ?_
  split
  · rename_i hmem
    rw [if_pos (List.map_subset _ h hmem)]
  · exact List.nil_sublist _

theorem dirViolations_sublist {cat' cat : Catalogue} (h : cat'.dir = cat.dir ∨ cat'.dir = none) :
    List.Sublist cat'.dirViolations cat.dirViolations := by
  rw [Catalogue.dirViolations, Catalogue.dirViolations]
  obtain h | h := h
  · rw [h]
  · rw [h]
    exact List.nil_sublist _

/-- A part of a contract has some of its violations, in the same order. -/
theorem PartOf.violations_sublist (h : k'.PartOf k) :
    List.Sublist k'.violations k.violations := by
  have hservers : List.Sublist (walk serverStep [] k'.servers) (walk serverStep [] k.servers) :=
    walk_sublist_walk (fun _ _ s hfront => serverStep_sublist hfront s) (List.Subset.refl _)
      h.servers
  have hsettings := Daemon.violations_sublist_of_read h.settings
  have hplugins : List.Sublist k'.catalogue.violations k.catalogue.violations := by
    rw [Catalogue.violations_eq_walk, Catalogue.violations_eq_walk]
    exact (dirViolations_sublist h.dir).append (List.Sublist.flatMap_right _ fun c _ =>
      walk_sublist_walk (fun _ _ p hfront => pluginStep_sublist hfront p) (List.Subset.refl _)
        (h.plugins c))
  rw [violations_eq_append, violations_eq_append]
  exact (hservers.append (hsettings.map _)).append (hplugins.map _)

/-! ### Removals -/

/-- A contract without one of its servers, one of its plugins or the setting of one key. -/
inductive Removal (k : Contract) : Contract → Prop
  /-- The server of a place is taken out. -/
  | server (i : Nat) : Removal k { k with servers := k.servers.eraseIdx i }
  /-- The plugin of a place in a category is taken out. -/
  | plugin (c : Category) (i : Nat) :
      Removal k { k with
        plugins := some (k.catalogue.withPlugins c ((k.catalogue.plugins c).eraseIdx i)) }
  /-- A key is cleared, and all others read what they read. -/
  | key (key : Daemon.Key) (d : Daemon)
      (hread : ∀ key' : Daemon.Key,
        key'.read d = if key' = key then none else key'.read k.settings) :
      Removal k { k with daemon := some d }

theorem Removal.partOf (h : Removal k k') : k'.PartOf k := by
  cases h with
  | server i => exact { PartOf.refl k with servers := List.eraseIdx_sublist _ i }
  | plugin c i =>
    refine { PartOf.refl k with dir := .inl rfl, plugins := fun c' => ?_ }
    show List.Sublist (if c' = c then _ else _) _
    split
    · rename_i hc
      rw [hc]
      exact List.eraseIdx_sublist _ i
    · exact List.Sublist.refl _
  | key key d hread =>
    refine { PartOf.refl k with settings := fun key' => ?_ }
    show key'.read d = _ ∨ key'.read d = none
    rw [hread key']
    split
    · exact .inr rfl
    · exact .inl rfl

variable {o : Outcome}

theorem removal_of_deleteServer {name : String} (h : k.deleteServer name = .ok (o, k')) :
    Removal k k' := by
  rw [deleteServer_eq] at h
  split at h
  · cases h
  · cases h
    exact .server _

theorem removal_of_deletePlugin {c : Category} {name : String}
    (h : k.editPlugins (·.delete c name) = .ok (o, k')) : Removal k k' := by
  obtain ⟨cat, hcat, rfl⟩ := editPlugins_eq_ok_iff.1 h
  simp only [Catalogue.delete_eq] at hcat
  split at hcat
  · cases hcat
  · cases hcat
    exact .plugin c _

theorem removal_of_removeKey {path : String}
    (h : k.editDaemon (·.remove path) = .ok (o, k')) : Removal k k' := by
  obtain ⟨d, hd, rfl⟩ := editDaemon_eq_ok_iff.1 h
  obtain ⟨key, v, -, hv, -, hread⟩ := Daemon.read_of_set hd
  rw [Setting.Kind.parse_empty] at hv
  cases hv
  exact .key key d hread

end Contract

end FleetConfig
