import FleetConfig.Proofs.Contract.Removing

/-!
# Gathering errors level by level

The check of a contract can be run as a walk that carries what it has gathered. Each server, each
plugin and each section is checked on its own and answers with one composite. The level above takes
that composite apart and gathers its leaves, wrapped in the name of the category where they are of a
plugin, and beside the errors it remembers the names that it has met. No leaf is lost or gathered
twice on the way: the result is the one composite of all violations.

## Main definitions

* `Gathered` — the errors and the names that a walk has met.
* `Catalogue.inspectCategory`, `Catalogue.inspect`, `Contract.inspect` — the levels of the check.

## Main results

* `ConfigError.leavesOfResult_collect` — taking a composite of leaves apart gives them back.
* `Catalogue.inspect_eq_validate`, `Contract.inspect_eq_validate` — the levels find all violations.
-/

namespace FleetConfig

open Plugin (Category)

/-! ### Leaves -/

namespace ConfigError

theorem leaves_of_isLeaf {e : ConfigError} (h : e.isLeaf = true) : e.leaves = [e] := by
  cases e with
  | composite => cases h
  | _ => rfl

theorem leavesOfList_of_isLeaf {es : List ConfigError} (h : ∀ e ∈ es, e.isLeaf = true) :
    leavesOfList es = es := by
  induction es with
  | nil => rfl
  | cons e es ih =>
    obtain ⟨he, hes⟩ := List.forall_mem_cons.1 h
    rw [leavesOfList, leaves_of_isLeaf he, ih hes, List.singleton_append]

theorem leavesOfResult_collect {es : List ConfigError} (h : ∀ e ∈ es, e.isLeaf = true) :
    leavesOfResult (collect es) = es := by
  rw [collect]
  split
  · rename_i hempty
    exact (List.isEmpty_iff.1 hempty).symm
  · exact leavesOfList_of_isLeaf h

end ConfigError

theorem Server.isLeaf_toError (v : Server.Violation) : v.toError.isLeaf = true := by
  rcases v with (_ | _) | _ | _ <;> rfl

theorem Daemon.isLeaf_toError (v : Daemon.Violation) : v.toError.isLeaf = true := by
  cases v <;> rfl

theorem Plugin.isLeaf_toError (v : Plugin.Violation) : v.toError.isLeaf = true := by
  cases v <;> rfl

theorem Catalogue.isLeaf_toError (v : Catalogue.Violation) : v.toError.isLeaf = true := by
  cases v <;> rfl

/-- Every violation is reported as an error of its own. -/
theorem Contract.isLeaf_toError (v : Contract.Violation) : v.toError.isLeaf = true := by
  cases v with
  | duplicateServer => rfl
  | inServer v => exact Server.isLeaf_toError v
  | inDaemon v => exact Daemon.isLeaf_toError v
  | inPlugins v => exact Catalogue.isLeaf_toError v

/-- The leaves of a check are the errors of its violations. -/
theorem leavesOfResult_collect_map {α : Type} {toError : α → ConfigError}
    (h : ∀ v, (toError v).isLeaf = true) (vs : List α) :
    ConfigError.leavesOfResult (ConfigError.collect (vs.map toError)) = vs.map toError :=
  ConfigError.leavesOfResult_collect (List.forall_mem_map.2 fun v _ => h v)

/-- A check without leaves has passed. -/
theorem eq_ok_of_leavesOfResult_collect {α : Type} {toError : α → ConfigError}
    (hleaf : ∀ v, (toError v).isLeaf = true) {vs : List α}
    (h : ConfigError.leavesOfResult (ConfigError.collect (vs.map toError)) = []) :
    ConfigError.collect (vs.map toError) = .ok () := by
  rw [leavesOfResult_collect_map hleaf] at h
  rw [h]
  rfl

/-! ### Walks that gather -/

/-- What a walk has met: errors, in their order, and names. -/
structure Gathered where
  errors : List ConfigError := []
  seen : List String := []

namespace Gathered

/-- Gathers the leaves of a failed check, each as `wrap` makes it. -/
def absorb (g : Gathered) (wrap : ConfigError → ConfigError) (r : Except ConfigError Unit) :
    Gathered :=
  { g with errors := g.errors ++ (ConfigError.leavesOfResult r).map wrap }

/-- Remembers a name, and gathers an error if it was met before. -/
def meet (g : Gathered) (name : String) (e : ConfigError) : Gathered where
  errors := g.errors ++ if g.seen.contains name then [e] else []
  seen := name :: g.seen

/-- Gathers the leaves of the check of a section, if it is there. -/
def absorbSection {α : Type} (g : Gathered) (check : α → Except ConfigError Unit)
    (part? : Option α) : Gathered :=
  part?.elim g fun a => g.absorb id (check a)

/-- Success if nothing was gathered. -/
def result (g : Gathered) : Except ConfigError Unit := ConfigError.collect g.errors

theorem errors_absorbSection {α : Type} (g : Gathered) (check : α → Except ConfigError Unit)
    (part? : Option α) : (g.absorbSection check part?).errors =
      g.errors ++ part?.toList.flatMap fun a => ConfigError.leavesOfResult (check a) := by
  cases part? with
  | none => exact (List.append_nil _).symm
  | some a =>
    rw [Option.toList_some, List.flatMap_singleton, absorbSection, Option.elim, absorb, List.map_id]

end Gathered

namespace Catalogue

/-- The step at a plugin: its errors under the name of its category, and then its name. -/
def gatherPlugin (c : Category) (g : Gathered) (p : Plugin) : Gathered :=
  (g.absorb (fun e => .invalidValue c.name e.message) p.validate).meet p.name
    (.invalidValue c.name s!"duplicate plugin '{p.name}'")

/-- The check of one category: its plugins in turn. -/
def inspectCategory (cat : Catalogue) (c : Category) : Except ConfigError Unit :=
  ((cat.plugins c).foldl (gatherPlugin c) {}).result

/-- The step at a category: the errors of its plugins. -/
def gatherCategory (cat : Catalogue) (g : Gathered) (c : Category) : Gathered :=
  g.absorb id (cat.inspectCategory c)

/-- The check of the plugins: their directory, and the categories in turn. -/
def inspect (cat : Catalogue) : Except ConfigError Unit :=
  (Category.all.foldl cat.gatherCategory
    { errors := if cat.dir.any Text.isBlankText then [.emptyInput "plugins.dir"] else [] }).result

theorem errors_foldl_gatherPlugin {c : Category} (g : Gathered) (ps : List Plugin) :
    (ps.foldl (gatherPlugin c) g).errors =
      g.errors ++ (violationsAfter c g.seen ps).map Violation.toError := by
  induction ps generalizing g with
  | nil => exact (List.append_nil _).symm
  | cons p ps ih =>
    have hp : ConfigError.leavesOfResult p.validate = p.violations.map Plugin.Violation.toError :=
      leavesOfResult_collect_map Plugin.isLeaf_toError _
    rw [List.foldl_cons, ih]
    simp only [gatherPlugin, Gathered.absorb, Gathered.meet, hp, violationsAfter, List.map_append,
      List.map_map, List.append_assoc]
    split <;> rfl

theorem inspectCategory_eq (cat : Catalogue) (c : Category) :
    cat.inspectCategory c = ConfigError.collect ((cat.violationsIn c).map Violation.toError) := by
  rw [inspectCategory, Gathered.result, errors_foldl_gatherPlugin]
  rfl

theorem errors_foldl_gatherCategory (cat : Catalogue) (g : Gathered) (cs : List Category) :
    (cs.foldl cat.gatherCategory g).errors =
      g.errors ++ (cs.flatMap cat.violationsIn).map Violation.toError := by
  induction cs generalizing g with
  | nil => exact (List.append_nil _).symm
  | cons c cs ih =>
    rw [List.foldl_cons, ih, gatherCategory, Gathered.absorb, inspectCategory_eq,
      leavesOfResult_collect_map isLeaf_toError, List.map_id, List.flatMap_cons, List.map_append,
      List.append_assoc]

/-- The levels of the check find all violations of the plugins. -/
theorem inspect_eq_validate (cat : Catalogue) : cat.inspect = cat.validate := by
  rw [inspect, Gathered.result, errors_foldl_gatherCategory, validate, violations,
    List.map_append, dirViolations]
  split <;> rfl

end Catalogue

namespace Contract

/-- The step at a server: its name, and then its errors. -/
def gatherServer (g : Gathered) (s : Server) : Gathered :=
  (g.meet s.name (.invalidValue "servers" s!"duplicate server '{s.name}'")).absorb id s.validate

/-- The check of a contract: its servers in turn, and then its sections. -/
def inspect (k : Contract) : Except ConfigError Unit :=
  (((k.servers.foldl gatherServer {}).absorbSection Daemon.validate k.daemon).absorbSection
    Catalogue.inspect k.plugins).result

theorem errors_foldl_gatherServer (g : Gathered) (ss : List Server) :
    (ss.foldl gatherServer g).errors =
      g.errors ++ (serverViolations g.seen ss).map Violation.toError := by
  induction ss generalizing g with
  | nil => exact (List.append_nil _).symm
  | cons s ss ih =>
    have hs : ConfigError.leavesOfResult s.validate = s.violations.map Server.Violation.toError :=
      leavesOfResult_collect_map Server.isLeaf_toError _
    rw [List.foldl_cons, ih]
    simp only [gatherServer, Gathered.absorb, Gathered.meet, hs, serverViolations, List.map_append,
      List.map_map, List.append_assoc]
    split <;> rfl

/-- The levels of the check find all violations of the contract, each once. -/
theorem inspect_eq_validate (k : Contract) : k.inspect = k.validate := by
  have hdaemon (d : Daemon) : ConfigError.leavesOfResult d.validate =
      (d.violations.map Violation.inDaemon).map Violation.toError := by
    rw [List.map_map]
    exact leavesOfResult_collect_map Daemon.isLeaf_toError _
  have hplugins (cat : Catalogue) : ConfigError.leavesOfResult cat.inspect =
      (cat.violations.map Violation.inPlugins).map Violation.toError := by
    rw [cat.inspect_eq_validate, List.map_map]
    exact leavesOfResult_collect_map Catalogue.isLeaf_toError _
  rw [inspect, Gathered.result, Gathered.errors_absorbSection, Gathered.errors_absorbSection,
    errors_foldl_gatherServer, validate, violations, List.map_append, List.map_append,
    List.map_flatMap, List.map_flatMap]
  simp only [hdaemon, hplugins]
  rfl

end Contract

end FleetConfig
