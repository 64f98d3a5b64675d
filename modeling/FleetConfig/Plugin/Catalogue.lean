import FleetConfig.Edit
import FleetConfig.Outcome
import FleetConfig.Plugin.Basic
import FleetConfig.Plugin.Category

/-!
# The catalogue of plugins

A catalogue holds the plugins of each category in the order in which they run, and the directory of
their programs. Within a category a name addresses the first plugin that has it.

## Main definitions

* `Catalogue` — the plugins of a contract.
* `Catalogue.upsertEdit`, `Catalogue.deleteEdit` — changes, which can be refused.
* `Catalogue.upsert`, `Catalogue.delete`, `Catalogue.setDir` — what changes make.
* `Catalogue.only` — the part of one category.
* `Catalogue.violations`, `Catalogue.validate` — what is wrong with one.
-/

namespace FleetConfig

open Plugin (Category)

/-- The plugins of each category, and the directory of their programs. -/
structure Catalogue where
  /-- The directory of the programs. -/
  dir : Option String := none
  /-- The plugins of a category, in the order in which they run. -/
  plugins : Category → List Plugin := fun _ => []

namespace Catalogue

instance : Inhabited Catalogue := ⟨{}⟩

theorem ext_all {a b : Catalogue} (hd : a.dir = b.dir)
    (hp : ∀ c ∈ Category.all, a.plugins c = b.plugins c) : a = b := by
  cases a
  cases b
  simp only [mk.injEq]
  exact ⟨hd, funext fun c => hp c c.mem_all⟩

/-- Catalogues are compared by their directory and their seven categories. -/
instance : DecidableEq Catalogue := fun a b =>
  decidable_of_iff (a.dir = b.dir ∧ ∀ c ∈ Category.all, a.plugins c = b.plugins c)
    ⟨fun h => ext_all h.1 h.2, fun h => h ▸ ⟨rfl, fun _ _ => rfl⟩⟩

/-! ### Reading -/

/-- The plugin of a name. -/
def find? (cat : Catalogue) (c : Category) (name : String) : Option Plugin :=
  (cat.plugins c).find? fun p => p.name == name

/-- The place of the plugin of a name. -/
def indexOf? (cat : Catalogue) (c : Category) (name : String) : Option Nat :=
  (cat.plugins c).findIdx? fun p => p.name == name

/-- The categories that hold plugins, with these, in the order in which they run. -/
def filled (cat : Catalogue) : List (Category × List Plugin) :=
  (Category.all.map fun c => (c, cat.plugins c)).filter fun e => !e.2.isEmpty

/-- The number of different names. -/
def distinctCount (cat : Catalogue) : Nat :=
  (Category.all.flatMap fun c => (cat.plugins c).map Plugin.name).eraseDups.length

/-- Holds if there is neither a plugin nor a directory. -/
def isEmpty (cat : Catalogue) : Bool :=
  cat.dir.isNone && Category.all.all fun c => (cat.plugins c).isEmpty

/-! ### Changing -/

/-- Puts other plugins into a category. -/
def withPlugins (cat : Catalogue) (c : Category) (ps : List Plugin) : Catalogue :=
  { cat with plugins := fun c' => if c' = c then ps else cat.plugins c' }

/-- What is put into a category stands there and nowhere else. -/
theorem plugins_withPlugins (cat : Catalogue) (c c' : Category) (ps : List Plugin) :
    (cat.withPlugins c ps).plugins c' = if c' = c then ps else cat.plugins c' :=
  rfl

theorem withPlugins_plugins (cat : Catalogue) (c : Category) :
    cat.withPlugins c (cat.plugins c) = cat := by
  refine ext_all rfl fun c' _ => ?_
  rw [plugins_withPlugins]
  by_cases h : c' = c
  · rw [if_pos h, h]
  · rw [if_neg h]

/-- The directory and the plugins of one category. -/
def only (cat : Catalogue) (c : Category) : Catalogue :=
  ({ dir := cat.dir } : Catalogue).withPlugins c (cat.plugins c)

/-- Sets the directory, or clears it if the text is blank. -/
def setDir (cat : Catalogue) (dir : Option String) : Outcome × Catalogue :=
  let dir := (dir.map Text.trim).filter (· != "")
  (Outcome.ofChange cat.dir dir, { cat with dir })

/-- The error that a plugin is not in a category. -/
def notFound (c : Category) (name : String) : ConfigError :=
  .notFound ("plugin '" ++ name ++ "' in category '" ++ c.name ++ "'")

/-- Puts a plugin in the place of the one of its name, or at the end. -/
def upsertEdit (c : Category) (p : Plugin) : Edit Catalogue Outcome := do
  p.validate
  let cat ← get
  match cat.indexOf? c p.name with
  | none =>
    set (cat.withPlugins c (cat.plugins c ++ [p]))
    return .created
  | some i =>
    if (cat.plugins c)[i]? = some p then return .noop
    else
      set (cat.withPlugins c ((cat.plugins c).set i p))
      return .updated

/-- The catalogue with a plugin put into it, unless that is refused. -/
def upsert (cat : Catalogue) (c : Category) (p : Plugin) :
    Except ConfigError (Outcome × Catalogue) :=
  (upsertEdit c p).made cat

theorem upsert_eq (cat : Catalogue) (c : Category) (p : Plugin) : cat.upsert c p = do
    p.validate
    match cat.indexOf? c p.name with
    | none => return (.created, cat.withPlugins c (cat.plugins c ++ [p]))
    | some i =>
      if (cat.plugins c)[i]? = some p then return (.noop, cat)
      else return (.updated, cat.withPlugins c ((cat.plugins c).set i p)) := by
  rw [upsert, upsertEdit, Edit.made_bind_liftM]
  congr 1
  funext _
  rw [Edit.made_bind_get]
  split
  · rfl
  · split <;> rfl

/-- Removes the plugin of a name. -/
def deleteEdit (c : Category) (name : String) : Edit Catalogue Outcome := do
  let cat ← get
  match cat.indexOf? c name with
  | none => throw (notFound c name)
  | some i =>
    set (cat.withPlugins c ((cat.plugins c).eraseIdx i))
    return .deleted

/-- The catalogue without the plugin of a name, unless that is refused. -/
def delete (cat : Catalogue) (c : Category) (name : String) :
    Except ConfigError (Outcome × Catalogue) :=
  (deleteEdit c name).made cat

theorem delete_eq (cat : Catalogue) (c : Category) (name : String) : cat.delete c name =
    match cat.indexOf? c name with
    | none => .error (notFound c name)
    | some i => .ok (.deleted, cat.withPlugins c ((cat.plugins c).eraseIdx i)) := by
  rw [delete, deleteEdit, Edit.made_bind_get]
  split <;> rfl

/-! ### Validation -/

/-- What is wrong with a category. -/
inductive Violation where
  | inPlugin (c : Category) (violation : Plugin.Violation)
  | duplicate (c : Category) (name : String)
  | blankDir
deriving DecidableEq, Repr

/-- The error that reports a violation. -/
def Violation.toError : Violation → ConfigError
  | inPlugin c violation => .invalidValue c.name violation.toError.message
  | duplicate c name => .invalidValue c.name s!"duplicate plugin '{name}'"
  | blankDir => .emptyInput "plugins.dir"

/-- The violations of the plugins after those named in `seen`. -/
def violationsAfter (c : Category) (seen : List String) : List Plugin → List Violation
  | [] => []
  | p :: ps =>
    p.violations.map (.inPlugin c) ++
      (if seen.contains p.name then [.duplicate c p.name] else []) ++
      violationsAfter c (p.name :: seen) ps

/-- The violations in a category. -/
def violationsIn (cat : Catalogue) (c : Category) : List Violation :=
  violationsAfter c [] (cat.plugins c)

/-- The violation of the directory. -/
def dirViolations (cat : Catalogue) : List Violation :=
  if cat.dir.any Text.isBlankText then [.blankDir] else []

/-- All violations, in the order of their report. -/
def violations (cat : Catalogue) : List Violation :=
  cat.dirViolations ++ Category.all.flatMap cat.violationsIn

/-- Succeeds if there is no violation in a category. -/
def validateCategory (cat : Catalogue) (c : Category) : Except ConfigError Unit :=
  ConfigError.collect ((cat.violationsIn c).map Violation.toError)

/-- Succeeds if there is no violation. -/
def validate (cat : Catalogue) : Except ConfigError Unit :=
  ConfigError.collect (cat.violations.map Violation.toError)

end Catalogue

end FleetConfig
