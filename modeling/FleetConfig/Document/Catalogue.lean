import FleetConfig.Plugin.Catalogue
import FleetConfig.Toml.Decoder
import FleetConfig.Toml.Tree

/-!
# Plugins in documents

## Main definitions

* `Plugin.decode`, `Plugin.encode` — a plugin as it is read from and written to a document.
* `Catalogue.decode`, `Catalogue.encode` — the section of plugins.
-/

namespace FleetConfig

open Toml (Decoder Tree Fault Node)

namespace Plugin

/-! ### Flows -/

/-- Holds of an array or a table without parts. -/
def isEmptyNode : Node → Bool
  | .array items _ => items.isEmpty
  | .tables items => items.isEmpty
  | .table _ _ es => es.isEmpty
  | .scalar _ _ => false

/-- Reads a flow from its name, or from a table with that name as its only key and nothing under
it. -/
def Flow.decode : Decoder Flow
  | left, .scalar (.text s) _ => Decoder.required left (Flow.ofName? s)
  | _, .table _ _ [(key, node)] => do
    let flow ← Decoder.required key.left (Flow.ofName? key.name)
    if isEmptyNode node then return flow else .error ⟨Decoder.placeOf key node⟩
  | left, _ => .error ⟨left⟩

/-! ### Plugins -/

/-- The fields of a plugin that is being read. -/
structure Draft where
  name : Option String := none
  flows : Option FlowSet := none
  required : Option Bool := none
  commitHash : Option String := none

/-- Reads a plugin. -/
def decode : Decoder Plugin := fun left node => do
  let draft ← Decoder.record ["name", "flows", "required", "commit_hash"]
    (fun name acc left node =>
      match name with
      | "name" => return { acc with name := some (← Decoder.text left node) }
      | "flows" =>
        return { acc with flows := some (.ofList (← Decoder.list Flow.decode left node)) }
      | "required" => return { acc with required := some (← Decoder.boolean left node) }
      | "commit_hash" => return { acc with commitHash := some (← Decoder.text left node) }
      | _ => return acc) ({} : Draft) left node
  let name ← Decoder.required left draft.name
  let flows ← Decoder.required left draft.flows
  return { name, flows, required := draft.required, commitHash := draft.commitHash }

/-- The entries of a plugin. -/
def encode (p : Plugin) : Tree.Entries :=
  [("name", .text p.name), ("flows", .list (p.flows.toList.map Flow.name))] ++
    Tree.optional "required" .boolean p.required ++ Tree.optional "commit_hash" .text p.commitHash

end Plugin

namespace Catalogue

open Plugin (Category)

/-! ### Catalogues -/

/-- Reads the section of plugins. -/
def decode : Decoder Catalogue :=
  Decoder.record ("dir" :: Category.all.map Category.name) (fun name acc left node =>
    if name = "dir" then return { acc with dir := some (← Decoder.text left node) }
    else
      match Category.all.find? fun c => c.name == name with
      | some c => return acc.withPlugins c (← Decoder.list Plugin.decode left node)
      | none => return acc) {}

/-- The entries of the section of plugins. -/
def encode (cat : Catalogue) : Tree :=
  .table (Tree.optional "dir" .text cat.dir ++
    Category.all.flatMap fun c =>
      Tree.tablesUnlessEmpty c.name ((cat.plugins c).map Plugin.encode))

end Catalogue

end FleetConfig
