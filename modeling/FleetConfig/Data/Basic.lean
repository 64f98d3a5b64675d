import FleetConfig.Setting.Value
import FleetConfig.Toml.Tree

/-!
# Structured data

What a command reports can be given to other programs as structured data: nothing, switches,
numbers, texts, lists and records, whose fields keep their order.

## Main definitions

* `Data` — structured data.
* `Data.ofTree`, `Data.ofEntries` — a document as data.
* `Setting.toData` — a setting as data.
-/

namespace FleetConfig

/-- Structured data. -/
inductive Data where
  | null
  | switch (value : Bool)
  | number (value : Nat)
  | text (value : String)
  | list (items : List Data)
  | record (fields : List (String × Data))
deriving Inhabited

namespace Data

/-- A list of texts. -/
def texts (items : List String) : Data := list (items.map text)

/-- A text that may be absent. -/
def optionalText : Option String → Data
  | some s => text s
  | none => null

mutual

/-- A part of a document as data. -/
def ofTree : Toml.Tree → Data
  | .text s => text s
  | .boolean b => switch b
  | .list items => texts items
  | .table es => record (ofEntries es)
  | .tables items => list (ofItems items)

/-- The entries of a table as fields. -/
def ofEntries : List (String × Toml.Tree) → List (String × Data)
  | [] => []
  | (name, tree) :: es => (name, ofTree tree) :: ofEntries es

/-- A row of tables as records. -/
def ofItems : List (List (String × Toml.Tree)) → List Data
  | [] => []
  | es :: items => record (ofEntries es) :: ofItems items

end

end Data

/-! ### Settings -/

namespace Setting

/-- A single setting as data; a duration is its text. -/
def Leaf.toData : Leaf → Data
  | .text s => .text s
  | .switch b => .switch b
  | .duration d => .text d.text
  | .list items => .texts items

mutual

/-- A setting as data. -/
def toData : Setting → Data
  | leaf l => l.toData
  | table es => .record (fieldsOf es)

/-- The entries of a table as fields. -/
def fieldsOf : List (String × Setting) → List (String × Data)
  | [] => []
  | (name, s) :: es => (name, toData s) :: fieldsOf es

end

end Setting

end FleetConfig
