import FleetConfig.Toml.Node
import FleetConfig.Sorted.Map

/-!
# Reading data from documents

A decoder takes the data of one shape from a node. A node of another shape is a fault at the place
of the node or, if no text of its own opens it, of its key.

## Main definitions

* `Toml.Decoder` — takes data from a node.
* `Toml.Decoder.text`, `boolean`, `list`, `map`, `record` — the shapes.
-/

namespace FleetConfig.Toml

/-- Takes data from a node, which is to blame at the place given. -/
abbrev Decoder (α : Type) := Nat → Node → Except Fault α

namespace Decoder

variable {α σ : Type}

/-- The place to blame for the value under a key. -/
def placeOf (key : Key) (node : Node) : Nat := node.left?.getD key.left

/-- A text. -/
def text : Decoder String
  | _, .scalar (.text s) _ => .ok s
  | left, _ => .error ⟨left⟩

/-- A truth value. -/
def boolean : Decoder Bool
  | _, .scalar (.boolean b) _ => .ok b
  | left, _ => .error ⟨left⟩

/-- The items of an array of either kind. -/
def itemsOf? : Node → Option (List Node)
  | .array items _ => some items
  | .tables items => some items
  | _ => none

/-- The items of an array. -/
def list (item : Decoder α) : Decoder (List α)
  | left, node =>
    match itemsOf? node with
    | some items => items.mapM fun n => item (n.left?.getD left) n
    | none => .error ⟨left⟩

/-- The name under which a moment stands when it is read as a table. -/
def momentName : String := "$__toml_private_datetime"

/-- The entries of a table; a moment counts as a table with its text in it. -/
def entriesOf? : Node → Option (List (Key × Node))
  | .table _ _ es => some es
  | .scalar (.moment s) left => some [(⟨momentName, left⟩, .scalar (.text s) left)]
  | _ => none

/-- The values of a table under their names. -/
def map (value : Decoder α) : Decoder (NameMap α)
  | left, node =>
    match entriesOf? node with
    | some es => do
      let pairs ← es.mapM fun e => do return (e.1.name, ← value (placeOf e.1 e.2) e.2)
      return .ofList pairs
    | none => .error ⟨left⟩

/-- The fields of a record with their places: the entries of a table, or the items of an array in
the order of the record's names. -/
def fieldsOf? (names : List String) (left : Nat) (node : Node) :
    Option (List (String × Nat × Node)) :=
  match entriesOf? node with
  | some es => some (es.map fun e => (e.1.name, placeOf e.1 e.2, e.2))
  | none =>
    (itemsOf? node).map fun items =>
      (names.zip items).map fun p => (p.1, p.2.left?.getD left, p.2)

/-- A record: `set` stores a field, and ignores names that the record does not have. -/
def record (names : List String) (set : String → σ → Decoder σ) (init : σ) : Decoder σ
  | left, node =>
    match fieldsOf? names left node with
    | some fields => fields.foldlM (fun acc f => set f.1 acc f.2.1 f.2.2) init
    | none => .error ⟨left⟩

/-- A field that a record must have. -/
def required (left : Nat) : Option α → Except Fault α
  | some a => .ok a
  | none => .error ⟨left⟩

end Decoder

end FleetConfig.Toml
