/-!
# Documents to write

What is written to a document is a tree of entries in order: texts, truth values, lists of texts,
tables, and rows of tables.

## Main definitions

* `Toml.Tree` — a part of a document to write.
* `Toml.Tree.optional`, `Toml.Tree.listUnlessEmpty` — entries that may be left out.
-/

namespace FleetConfig.Toml

/-- A part of a document to write. -/
inductive Tree where
  | text (value : String)
  | boolean (value : Bool)
  | list (items : List String)
  | table (entries : List (String × Tree))
  | tables (items : List (List (String × Tree)))
deriving Inhabited

namespace Tree

/-- The entries of a table. -/
abbrev Entries := List (String × Tree)

/-- An entry for a value that may be absent. -/
def optional {α : Type} (name : String) (encode : α → Tree) : Option α → Entries
  | some a => [(name, encode a)]
  | none => []

/-- An entry for a list, left out if the list is empty. -/
def listUnlessEmpty (name : String) (items : List String) : Entries :=
  if items.isEmpty then [] else [(name, .list items)]

/-- An entry for a table, left out if the table is empty. -/
def tableUnlessEmpty (name : String) (entries : Entries) : Entries :=
  if entries.isEmpty then [] else [(name, .table entries)]

/-- An entry for a row of tables, left out if there is none. -/
def tablesUnlessEmpty (name : String) (items : List Entries) : Entries :=
  if items.isEmpty then [] else [(name, .tables items)]

/-- The entries of a table; other parts have none. -/
def entries : Tree → Entries
  | table es => es
  | _ => []

end Tree

end FleetConfig.Toml
