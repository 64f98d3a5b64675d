import FleetConfig.Sorted.Entries

/-!
# Maps from names

A `NameMap` holds a value for each of finitely many names, in the order of the names. Its entries
are in normal form, so two maps with the same entries are equal.

## Main definitions

* `NameMap` — entries with strictly ascending names.
* `NameMap.get?`, `NameMap.insert`, `NameMap.erase`, `NameMap.ofList`.
-/

namespace FleetConfig

/-- Values under names, in the order of the names. -/
structure NameMap (α : Type) where
  /-- The entries, in order. -/
  entries : List (String × α)
  /-- No name stands twice, and the order is that of the names. -/
  ascending : Sorted.Ascending entries
deriving DecidableEq

namespace NameMap

variable {α : Type}

/-- The map without entries. -/
def empty : NameMap α := ⟨[], .nil⟩

instance : Inhabited (NameMap α) := ⟨empty⟩

/-- The value under a name. -/
def get? (m : NameMap α) (name : String) : Option α := Sorted.lookup? name m.entries

/-- Stores a value under a name, over an earlier one. -/
def insert (m : NameMap α) (name : String) (value : α) : NameMap α :=
  ⟨Sorted.insertEntry name value m.entries, m.ascending.insertEntry⟩

/-- Removes a name. -/
def erase (m : NameMap α) (name : String) : NameMap α :=
  ⟨Sorted.eraseEntry name m.entries, m.ascending.eraseEntry⟩

/-- The map of a list of entries; of two under one name the later counts. -/
def ofList (es : List (String × α)) : NameMap α :=
  ⟨Sorted.ofEntries es, .ofEntries es⟩

/-- The names, in order. -/
def keys (m : NameMap α) : List String := m.entries.map Prod.fst

/-- Holds of the map without entries. -/
def isEmpty (m : NameMap α) : Bool := m.entries.isEmpty

end NameMap

end FleetConfig
