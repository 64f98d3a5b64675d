import FleetConfig.Sorted.Map

/-!
# Sets of names

A `NameSet` holds finitely many names in their order, in normal form.

## Main definitions

* `NameSet` — a map from names to nothing.
* `NameSet.ofList`, `NameSet.toList`, `NameSet.insert`, `NameSet.erase`, `NameSet.contains`.
-/

namespace FleetConfig

/-- A finite set of names, in the order of the names. -/
structure NameSet where
  /-- The names, as the keys of a map. -/
  map : NameMap Unit
deriving DecidableEq

namespace NameSet

/-- The set without names. -/
def empty : NameSet := ⟨.empty⟩

instance : Inhabited NameSet := ⟨empty⟩

/-- The names of a list, sorted and each once. -/
def ofList (names : List String) : NameSet := ⟨.ofList (names.map fun n => (n, ()))⟩

/-- The names in order. -/
def toList (s : NameSet) : List String := s.map.keys

/-- Adds a name. -/
def insert (s : NameSet) (name : String) : NameSet := ⟨s.map.insert name ()⟩

/-- Removes a name. -/
def erase (s : NameSet) (name : String) : NameSet := ⟨s.map.erase name⟩

/-- Decides membership. -/
def contains (s : NameSet) (name : String) : Bool := (s.map.get? name).isSome

end NameSet

end FleetConfig
