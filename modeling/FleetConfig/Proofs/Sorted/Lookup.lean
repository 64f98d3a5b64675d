import FleetConfig.Proofs.Sorted.Keys

/-!
# Look-up in maps after changes

A map is known by what is found in it. An entry that is stored is found under its name, an entry
that is removed is not, and nothing else is found differently.

## Main results

* `NameMap.get?_eq_some_iff` — what is found are the entries.
* `NameMap.get?_insert`, `NameMap.get?_erase` — what is found after a change.
* `NameMap.mem_keys_iff` — something is found under the names of a map.
* `NameMap.ext_get?`, `NameSet.ext_contains` — maps and sets are known by what is found in them.
* `NameMap.foldl_insert_twice`, `NameSet.foldl_insert_twice`, `NameSet.foldl_erase_twice` — a row
  of changes that is made twice.
-/

namespace FleetConfig

namespace Sorted

variable {α : Type} {name other : String} {es : List (String × α)}

theorem mem_of_lookup? {value : α} (h : lookup? name es = some value) : (name, value) ∈ es := by
  induction es with
  | nil => cases h
  | cons e es ih =>
    rw [lookup?] at h
    split at h
    · rename_i hname
      cases h
      rw [hname]
      exact List.mem_cons_self
    · exact List.mem_cons_of_mem e (ih h)

theorem lookup?_eq_none (h : name ∉ es.map Prod.fst) : lookup? name es = none := by
  cases hvalue : lookup? name es with
  | none => rfl
  | some value => exact absurd (List.mem_map_of_mem (mem_of_lookup? hvalue)) h

/-- A name that stands once is not found after it is removed. -/
theorem lookup?_eraseEntry_self (h : (es.map Prod.fst).Nodup) :
    lookup? name (eraseEntry name es) = none := by
  induction es with
  | nil => rfl
  | cons e es ih =>
    obtain ⟨hnew, hes⟩ := List.nodup_cons.1 h
    rw [eraseEntry]
    split
    · rename_i hname
      rw [← hname] at hnew
      exact lookup?_eq_none hnew
    · rename_i hname
      rw [lookup?, if_neg hname]
      exact ih hes

theorem lookup?_eraseEntry_of_ne (h : other ≠ name) :
    lookup? other (eraseEntry name es) = lookup? other es := by
  induction es with
  | nil => rfl
  | cons e es ih =>
    rw [eraseEntry]
    split
    · rename_i hname
      rw [lookup?, if_neg (hname ▸ h)]
    · rw [lookup?, lookup?, ih]

end Sorted

namespace NameMap

variable {α : Type} {m m₁ m₂ : NameMap α} {name other : String} {value : α}

/-- What is found under a name is the entry of the name. -/
theorem get?_eq_some_iff : m.get? name = some value ↔ (name, value) ∈ m.entries :=
  ⟨Sorted.mem_of_lookup?, fun h => Sorted.lookup?_eq_some_of_mem m.nodup_keys h⟩

/-- Something is found under the names of a map. -/
theorem mem_keys_iff : name ∈ m.keys ↔ ∃ value, m.get? name = some value := by
  simp only [get?_eq_some_iff, keys, List.mem_map, Prod.exists, exists_and_right, exists_eq_right]

theorem get?_insert (m : NameMap α) (name : String) (value : α) (other : String) :
    (m.insert name value).get? other = if other = name then some value else m.get? other :=
  Sorted.lookup?_insertEntry (name, value) m.entries

theorem get?_erase (m : NameMap α) (name other : String) :
    (m.erase name).get? other = if other = name then none else m.get? other := by
  split
  · rename_i h
    rw [h]
    exact Sorted.lookup?_eraseEntry_self m.nodup_keys
  · rename_i h
    exact Sorted.lookup?_eraseEntry_of_ne h

/-- Maps in which the same is found are the same. -/
theorem ext_get? (h : ∀ name, m₁.get? name = m₂.get? name) : m₁ = m₂ := by
  have hmem : ∀ e : String × α, e ∈ m₁.entries ↔ e ∈ m₂.entries := fun e => by
    rw [← get?_eq_some_iff, ← get?_eq_some_iff, h]
  have hperm : m₁.entries.Perm m₂.entries :=
    (List.perm_ext_iff_of_nodup m₁.nodup_keys.of_map m₂.nodup_keys.of_map).2 hmem
  refine ext (hperm.eq_of_pairwise (fun a b _ _ hab hba => ?_) m₁.ascending m₂.ascending)
  exact absurd hba (String.lt_asymm hab)

/-! ### Rows of changes -/

/-- After a row of entries is stored, the last one of a name is found. -/
theorem get?_foldl_insert (pairs : List (String × α)) (m : NameMap α) (name : String) :
    (pairs.foldl (fun m p => m.insert p.1 p.2) m).get? name =
      (Sorted.lookup? name pairs.reverse).or (m.get? name) := by
  induction pairs generalizing m with
  | nil => rfl
  | cons p pairs ih =>
    rw [List.foldl_cons, ih, get?_insert, List.reverse_cons, Sorted.lookup?_append, Option.or_assoc]
    congr 1
    rw [Sorted.lookup?]
    split <;> rfl

/-- To store a row of entries twice is to store it once. -/
theorem foldl_insert_twice (pairs : List (String × α)) (m : NameMap α) :
    pairs.foldl (fun m p => m.insert p.1 p.2) (pairs.foldl (fun m p => m.insert p.1 p.2) m) =
      pairs.foldl (fun m p => m.insert p.1 p.2) m :=
  ext_get? fun name => by
    rw [get?_foldl_insert, get?_foldl_insert, ← Option.or_assoc, Option.or_self]

end NameMap

namespace NameSet

variable {s₁ s₂ : NameSet}

/-- Sets with the same names are the same. -/
theorem ext_contains (h : ∀ name, s₁.contains name = s₂.contains name) : s₁ = s₂ := by
  obtain ⟨m₁⟩ := s₁
  obtain ⟨m₂⟩ := s₂
  refine congrArg mk (NameMap.ext_get? fun name => ?_)
  have hsome : (m₁.get? name).isSome = (m₂.get? name).isSome := h name
  cases h₁ : m₁.get? name <;> cases h₂ : m₂.get? name <;> rw [h₁, h₂] at hsome <;> trivial

theorem contains_foldl_insert (names : List String) (s : NameSet) (name : String) :
    (names.foldl insert s).contains name = (decide (name ∈ names) || s.contains name) := by
  induction names generalizing s with
  | nil => simp
  | cons n names ih =>
    rw [List.foldl_cons, ih, insert, contains, NameMap.get?_insert, contains]
    by_cases h : name = n <;> simp [h]

theorem contains_foldl_erase (names : List String) (s : NameSet) (name : String) :
    (names.foldl erase s).contains name = (!decide (name ∈ names) && s.contains name) := by
  induction names generalizing s with
  | nil => simp
  | cons n names ih =>
    rw [List.foldl_cons, ih, erase, contains, NameMap.get?_erase, contains]
    by_cases h : name = n <;> simp [h]

/-- To add names twice is to add them once. -/
theorem foldl_insert_twice (names : List String) (s : NameSet) :
    names.foldl insert (names.foldl insert s) = names.foldl insert s :=
  ext_contains fun name => by
    rw [contains_foldl_insert, contains_foldl_insert, ← Bool.or_assoc, Bool.or_self]

/-- To remove names twice is to remove them once. -/
theorem foldl_erase_twice (names : List String) (s : NameSet) :
    names.foldl erase (names.foldl erase s) = names.foldl erase s :=
  ext_contains fun name => by
    rw [contains_foldl_erase, contains_foldl_erase, ← Bool.and_assoc, Bool.and_self]

end NameSet

end FleetConfig
