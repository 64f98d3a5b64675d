import FleetConfig.Sorted.Set
import Mathlib.Data.List.Dedup

/-!
# Sorted entries

Sorting the entries of a map, or the names of a set, gives back the map or the set. Entries that
ascend already are only appended one after the other. Any other list of entries that is sorted by
name has the names of the list, each once, and the last of the entries of a name.

## Main results

* `Sorted.ofEntries_of_ascending` — sorting ascending entries changes nothing.
* `NameMap.ofList_entries`, `NameSet.ofList_toList` — maps and sets from their own lists.
* `Sorted.lookup?_ofEntries` — what is found after sorting.
* `NameMap.get?_ofList_of_mem` — an entry whose name stands once is found.
* `NameMap.mem_keys_ofList`, `NameMap.nodup_keys` — the names of a map.
* `NameMap.length_keys_ofList_eq_iff` — when a map has as many entries as its list.
-/

namespace FleetConfig

/-! ### Rebuilding -/

namespace Sorted

variable {α : Type}

theorem insertEntry_of_forall_lt {name : String} (value : α) {es : List (String × α)}
    (h : ∀ e ∈ es, e.1 < name) : insertEntry name value es = es ++ [(name, value)] := by
  induction es with
  | nil => rfl
  | cons e es ih =>
    have he : e.1 < name := h e List.mem_cons_self
    have hlt : ¬name < e.1 := String.lt_asymm he
    have hne : name ≠ e.1 := fun heq => String.lt_irrefl name (heq ▸ he)
    rw [insertEntry, if_neg hlt, if_neg hne, ih fun x hx => h x (List.mem_cons_of_mem e hx)]
    rfl

/-- The entries that are there ascend and lie below those still to come. -/
private theorem foldl_insertEntry (acc : List (String × α)) {es : List (String × α)}
    (h : Ascending (acc ++ es)) :
    es.foldl (fun acc e => insertEntry e.1 e.2 acc) acc = acc ++ es := by
  induction es generalizing acc with
  | nil => simp
  | cons e es ih =>
    have hlt : ∀ x ∈ acc, x.1 < e.1 := fun x hx =>
      (List.pairwise_append.1 h).2.2 x hx e List.mem_cons_self
    have hnext : Ascending ((acc ++ [e]) ++ es) := by simpa [Ascending] using h
    rw [List.foldl_cons, insertEntry_of_forall_lt e.2 hlt, ih _ hnext]
    simp

/-- Sorting ascending entries changes nothing. -/
theorem ofEntries_of_ascending {es : List (String × α)} (h : Ascending es) :
    ofEntries es = es :=
  foldl_insertEntry [] h

end Sorted

namespace NameMap

variable {α : Type}

theorem ext {a b : NameMap α} (h : a.entries = b.entries) : a = b := by
  cases a
  cases b
  cases h
  rfl

/-- A map is the map of its entries. -/
theorem ofList_entries (m : NameMap α) : ofList m.entries = m :=
  ext (Sorted.ofEntries_of_ascending m.ascending)

end NameMap

namespace NameSet

/-- A set is the set of its names. -/
theorem ofList_toList (s : NameSet) : ofList s.toList = s := by
  have h : s.toList.map (fun n => (n, ())) = s.map.entries := by
    rw [toList, NameMap.keys, List.map_map]
    exact List.map_id _
  rw [ofList, h, NameMap.ofList_entries]

end NameSet

/-! ### Names -/

namespace Sorted

variable {α : Type} {name : String}

theorem lookup?_append (xs ys : List (String × α)) :
    lookup? name (xs ++ ys) = (lookup? name xs).or (lookup? name ys) := by
  induction xs with
  | nil => rfl
  | cons x xs ih =>
    rw [List.cons_append, lookup?, lookup?]
    split
    · rfl
    · exact ih

theorem lookup?_insertEntry (e : String × α) (es : List (String × α)) :
    lookup? name (insertEntry e.1 e.2 es) = lookup? name (e :: es) := by
  rw [lookup?]
  by_cases h : name = e.1
  · rw [if_pos h, h, lookup?_insertEntry_self]
  · rw [if_neg h, lookup?_insertEntry_of_ne h]

/-- Of the entries of a name the last one is found after sorting. -/
theorem lookup?_ofEntries (es : List (String × α)) :
    lookup? name (ofEntries es) = lookup? name es.reverse := by
  suffices h : ∀ acc, lookup? name (es.foldl (fun acc e => insertEntry e.1 e.2 acc) acc) =
      lookup? name (es.reverse ++ acc) by
    rw [ofEntries, h, List.append_nil]
  induction es with
  | nil => exact fun acc => rfl
  | cons e es ih =>
    intro acc
    rw [List.foldl_cons, ih, List.reverse_cons, List.append_assoc, List.singleton_append,
      lookup?_append, lookup?_insertEntry, ← lookup?_append]

theorem lookup?_eq_some_of_mem {e : String × α} {es : List (String × α)}
    (hnodup : (es.map Prod.fst).Nodup) (h : e ∈ es) : lookup? e.1 es = some e.2 := by
  induction es with
  | nil => cases h
  | cons x xs ih =>
    obtain ⟨hx, hxs⟩ := List.nodup_cons.1 hnodup
    rw [lookup?]
    rcases List.mem_cons.1 h with rfl | h
    · exact if_pos rfl
    · have hne : e.1 ≠ x.1 := fun heq => hx (heq ▸ List.mem_map_of_mem h)
      rw [if_neg hne]
      exact ih hxs h

theorem mem_map_fst_insertEntry {n : String} {value : α} {es : List (String × α)} :
    name ∈ (insertEntry n value es).map Prod.fst ↔ name = n ∨ name ∈ es.map Prod.fst := by
  induction es with
  | nil => simp [insertEntry]
  | cons e es ih =>
    rw [insertEntry]
    split
    · rw [List.map_cons, List.mem_cons]
    · split
      · rename_i heq
        rw [List.map_cons, List.map_cons, List.mem_cons, List.mem_cons, ← heq, ← or_assoc, or_self]
      · rw [List.map_cons, List.map_cons, List.mem_cons, List.mem_cons, ih, or_left_comm]

theorem mem_map_fst_ofEntries {es : List (String × α)} :
    name ∈ (ofEntries es).map Prod.fst ↔ name ∈ es.map Prod.fst := by
  suffices h : ∀ acc, name ∈ (es.foldl (fun acc e => insertEntry e.1 e.2 acc) acc).map Prod.fst ↔
      name ∈ es.map Prod.fst ∨ name ∈ acc.map Prod.fst by
    rw [ofEntries, h, List.map_nil, or_iff_left List.not_mem_nil]
  induction es with
  | nil => exact fun acc => ⟨.inr, fun h => h.resolve_left List.not_mem_nil⟩
  | cons e es ih =>
    intro acc
    rw [List.foldl_cons, ih, mem_map_fst_insertEntry, List.map_cons, List.mem_cons, or_assoc,
      or_left_comm]

theorem Ascending.nodup_map_fst {es : List (String × α)} (h : Ascending es) :
    (es.map Prod.fst).Nodup := by
  refine List.pairwise_map.2 (h.imp fun {a b} hlt heq => ?_)
  rw [heq] at hlt
  exact String.lt_irrefl _ hlt

end Sorted

namespace NameMap

variable {α : Type}

/-- An entry whose name stands once in a list is found in the map of the list. -/
theorem get?_ofList_of_mem {e : String × α} {es : List (String × α)}
    (hnodup : (es.map Prod.fst).Nodup) (h : e ∈ es) : (ofList es).get? e.1 = some e.2 := by
  have hreverse : (es.reverse.map Prod.fst).Nodup := by
    rw [List.map_reverse]
    exact (List.reverse_perm _).nodup_iff.2 hnodup
  exact (Sorted.lookup?_ofEntries es).trans
    (Sorted.lookup?_eq_some_of_mem hreverse (List.mem_reverse.2 h))

theorem isEmpty_of_get? {m : NameMap α} {name : String} {value : α}
    (h : m.get? name = some value) : m.isEmpty = false := by
  obtain ⟨es, hes⟩ := m
  cases es with
  | nil => cases h
  | cons e es => rfl

/-- The names of the map of a list are those in the list. -/
theorem mem_keys_ofList {name : String} {es : List (String × α)} :
    name ∈ (ofList es).keys ↔ name ∈ es.map Prod.fst :=
  Sorted.mem_map_fst_ofEntries

theorem nodup_keys (m : NameMap α) : m.keys.Nodup := m.ascending.nodup_map_fst

/-- The map of a list has as many entries as the list if no name stands twice in the list. -/
theorem length_keys_ofList_eq_iff {es : List (String × α)} :
    (ofList es).keys.length = es.length ↔ (es.map Prod.fst).Nodup := by
  have hperm : List.Perm (ofList es).keys (es.map Prod.fst).dedup :=
    (List.perm_ext_iff_of_nodup (nodup_keys _) (List.nodup_dedup _)).2 fun name => by
      rw [mem_keys_ofList, List.mem_dedup]
  rw [hperm.length_eq, ← List.dedup_eq_self, ← List.length_map (Prod.fst : _ → String)]
  constructor
  · exact (List.dedup_sublist _).eq_of_length
  · intro h
    rw [h]

end NameMap

theorem NameSet.nodup_toList (s : NameSet) : s.toList.Nodup := s.map.nodup_keys

end FleetConfig
