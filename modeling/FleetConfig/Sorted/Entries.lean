/-!
# Sorted entries

Named entries are kept in the order of their names, each name at most once. Texts are ordered by
code point, which is also the order of their bytes in UTF-8.

## Main definitions

* `Sorted.insertEntry`, `Sorted.eraseEntry`, `Sorted.lookup?` — one entry at a time.
* `Sorted.Ascending` — names strictly ascend.

## Main results

* `Sorted.Ascending.insertEntry`, `Sorted.Ascending.eraseEntry` — both keep the order.
* `Sorted.lookup?_insertEntry_self` — an inserted entry is found.
-/

namespace FleetConfig.Sorted

variable {α : Type}

/-! ### Operations -/

/-- Puts an entry in its place, over one of the same name. -/
def insertEntry (name : String) (value : α) : List (String × α) → List (String × α)
  | [] => [(name, value)]
  | e :: es =>
    if name < e.1 then (name, value) :: e :: es
    else if name = e.1 then (name, value) :: es
    else e :: insertEntry name value es

/-- Removes the entry of a name. -/
def eraseEntry (name : String) : List (String × α) → List (String × α)
  | [] => []
  | e :: es => if name = e.1 then es else e :: eraseEntry name es

/-- The value under a name. -/
def lookup? (name : String) : List (String × α) → Option α
  | [] => none
  | e :: es => if name = e.1 then some e.2 else lookup? name es

/-- Sorts entries by name; of two under one name the later counts. -/
def ofEntries (es : List (String × α)) : List (String × α) :=
  es.foldl (fun acc e => insertEntry e.1 e.2 acc) []

/-! ### Order -/

/-- Names strictly ascend. -/
def Ascending (es : List (String × α)) : Prop := es.Pairwise fun a b => a.1 < b.1

instance (es : List (String × α)) : Decidable (Ascending es) :=
  inferInstanceAs (Decidable (es.Pairwise fun a b => a.1 < b.1))

theorem fst_mem_insertEntry {name : String} {value : α} {es : List (String × α)}
    {x : String × α} (h : x ∈ insertEntry name value es) : x.1 = name ∨ x ∈ es := by
  induction es with
  | nil => simp_all [insertEntry]
  | cons e es ih =>
    simp only [insertEntry] at h
    split at h
    · rcases List.mem_cons.1 h with rfl | h
      · exact .inl rfl
      · exact .inr h
    · split at h
      · rcases List.mem_cons.1 h with rfl | h
        · exact .inl rfl
        · exact .inr (List.mem_cons_of_mem _ h)
      · rcases List.mem_cons.1 h with rfl | h
        · exact .inr List.mem_cons_self
        · exact (ih h).imp id (List.mem_cons_of_mem _)

theorem Ascending.insertEntry {name : String} {value : α} {es : List (String × α)}
    (h : Ascending es) : Ascending (insertEntry name value es) := by
  induction es with
  | nil => simp [Sorted.insertEntry, Ascending]
  | cons e es ih =>
    have hc := List.pairwise_cons.1 h
    simp only [Sorted.insertEntry]
    split
    · rename_i hlt
      refine List.pairwise_cons.2 ⟨fun x hx => ?_, h⟩
      rcases List.mem_cons.1 hx with rfl | hx
      · exact hlt
      · exact String.lt_trans hlt (hc.1 x hx)
    · split
      · rename_i _ heq
        exact List.pairwise_cons.2 ⟨fun x hx => by simpa [heq] using hc.1 x hx, hc.2⟩
      · rename_i hge hne
        refine List.pairwise_cons.2 ⟨fun x hx => ?_, ih hc.2⟩
        rcases fst_mem_insertEntry hx with hx | hx
        · rw [hx]
          rcases String.le_total e.1 name with hle | hle
          · exact Classical.byContradiction fun hn =>
              hne (String.le_antisymm (String.not_lt.1 hn) hle)
          · exact Classical.byContradiction fun hn =>
              hne (String.le_antisymm hle (String.not_lt.1 hge))
        · exact hc.1 x hx

theorem mem_of_mem_eraseEntry {name : String} {es : List (String × α)} {x : String × α}
    (h : x ∈ eraseEntry name es) : x ∈ es := by
  induction es with
  | nil => simp [eraseEntry] at h
  | cons e es ih =>
    simp only [eraseEntry] at h
    split at h
    · exact List.mem_cons_of_mem _ h
    · rcases List.mem_cons.1 h with rfl | h
      · exact List.mem_cons_self
      · exact List.mem_cons_of_mem _ (ih h)

theorem Ascending.eraseEntry {name : String} {es : List (String × α)} (h : Ascending es) :
    Ascending (eraseEntry name es) := by
  induction es with
  | nil => simp [Sorted.eraseEntry, Ascending]
  | cons e es ih =>
    have hc := List.pairwise_cons.1 h
    simp only [Sorted.eraseEntry]
    split
    · exact hc.2
    · exact List.pairwise_cons.2 ⟨fun x hx => hc.1 x (mem_of_mem_eraseEntry hx), ih hc.2⟩

theorem Ascending.ofEntries (es : List (String × α)) : Ascending (ofEntries es) := by
  suffices h : ∀ acc, Ascending acc →
      Ascending (es.foldl (fun acc e => Sorted.insertEntry e.1 e.2 acc) acc) from h [] .nil
  induction es with
  | nil => exact fun _ h => h
  | cons e es ih => exact fun acc h => ih _ h.insertEntry

/-! ### Look-up -/

theorem lookup?_insertEntry_self (name : String) (value : α) (es : List (String × α)) :
    lookup? name (insertEntry name value es) = some value := by
  induction es with
  | nil => simp [insertEntry, lookup?]
  | cons e es ih =>
    simp only [insertEntry]
    split
    · simp [lookup?]
    · split
      · simp [lookup?]
      · rename_i hne
        simp [lookup?, hne, ih]

theorem lookup?_insertEntry_of_ne {name other : String} (h : other ≠ name) (value : α)
    (es : List (String × α)) :
    lookup? other (insertEntry name value es) = lookup? other es := by
  induction es with
  | nil => simp [insertEntry, lookup?, h]
  | cons e es ih =>
    simp only [insertEntry]
    split
    · simp [lookup?, h]
    · split
      · rename_i heq
        subst heq
        simp [lookup?, h]
      · simp only [lookup?, ih]

end FleetConfig.Sorted
