import FleetConfig.Proofs.Toml.Sections

/-!
# Entries that can be written

Names must stand once in a table, and the values of a table must stand in front of its tables, since
all that follows a header belongs to it. A row of tables that is empty cannot be written. The depth
of the tables bounds the length of the paths in the headers.

## Main definitions

* `Toml.valuesOf`, `Toml.tablesOf` — the entries with a value, and those with sections of their own.
* `Toml.WellFormed` — entries that can be written.

## Main results

* `Toml.Ordered.valuesOf_append_tablesOf` — the values and the tables are all entries, in order.
* `Toml.headersWithin_sectionsOfEntries` — the paths of headers are no longer than tables are deep.
-/

namespace FleetConfig.Toml

/-! ### Values and tables -/

theorem isTable_boolean (b : Bool) : isTable (.boolean b) = false := by cases b <;> rfl

/-- The entries with a value on a line. -/
def valuesOf (es : Tree.Entries) : Tree.Entries := es.filter fun e => !isTable e.2

/-- The entries with sections of their own. -/
def tablesOf (es : Tree.Entries) : Tree.Entries := es.filter fun e => isTable e.2

section Cons

variable {e : String × Tree} {es : Tree.Entries}

theorem valuesOf_cons_of_table (h : isTable e.2 = true) : valuesOf (e :: es) = valuesOf es :=
  List.filter_cons_of_neg (by simp [h])

theorem valuesOf_cons_of_value (h : isTable e.2 = false) :
    valuesOf (e :: es) = e :: valuesOf es :=
  List.filter_cons_of_pos (by simp [h])

theorem tablesOf_cons_of_table (h : isTable e.2 = true) :
    tablesOf (e :: es) = e :: tablesOf es :=
  List.filter_cons_of_pos h

theorem tablesOf_cons_of_value (h : isTable e.2 = false) : tablesOf (e :: es) = tablesOf es :=
  List.filter_cons_of_neg (by simp [h])

end Cons

/-! ### Well-formed entries -/

/-- Each name stands once, and the values stand in front of the tables. -/
structure Ordered (es : Tree.Entries) : Prop where
  nodup : (es.map Prod.fst).Nodup
  values_first : es.Pairwise fun a b => isTable a.2 = true → isTable b.2 = true

/-- Each table in a part of a document is as `ok` says; a row of tables has at least one. -/
def TablesAll (ok : Tree.Entries → Prop) : Tree → Prop
  | .table es => ok es
  | .tables items => items ≠ [] ∧ ∀ es ∈ items, ok es
  | _ => True

/-- Entries that can be written, with tables in each other up to a depth. -/
def WellFormed : Nat → Tree.Entries → Prop
  | 0, es => Ordered es ∧ ∀ e ∈ es, isTable e.2 = false
  | depth + 1, es => Ordered es ∧ ∀ e ∈ es, TablesAll (WellFormed depth) e.2

theorem tablesAll_of_isTable_eq_false {tree : Tree} (h : isTable tree = false)
    (ok : Tree.Entries → Prop) : TablesAll ok tree := by
  cases tree with
  | text _ => trivial
  | boolean _ => trivial
  | list _ => trivial
  | table _ => cases h
  | tables _ => cases h

theorem Ordered.tail {e : String × Tree} {es : Tree.Entries} (h : Ordered (e :: es)) :
    Ordered es where
  nodup := (List.nodup_cons.1 h.nodup).2
  values_first := (List.pairwise_cons.1 h.values_first).2

/-- The values and the tables are all entries, in order. -/
theorem Ordered.valuesOf_append_tablesOf {es : Tree.Entries} (h : Ordered es) :
    valuesOf es ++ tablesOf es = es := by
  induction es with
  | nil => rfl
  | cons e es ih =>
    cases htable : isTable e.2 with
    | true =>
      -- Behind a table there are only tables.
      have hall : ∀ e' ∈ es, isTable e'.2 = true := fun e' he' =>
        (List.pairwise_cons.1 h.values_first).1 e' he' htable
      have hvalues : valuesOf es = [] :=
        List.filter_eq_nil_iff.2 fun e' he' => by simp [hall e' he']
      have htables : tablesOf es = es := List.filter_eq_self.2 hall
      rw [valuesOf_cons_of_table htable, tablesOf_cons_of_table htable, hvalues, htables,
        List.nil_append]
    | false =>
      rw [valuesOf_cons_of_value htable, tablesOf_cons_of_value htable, List.cons_append,
        ih h.tail]

/-- No table has the name of a value. -/
theorem Ordered.ne_of_mem {es : Tree.Entries} (h : Ordered es) {a b : String × Tree}
    (ha : a ∈ valuesOf es) (hb : b ∈ tablesOf es) : a.1 ≠ b.1 := by
  have hnodup := h.nodup
  rw [← h.valuesOf_append_tablesOf, List.map_append, List.nodup_append] at hnodup
  exact hnodup.2.2 _ (List.mem_map_of_mem ha) _ (List.mem_map_of_mem hb)

namespace WellFormed

variable {depth : Nat} {e : String × Tree} {es : Tree.Entries}

theorem ordered (h : WellFormed depth es) : Ordered es := by
  cases depth <;> exact h.1

theorem tail (h : WellFormed depth (e :: es)) : WellFormed depth es := by
  cases depth <;> exact ⟨h.1.tail, fun e' he' => h.2 e' (List.mem_cons_of_mem e he')⟩

theorem part (h : WellFormed depth es) (he : e ∈ es) :
    ∃ depth', TablesAll (WellFormed depth') e.2 := by
  cases depth with
  | zero => exact ⟨0, tablesAll_of_isTable_eq_false (h.2 e he) _⟩
  | succ depth => exact ⟨depth, h.2 e he⟩

end WellFormed

/-! ### Depth of the sections -/

theorem sections_of_isTable_eq_false {tree : Tree} (h : isTable tree = false)
    (path : List String) : sections path tree = [] := by
  cases tree with
  | table _ => cases h
  | tables _ => cases h
  | _ =>
    rw [sections]
    all_goals
      intro _ h
      cases h

/-- The paths of the headers of some sections are longer than `path`, by `depth` at most. -/
def HeadersWithin (path : List String) (depth : Nat) (ss : List Section) : Prop :=
  ∀ s ∈ ss, ∀ h ∈ s.header, h.2 ≠ [] ∧ h.2.length ≤ path.length + depth

theorem headersWithin_append {path : List String} {depth : Nat} {ss ss' : List Section} :
    HeadersWithin path depth (ss ++ ss') ↔
      HeadersWithin path depth ss ∧ HeadersWithin path depth ss' :=
  List.forall_mem_append

mutual

theorem headersWithin_sections {path : List String} (hpath : path ≠ []) {depth : Nat} :
    (tree : Tree) → TablesAll (WellFormed depth) tree →
      HeadersWithin path depth (sections path tree)
  | .table es, h => by
    rw [sections]
    refine List.forall_mem_cons.2 ⟨fun header hheader => ?_, ?_⟩
    · rw [tableSection] at hheader
      split at hheader
      · cases hheader
      · cases hheader
        exact ⟨hpath, Nat.le_add_right _ _⟩
    · exact headersWithin_sectionsOfEntries path es h
  | .tables items, h => by
    rw [sections]
    exact headersWithin_sectionsOfItems hpath items h.2
  | .text _, _ => by
    rw [sections_of_isTable_eq_false rfl]
    exact fun _ h => nomatch h
  | .boolean b, _ => by
    rw [sections_of_isTable_eq_false (isTable_boolean b)]
    exact fun _ h => nomatch h
  | .list _, _ => by
    rw [sections_of_isTable_eq_false rfl]
    exact fun _ h => nomatch h

theorem headersWithin_sectionsOfEntries (path : List String) {depth : Nat} :
    (es : List (String × Tree)) → WellFormed depth es →
      HeadersWithin path depth (sectionsOfEntries path es)
  | [], _ => fun _ h => nomatch h
  | (name, tree) :: es, h => by
    rw [sectionsOfEntries, headersWithin_append]
    refine ⟨?_, headersWithin_sectionsOfEntries path es h.tail⟩
    cases depth with
    | zero =>
      rw [sections_of_isTable_eq_false (h.2 _ List.mem_cons_self)]
      exact fun _ h => nomatch h
    | succ depth =>
      intro s hs header hheader
      have hdeep := headersWithin_sections (List.concat_ne_nil name path) tree
        (h.2 _ List.mem_cons_self) s hs header hheader
      rw [List.length_append, List.length_singleton] at hdeep
      exact ⟨hdeep.1, by omega⟩

theorem headersWithin_sectionsOfItems {path : List String} (hpath : path ≠ []) {depth : Nat} :
    (items : List (List (String × Tree))) → (∀ es ∈ items, WellFormed depth es) →
      HeadersWithin path depth (sectionsOfItems path items)
  | [], _ => fun _ h => nomatch h
  | es :: items, h => by
    rw [sectionsOfItems, headersWithin_append]
    refine ⟨List.forall_mem_cons.2 ⟨fun header hheader => ?_, ?_⟩, ?_⟩
    · cases hheader
      exact ⟨hpath, Nat.le_add_right _ _⟩
    · exact headersWithin_sectionsOfEntries path es (h es List.mem_cons_self)
    · exact headersWithin_sectionsOfItems hpath items fun es' hes' =>
        h es' (List.mem_cons_of_mem es hes')

end

end FleetConfig.Toml
