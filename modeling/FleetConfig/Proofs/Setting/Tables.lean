import FleetConfig.Proofs.Sorted.Lookup
import FleetConfig.Proofs.Text.Joining
import FleetConfig.Setting.Value
import Mathlib.Data.List.Basic

/-!
# Rows of tables

A table of settings is a tree. Its rows are the leaves with the names that lead to them; flattening
writes these names as dotted paths. A table is built by inserting rows: if no row starts with
another one, none is lost, and in tables whose names ascend at every level the rows ascend.

## Main definitions

* `Setting.rows`, `Setting.entryRows` — the leaves and the names that lead to them.
* `Setting.Ordered`, `Setting.OrderedEntries` — names ascend at every level.
* `Setting.Apart` — neither path starts with the other.

## Main results

* `Setting.flatten_eq`, `Setting.flattenEntries_eq` — flattening writes the rows.
* `Setting.perm_entryRows_insertPath`, `Setting.perm_entryRows_ofPairs` — insertion adds a row.
* `Setting.entryRows_ofPairs` — ascending rows are the rows of the table that they build.
-/

namespace FleetConfig

namespace Sorted

variable {α : Type} {name : String} {value : α} {es : List (String × α)}

/-! ### Entries as a whole -/

theorem ascending_cons_iff {e : String × α} :
    Ascending (e :: es) ↔ (∀ x ∈ es, e.1 < x.1) ∧ Ascending es :=
  List.pairwise_cons

theorem eraseEntry_of_lookup?_eq_none (h : lookup? name es = none) : eraseEntry name es = es := by
  induction es with
  | nil => rfl
  | cons e es ih =>
    rw [lookup?] at h
    split at h
    · cases h
    · rename_i hne
      rw [eraseEntry, if_neg hne, ih h]

/-- What is found under a name is one entry beside those that are left without it. -/
theorem perm_cons_eraseEntry (h : lookup? name es = some value) :
    es.Perm ((name, value) :: eraseEntry name es) := by
  induction es with
  | nil => cases h
  | cons e es ih =>
    rw [lookup?] at h
    rw [eraseEntry]
    split at h
    · rename_i heq
      cases h
      rw [if_pos heq, heq]
    · rename_i hne
      rw [if_neg hne]
      exact ((ih h).cons e).trans (.swap _ e _)

/-- An entry is put beside those that are left without its name. -/
theorem perm_insertEntry (h : Ascending es) :
    (insertEntry name value es).Perm ((name, value) :: eraseEntry name es) := by
  induction es with
  | nil => exact .refl _
  | cons e es ih =>
    obtain ⟨he, hes⟩ := ascending_cons_iff.1 h
    rw [insertEntry, eraseEntry]
    split
    · rename_i hlt
      have hnew : name ∉ (e :: es).map Prod.fst := by
        rw [List.map_cons, List.mem_cons, List.mem_map]
        rintro (heq | ⟨x, hx, heq⟩)
        · exact String.lt_irrefl _ (heq ▸ hlt)
        · exact String.lt_irrefl _ (heq ▸ String.lt_trans hlt (he x hx))
      rw [← eraseEntry, eraseEntry_of_lookup?_eq_none (lookup?_eq_none hnew)]
    · split
      · exact .refl _
      · exact ((ih hes).cons e).trans (.swap _ e _)

end Sorted

namespace Setting

variable {name : String} {names : List String} {value : Leaf} {es : List (String × Setting)}

/-! ### Rows -/

mutual

/-- The leaves of a setting with the names that lead to them, in order. -/
def rows : Setting → List (List String × Leaf)
  | leaf l => [([], l)]
  | table entries => entryRows entries

/-- The leaves of a table's entries. -/
def entryRows : List (String × Setting) → List (List String × Leaf)
  | [] => []
  | (name, s) :: es => (rows s).map (Prod.map (name :: ·) id) ++ entryRows es

end

theorem entryRows_eq_flatMap (es : List (String × Setting)) :
    entryRows es = es.flatMap fun e => e.2.rows.map (Prod.map (e.1 :: ·) id) := by
  induction es with
  | nil => rw [entryRows, List.flatMap_nil]
  | cons e es ih => rw [entryRows, ih, List.flatMap_cons]

theorem mem_entryRows {r : List String × Leaf} :
    r ∈ entryRows es ↔ ∃ e ∈ es, ∃ r' ∈ e.2.rows, (e.1 :: r'.1, r'.2) = r := by
  rw [entryRows_eq_flatMap, List.mem_flatMap]
  simp only [List.mem_map]
  rfl

mutual

/-- Flattening writes the names that lead to a leaf as one path. -/
theorem flatten_eq (path : String) (s : Setting) :
    s.flatten path = s.rows.map (Prod.map (·.foldl extendPath path) id) := by
  cases s with
  | leaf l => rfl
  | table es => exact flattenEntries_eq path es

theorem flattenEntries_eq (path : String) (es : List (String × Setting)) :
    flattenEntries path es = (entryRows es).map (Prod.map (·.foldl extendPath path) id) := by
  cases es with
  | nil => rfl
  | cons e es =>
    rw [flattenEntries, entryRows, List.map_append, List.map_map, flatten_eq, flattenEntries_eq]
    rfl

end

theorem perm_entryRows {es' : List (String × Setting)} (h : es.Perm es') :
    (entryRows es).Perm (entryRows es') := by
  rw [entryRows_eq_flatMap, entryRows_eq_flatMap]
  exact h.flatMap_right _

/-! ### Order -/

mutual

/-- Names ascend at every level. -/
def Ordered : Setting → Prop
  | leaf _ => True
  | table entries => OrderedEntries entries

/-- Names ascend at the level of the entries and at every level below. -/
def OrderedEntries : List (String × Setting) → Prop
  | [] => True
  | (name, s) :: es => s.Ordered ∧ (∀ e ∈ es, name < e.1) ∧ OrderedEntries es

end

theorem orderedEntries_iff :
    OrderedEntries es ↔ Sorted.Ascending es ∧ ∀ e ∈ es, e.2.Ordered := by
  induction es with
  | nil => exact iff_of_true trivial ⟨.nil, nofun⟩
  | cons e es ih =>
    rw [OrderedEntries, ih, List.forall_mem_cons, Sorted.ascending_cons_iff]
    exact ⟨fun ⟨he, hlt, has, hes⟩ => ⟨⟨hlt, has⟩, he, hes⟩,
      fun ⟨⟨hlt, has⟩, he, hes⟩ => ⟨he, hlt, has, hes⟩⟩

mutual

/-- The rows of an ordered setting ascend. -/
theorem Ordered.pairwise_rows {s : Setting} (h : s.Ordered) :
    s.rows.Pairwise fun a b => a.1 < b.1 := by
  cases s with
  | leaf l => exact List.pairwise_singleton _ _
  | table es => exact OrderedEntries.pairwise_entryRows (h : OrderedEntries es)

theorem OrderedEntries.pairwise_entryRows {es : List (String × Setting)} (h : OrderedEntries es) :
    (entryRows es).Pairwise fun a b => a.1 < b.1 := by
  cases es with
  | nil => exact .nil
  | cons e es =>
    obtain ⟨he, hlt, hes⟩ := h
    rw [entryRows, List.pairwise_append, List.pairwise_map]
    refine ⟨he.pairwise_rows.imp fun hab => ?_, hes.pairwise_entryRows, fun a ha b hb => ?_⟩
    · exact List.cons_lt_cons_iff.2 (.inr ⟨rfl, hab⟩)
    · obtain ⟨r, -, rfl⟩ := List.mem_map.1 ha
      obtain ⟨x, hx, r', -, rfl⟩ := mem_entryRows.1 hb
      exact List.cons_lt_cons_iff.2 (.inl (hlt x hx))

end

/-- What is put into ordered entries is ordered, if the setting is. -/
theorem OrderedEntries.insertEntry {s : Setting} (h : OrderedEntries es) (hs : s.Ordered) :
    OrderedEntries (Sorted.insertEntry name s es) := by
  obtain ⟨has, hes⟩ := orderedEntries_iff.1 h
  refine orderedEntries_iff.2 ⟨has.insertEntry, fun e he => ?_⟩
  rcases List.mem_cons.1 ((Sorted.perm_insertEntry has).mem_iff.1 he) with rfl | he
  · exact hs
  · exact hes e (Sorted.mem_of_mem_eraseEntry he)

/-- What is found in ordered entries is ordered. -/
theorem OrderedEntries.of_lookup? {s : Setting} (h : OrderedEntries es)
    (hs : Sorted.lookup? name es = some s) : s.Ordered :=
  (orderedEntries_iff.1 h).2 (name, s) (Sorted.mem_of_lookup? hs)

theorem OrderedEntries.insertPath (h : OrderedEntries es) :
    OrderedEntries (insertPath value names es) := by
  fun_induction Setting.insertPath value names es with
  | case1 es => exact h
  | case2 es name => exact h.insertEntry trivial
  | case3 name next path es hnone ih => exact h.insertEntry (ih trivial)
  | case4 name next path es inner hsome ih => exact h.insertEntry (ih (h.of_lookup? hsome))
  | case5 => exact h

/-! ### Insertion -/

/-- Neither path starts with the other. -/
def Apart (names names' : List String) : Prop := ¬names <+: names' ∧ ¬names' <+: names

instance (names names' : List String) : Decidable (Apart names names') :=
  inferInstanceAs (Decidable (_ ∧ _))

theorem apart_cons_iff {names' : List String} :
    Apart (name :: names) (name :: names') ↔ Apart names names' := by
  simp only [Apart, List.cons_prefix_cons, true_and]

theorem Apart.symm {names' : List String} (h : Apart names names') : Apart names' names :=
  And.symm h

theorem perm_entryRows_insertEntry {s : Setting} (h : OrderedEntries es) :
    (entryRows (Sorted.insertEntry name s es)).Perm
      (s.rows.map (Prod.map (name :: ·) id) ++ entryRows (Sorted.eraseEntry name es)) :=
  perm_entryRows (Sorted.perm_insertEntry (orderedEntries_iff.1 h).1)

/-- An entry has no rows if all rows are apart from it. -/
theorem perm_entryRows_eraseEntry (h : ∀ r ∈ entryRows es, Apart [name] r.1) :
    (entryRows (Sorted.eraseEntry name es)).Perm (entryRows es) := by
  cases hs : Sorted.lookup? name es with
  | none => rw [Sorted.eraseEntry_of_lookup?_eq_none hs]
  | some s =>
    have hrows : s.rows = [] := List.eq_nil_iff_forall_not_mem.2 fun r hr =>
      (h _ (mem_entryRows.2 ⟨_, Sorted.mem_of_lookup? hs, r, hr, rfl⟩)).1
        (List.cons_prefix_cons.2 ⟨rfl, List.nil_prefix⟩)
    refine ((perm_entryRows (Sorted.perm_cons_eraseEntry hs)).trans ?_).symm
    rw [entryRows, hrows, List.map_nil, List.nil_append]

/-- A row whose path is apart from those of all others is added, and the others stay. -/
theorem perm_entryRows_insertPath (ho : OrderedEntries es) (hnames : names ≠ [])
    (h : ∀ r ∈ entryRows es, Apart names r.1) :
    (entryRows (insertPath value names es)).Perm ((names, value) :: entryRows es) := by
  fun_induction Setting.insertPath value names es with
  | case1 es => exact absurd rfl hnames
  | case2 es name =>
    exact (perm_entryRows_insertEntry ho).trans ((perm_entryRows_eraseEntry h).cons _)
  | case3 name next path es hnone ih =>
    have hinner := ih trivial (List.cons_ne_nil next path) nofun
    refine (perm_entryRows_insertEntry ho).trans ?_
    rw [Sorted.eraseEntry_of_lookup?_eq_none hnone]
    exact (hinner.map _).append_right _
  | case4 name next path es inner hsome ih =>
    have hmem : (name, table inner) ∈ es := Sorted.mem_of_lookup? hsome
    have hinner := ih (ho.of_lookup? hsome) (List.cons_ne_nil next path) fun r hr =>
      apart_cons_iff.1 (h _ (mem_entryRows.2 ⟨(name, table inner), hmem, r, hr, rfl⟩))
    have hback : (entryRows es).Perm ((entryRows inner).map (Prod.map (name :: ·) id) ++
        entryRows (Sorted.eraseEntry name es)) :=
      perm_entryRows (Sorted.perm_cons_eraseEntry hsome)
    refine (perm_entryRows_insertEntry ho).trans ?_
    exact ((hinner.map _).append_right _).trans (hback.symm.cons _)
  | case5 name next path es l hsome =>
    -- The leaf in the way is a row with which the path starts.
    have hmem : ([name], l) ∈ entryRows es :=
      mem_entryRows.2
        ⟨(name, leaf l), Sorted.mem_of_lookup? hsome, ([], l), List.mem_singleton_self _, rfl⟩
    exact absurd (List.cons_prefix_cons.2 ⟨rfl, List.nil_prefix⟩) (h _ hmem).2

/-! ### Dotted paths -/

/-- Names that are added to a path stand behind it, after dots. -/
theorem foldl_extendPath {path : String} (h : path ≠ "") (names : List String) :
    names.foldl extendPath path = Text.join "." (path :: names) := by
  induction names generalizing path with
  | nil => rfl
  | cons name names ih =>
    have hne : path ++ "." ++ name ≠ "" := fun heq =>
      h (String.append_eq_empty_iff.1 (String.append_eq_empty_iff.1 heq).1).1
    rw [List.foldl_cons, extendPath, if_neg h, ih hne, Text.join_cons "." (List.cons_ne_nil _ _)]
    cases names with
    | nil => rfl
    | cons next names => simp only [Text.join, String.append_assoc]

/-- Names that are added to the empty path make a path of their own. -/
theorem foldl_extendPath_empty {name : String} (h : name ≠ "") (names : List String) :
    (name :: names).foldl extendPath "" = Text.join "." (name :: names) := by
  rw [List.foldl_cons, extendPath, if_pos rfl, foldl_extendPath h]

/-! ### Tables built from rows -/

/-- The row of a pair of a dotted path and a leaf. -/
def rowOf (p : String × Leaf) : List String × Leaf := (Text.split '.' p.1, p.2)

theorem fst_rowOf_ne_nil (p : String × Leaf) : (rowOf p).1 ≠ [] := Text.split_ne_nil '.' p.1

theorem perm_entryRows_foldl {pairs : List (String × Leaf)} {init : List (String × Setting)}
    (ho : OrderedEntries init) (hpairs : pairs.Pairwise fun p q => Apart (rowOf p).1 (rowOf q).1)
    (hinit : ∀ p ∈ pairs, ∀ r ∈ entryRows init, Apart (rowOf p).1 r.1) :
    OrderedEntries (pairs.foldl (fun es p => insertPath p.2 (Text.split '.' p.1) es) init) ∧
      (entryRows (pairs.foldl (fun es p => insertPath p.2 (Text.split '.' p.1) es) init)).Perm
        (pairs.map rowOf ++ entryRows init) := by
  induction pairs generalizing init with
  | nil => exact ⟨ho, .refl _⟩
  | cons p pairs ih =>
    obtain ⟨hp, hpairs⟩ := List.pairwise_cons.1 hpairs
    obtain ⟨hpinit, hinit⟩ := List.forall_mem_cons.1 hinit
    have hstep : (entryRows (insertPath p.2 (rowOf p).1 init)).Perm
        (((rowOf p).1, p.2) :: entryRows init) :=
      perm_entryRows_insertPath ho (fst_rowOf_ne_nil p) hpinit
    obtain ⟨hordered, hperm⟩ := ih ho.insertPath hpairs fun q hq r hr => by
      rcases List.mem_cons.1 (hstep.mem_iff.1 hr) with rfl | hr
      · exact (hp q hq).symm
      · exact hinit q hq r hr
    exact ⟨hordered, hperm.trans ((hstep.append_left _).trans List.perm_middle)⟩

/-- Pairs whose paths are apart are the rows of the table that they build. -/
theorem perm_entryRows_ofPairs {pairs : List (String × Leaf)}
    (h : pairs.Pairwise fun p q => Apart (rowOf p).1 (rowOf q).1) :
    OrderedEntries (ofPairs pairs) ∧ (entryRows (ofPairs pairs)).Perm (pairs.map rowOf) := by
  have hnil : OrderedEntries ([] : List (String × Setting)) := trivial
  have hbuild := perm_entryRows_foldl hnil h fun _ _ => nofun
  rwa [entryRows, List.append_nil] at hbuild

end Setting

end FleetConfig
