import FleetConfig.Proofs.Setting.Tables
import Mathlib.Data.List.Perm.Basic
import Mathlib.Data.Prod.Basic

/-!
# Tables built from what flattening writes

Flattening writes the rows of a table as pairs of a dotted path and a leaf. If every name on the way
is one that a dotted path can hold, the path tells these names again. If besides no table on the way
is empty, nothing of the table is lost: two such tables with the same rows are the same. So the
pairs build the table that they were written from, in whatever order they are inserted.

## Main definitions

* `Setting.IsPathName` — names that dotted paths can hold.
* `Setting.Pathable`, `Setting.PathableEntries` — such names and no empty tables at every level.

## Main results

* `Setting.map_rowOf_flatten` — the pairs tell the rows of the table.
* `Setting.OrderedEntries.pairwise_apart` — no row stands in the way of another one.
* `Setting.eq_of_entryRows_eq` — a table is known by its rows.
* `Setting.ofPairs_of_perm_flatten` — the pairs, in any order, build the table.
-/

namespace FleetConfig.Setting

variable {name : String} {names : List String} {value : Leaf} {es : List (String × Setting)}
  {r : List String × Leaf} {pairs : List (String × Leaf)}

/-! ### Names and tables on the way -/

/-- A name that dotted paths can hold: not empty and without dots. -/
structure IsPathName (name : String) : Prop where
  ne_empty : name ≠ ""
  noDot : '.' ∉ name.toList

instance (name : String) : Decidable (IsPathName name) :=
  decidable_of_iff (name ≠ "" ∧ '.' ∉ name.toList) ⟨fun h => ⟨h.1, h.2⟩, fun h => ⟨h.1, h.2⟩⟩

mutual

/-- Dotted paths can hold the names at every level, and no table is empty. -/
def Pathable : Setting → Prop
  | leaf _ => True
  | table entries => entries ≠ [] ∧ PathableEntries entries

/-- Dotted paths can hold the names of the entries and those at every level below, where no table is
empty. -/
def PathableEntries : List (String × Setting) → Prop
  | [] => True
  | (name, s) :: es => IsPathName name ∧ s.Pathable ∧ PathableEntries es

end

mutual

/-- A leaf can be reached in every setting. -/
theorem Pathable.rows_ne_nil {s : Setting} (h : s.Pathable) : s.rows ≠ [] := by
  cases s with
  | leaf l => exact List.cons_ne_nil _ _
  | table es => exact PathableEntries.entryRows_ne_nil h.2 h.1

theorem PathableEntries.entryRows_ne_nil {es : List (String × Setting)} (h : PathableEntries es)
    (hne : es ≠ []) : entryRows es ≠ [] := by
  cases es with
  | nil => exact absurd rfl hne
  | cons e es =>
    obtain ⟨-, he, -⟩ := h
    exact List.append_ne_nil_of_left_ne_nil (mt List.map_eq_nil_iff.1 he.rows_ne_nil) _

end

mutual

theorem Pathable.isPathName {s : Setting} (h : s.Pathable) :
    ∀ r ∈ s.rows, ∀ name ∈ r.1, IsPathName name := by
  cases s with
  | leaf l => exact List.forall_mem_singleton.2 nofun
  | table es => exact PathableEntries.isPathName h.2

theorem PathableEntries.isPathName {es : List (String × Setting)} (h : PathableEntries es) :
    ∀ r ∈ entryRows es, ∀ name ∈ r.1, IsPathName name := by
  cases es with
  | nil => exact nofun
  | cons e es =>
    obtain ⟨hname, he, hes⟩ := h
    rw [entryRows, List.forall_mem_append, List.forall_mem_map]
    exact ⟨fun r hr => List.forall_mem_cons.2 ⟨hname, he.isPathName r hr⟩, hes.isPathName⟩

end

/-! ### Paths -/

theorem fst_ne_nil_of_mem_entryRows (h : r ∈ entryRows es) : r.1 ≠ [] := by
  obtain ⟨e, -, r', -, rfl⟩ := mem_entryRows.1 h
  exact List.cons_ne_nil _ _

/-- A dotted path tells the names that it was made of. -/
theorem rowOf_foldl_extendPath (hne : r.1 ≠ []) (h : ∀ name ∈ r.1, IsPathName name) :
    rowOf (r.1.foldl extendPath "", r.2) = r := by
  obtain ⟨path, l⟩ := r
  obtain ⟨name, names, rfl⟩ := List.exists_cons_of_ne_nil hne
  have hempty : name ≠ "" := (h name List.mem_cons_self).ne_empty
  have hsplit : Text.split '.' (Text.join "." (name :: names)) = name :: names :=
    Text.split_join hne fun x hx => (h x hx).noDot
  rw [rowOf, foldl_extendPath_empty hempty, hsplit]

/-- The pairs that flattening writes tell the rows of the table. -/
theorem map_rowOf_flatten (h : PathableEntries es) :
    ((table es).flatten "").map rowOf = entryRows es := by
  rw [flatten, flattenEntries_eq, List.map_map]
  refine (List.map_congr_left fun r hr => ?_).trans (List.map_id _)
  exact rowOf_foldl_extendPath (fst_ne_nil_of_mem_entryRows hr) (h.isPathName r hr)

mutual

theorem Ordered.pairwise_apart {s : Setting} (h : s.Ordered) :
    s.rows.Pairwise fun a b => Apart a.1 b.1 := by
  cases s with
  | leaf l => exact List.pairwise_singleton _ _
  | table es => exact OrderedEntries.pairwise_apart (h : OrderedEntries es)

/-- Paths that go through different names are apart, and so are different ones through one name. -/
theorem OrderedEntries.pairwise_apart {es : List (String × Setting)} (h : OrderedEntries es) :
    (entryRows es).Pairwise fun a b => Apart a.1 b.1 := by
  cases es with
  | nil => exact .nil
  | cons e es =>
    obtain ⟨he, hlt, hes⟩ := h
    rw [entryRows, List.pairwise_append, List.pairwise_map]
    refine ⟨he.pairwise_apart.imp apart_cons_iff.2, hes.pairwise_apart, fun a ha b hb => ?_⟩
    obtain ⟨r, -, rfl⟩ := List.mem_map.1 ha
    obtain ⟨x, hx, r', -, rfl⟩ := mem_entryRows.1 hb
    have hne : e.1 ≠ x.1 := fun heq => String.lt_irrefl _ (heq ▸ hlt x hx)
    exact ⟨fun hprefix => hne (List.cons_prefix_cons.1 hprefix).1,
      fun hprefix => hne (List.cons_prefix_cons.1 hprefix).1.symm⟩

end

/-! ### What is built -/

theorem insertEntry_ne_nil {s : Setting} : Sorted.insertEntry name s es ≠ [] := by
  cases es with
  | nil => exact List.cons_ne_nil _ _
  | cons e es =>
    rw [Sorted.insertEntry]
    split
    · exact List.cons_ne_nil _ _
    · split <;> exact List.cons_ne_nil _ _

/-- A table that something is inserted into is not empty, even if a leaf is in the way. -/
theorem insertPath_ne_nil (h : names ≠ []) : insertPath value names es ≠ [] := by
  fun_cases insertPath value names es with
  | case1 => exact absurd rfl h
  | case2 => exact insertEntry_ne_nil
  | case3 => exact insertEntry_ne_nil
  | case4 => exact insertEntry_ne_nil
  | case5 name next path es l hsome => exact List.ne_nil_of_mem (Sorted.mem_of_lookup? hsome)

theorem PathableEntries.insertEntry {s : Setting} (h : PathableEntries es)
    (hname : IsPathName name) (hs : s.Pathable) :
    PathableEntries (Sorted.insertEntry name s es) := by
  induction es with
  | nil => exact ⟨hname, hs, trivial⟩
  | cons e es ih =>
    obtain ⟨he, hsetting, hes⟩ := h
    rw [Sorted.insertEntry]
    split
    · exact ⟨hname, hs, he, hsetting, hes⟩
    · split
      · exact ⟨hname, hs, hes⟩
      · exact ⟨he, hsetting, ih hes⟩

theorem PathableEntries.of_lookup? {s : Setting} (h : PathableEntries es)
    (hs : Sorted.lookup? name es = some s) : s.Pathable := by
  induction es with
  | nil => cases hs
  | cons e es ih =>
    obtain ⟨-, he, hes⟩ := h
    rw [Sorted.lookup?] at hs
    split at hs
    · cases hs
      exact he
    · exact ih hes hs

/-- Insertion opens no table that stays empty. -/
theorem PathableEntries.insertPath (h : PathableEntries es)
    (hnames : ∀ name ∈ names, IsPathName name) : PathableEntries (insertPath value names es) := by
  fun_induction Setting.insertPath value names es with
  | case1 es => exact h
  | case2 name es => exact h.insertEntry (hnames name List.mem_cons_self) trivial
  | case3 name next path es hnone ih =>
    obtain ⟨hname, hpath⟩ := List.forall_mem_cons.1 hnames
    exact h.insertEntry hname ⟨insertPath_ne_nil (List.cons_ne_nil _ _), ih trivial hpath⟩
  | case4 name next path es inner hsome ih =>
    obtain ⟨hname, hpath⟩ := List.forall_mem_cons.1 hnames
    have hinner : PathableEntries inner := (h.of_lookup? hsome).2
    exact h.insertEntry hname ⟨insertPath_ne_nil (List.cons_ne_nil _ _), ih hinner hpath⟩
  | case5 => exact h

theorem pathableEntries_ofPairs (h : ∀ p ∈ pairs, ∀ name ∈ (rowOf p).1, IsPathName name) :
    PathableEntries (ofPairs pairs) :=
  List.foldlRecOn pairs _ (motive := PathableEntries) trivial
    fun _ hes p hp => hes.insertPath (h p hp)

/-! ### Tables known by their rows -/

/-- Where a run ends is known if what follows it does not belong to it. -/
theorem append_inj_of_run {α : Type} {p : α → Bool} {xs xs' ys ys' : List α}
    (hxs : ∀ x ∈ xs, p x = true) (hxs' : ∀ x ∈ xs', p x = true) (hys : ∀ y ∈ ys, p y = false)
    (hys' : ∀ y ∈ ys', p y = false) (h : xs ++ ys = xs' ++ ys') : xs = xs' ∧ ys = ys' := by
  have hhead : ∀ y ∈ ys.head?, p y = false := fun y hy => hys y (List.mem_of_mem_head? hy)
  have hhead' : ∀ y ∈ ys'.head?, p y = false := fun y hy => hys' y (List.mem_of_mem_head? hy)
  constructor
  · rw [← Text.takeWhile_run hxs hhead, h, Text.takeWhile_run hxs' hhead']
  · rw [← Text.dropWhile_run hxs hhead, h, Text.dropWhile_run hxs' hhead']

/-- Decides whether a row goes through a name. -/
def goesThrough (name : String) (r : List String × Leaf) : Bool := r.1.head? == some name

theorem goesThrough_of_mem_map {rs : List (List String × Leaf)}
    (h : r ∈ rs.map (Prod.map (name :: ·) id)) : goesThrough name r = true := by
  obtain ⟨r', -, rfl⟩ := List.mem_map.1 h
  exact beq_self_eq_true _

theorem not_goesThrough_of_mem_entryRows (hlt : ∀ e ∈ es, name < e.1) (h : r ∈ entryRows es) :
    goesThrough name r = false := by
  obtain ⟨e, he, r', -, rfl⟩ := mem_entryRows.1 h
  refine beq_eq_false_iff_ne.2 fun heq => ?_
  have hname : e.1 = name := Option.some.inj heq
  exact String.lt_irrefl _ (hname ▸ hlt e he)

/-- The first row of a table goes through its first name. -/
theorem head?_entryRows_cons {s : Setting} (hs : s.Pathable) (es : List (String × Setting)) :
    (entryRows ((name, s) :: es)).head?.bind (·.1.head?) = some name := by
  obtain ⟨r, rs, hrows⟩ := List.exists_cons_of_ne_nil hs.rows_ne_nil
  rw [entryRows, hrows]
  rfl

theorem rows_leaf_ne_rows_table (l : Leaf) (es : List (String × Setting)) :
    (leaf l).rows ≠ (table es).rows := by
  intro h
  have hmem : ([], l) ∈ (table es).rows := h ▸ List.mem_singleton_self _
  exact fst_ne_nil_of_mem_entryRows hmem rfl

mutual

theorem eq_of_rows_eq {s s' : Setting} (ho : s.Ordered) (ho' : s'.Ordered) (hs : s.Pathable)
    (hs' : s'.Pathable) (h : s.rows = s'.rows) : s = s' := by
  cases s with
  | leaf l =>
    cases s' with
    | leaf l' =>
      obtain ⟨-, rfl⟩ := Prod.mk.inj (List.head_eq_of_cons_eq h)
      rfl
    | table es' => exact absurd h (rows_leaf_ne_rows_table l es')
  | table es =>
    cases s' with
    | leaf l' => exact absurd h.symm (rows_leaf_ne_rows_table l' es)
    | table es' => exact congrArg table (eq_of_entryRows_eq ho ho' hs.2 hs'.2 h)

/-- A table is known by its rows. -/
theorem eq_of_entryRows_eq {es es' : List (String × Setting)} (ho : OrderedEntries es)
    (ho' : OrderedEntries es') (hes : PathableEntries es) (hes' : PathableEntries es')
    (h : entryRows es = entryRows es') : es = es' := by
  cases es with
  | nil =>
    by_contra hne
    exact hes'.entryRows_ne_nil (Ne.symm hne) h.symm
  | cons e es =>
    cases es' with
    | nil => exact absurd h (hes.entryRows_ne_nil (List.cons_ne_nil e es))
    | cons e' es' =>
      obtain ⟨name, s⟩ := e
      obtain ⟨name', s'⟩ := e'
      obtain ⟨hos, hlt, hoes⟩ := ho
      obtain ⟨hos', hlt', hoes'⟩ := ho'
      obtain ⟨-, hs, hes⟩ := hes
      obtain ⟨-, hs', hes'⟩ := hes'
      -- The first rows tell the first name, and the rows through it are those of the first entry.
      have hname : name = name' := by
        refine Option.some.inj ?_
        rw [← head?_entryRows_cons hs es, h, head?_entryRows_cons hs' es']
      subst hname
      obtain ⟨hrows, hrest⟩ := append_inj_of_run
        (fun _ => goesThrough_of_mem_map) (fun _ => goesThrough_of_mem_map)
        (fun _ => not_goesThrough_of_mem_entryRows hlt)
        (fun _ => not_goesThrough_of_mem_entryRows hlt') h
      have hinjective : Function.Injective (Prod.map (name :: ·) id : List String × Leaf → _) :=
        Function.Injective.prodMap List.cons_injective Function.injective_id
      rw [eq_of_rows_eq hos hos' hs hs' (List.map_injective_iff.2 hinjective hrows),
        eq_of_entryRows_eq hoes hoes' hes hes' hrest]

end

/-- The pairs that flattening writes of a table build the table, in whatever order they are
inserted. -/
theorem ofPairs_of_perm_flatten {es : List (String × Setting)} {pairs : List (String × Leaf)}
    (hordered : OrderedEntries es) (hpathable : PathableEntries es)
    (hperm : pairs.Perm ((table es).flatten "")) : ofPairs pairs = es := by
  have hrows : (pairs.map rowOf).Perm (entryRows es) := by
    rw [← map_rowOf_flatten hpathable]
    exact hperm.map rowOf
  have hapart : (pairs.map rowOf).Pairwise fun a b => Apart a.1 b.1 :=
    hrows.symm.pairwise hordered.pairwise_apart fun h => h.symm
  rw [List.pairwise_map] at hapart
  have hnames : ∀ p ∈ pairs, ∀ name ∈ (rowOf p).1, IsPathName name := fun p hp =>
    hpathable.isPathName _ (hrows.mem_iff.1 (List.mem_map_of_mem hp))
  obtain ⟨hbuilt, hbuiltRows⟩ := perm_entryRows_ofPairs hapart
  refine eq_of_entryRows_eq hbuilt hordered (pathableEntries_ofPairs hnames) hpathable ?_
  -- The rows of ordered tables ascend, so those that are the same up to order are the same.
  exact (hbuiltRows.trans hrows).eq_of_pairwise (fun a b _ _ hab hba => absurd hba
    (List.lt_asymm hab)) hbuilt.pairwise_entryRows hordered.pairwise_entryRows

/-- Three levels are built although the deepest leaf comes first and the names come in the wrong
order. -/
theorem ofPairs_of_perm_flatten_deepest_first :
    (table [("api", table [("addr", leaf (.text ":80")),
        ("cors", table [("enable", leaf (.switch true))])]),
      ("log", leaf (.text "x"))]).flatten "" =
      [("api.addr", .text ":80"), ("api.cors.enable", .switch true), ("log", .text "x")] ∧
    ofPairs [("log", .text "x"), ("api.cors.enable", .switch true), ("api.addr", .text ":80")] =
      [("api", table [("addr", leaf (.text ":80")),
        ("cors", table [("enable", leaf (.switch true))])]), ("log", leaf (.text "x"))] := by
  have hflatten : (table [("api", table [("addr", leaf (.text ":80")),
      ("cors", table [("enable", leaf (.switch true))])]), ("log", leaf (.text "x"))]).flatten "" =
      [("api.addr", .text ":80"), ("api.cors.enable", .switch true), ("log", .text "x")] := by
    decide
  refine ⟨hflatten, ofPairs_of_perm_flatten ?_ ?_ ?_⟩
  · simp only [OrderedEntries, Ordered, List.forall_mem_cons]
    decide
  · simp only [PathableEntries, Pathable, ne_eq, reduceCtorEq, not_false_eq_true]
    decide
  · rw [hflatten]
    decide

end FleetConfig.Setting
