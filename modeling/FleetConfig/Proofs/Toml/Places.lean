import FleetConfig.Toml.Document

/-!
# Places in a document

A header's path leads to the entries of a table, through tables and into the last one of a row of
tables. Where the path leaves what is there, it leads to no entries, and the tables on the way are
brought about when something is put there. What is put at a place is found there and can be put
again; nothing else changes.

## Main definitions

* `Toml.inside`, `Toml.putInside` — the entries that a path goes into.
* `Toml.reach` — the entries that a path leads to.
* `Toml.Puts` — one document is another with other entries at a place.

## Main results

* `Toml.exists_puts` — other entries can be put wherever a path leads.
* `Toml.Puts.trans` — of entries put at one place the last ones count.
* `Toml.Puts.atHeader_eq` — a change at a path puts the changed entries there.
* `Toml.Puts.of_concat` — what is put deep below a path changes the entries at its end.
-/

namespace FleetConfig.Toml

/-! ### Entries by name -/

section Entries

variable {name : String} {key : Key} {node node' : Node} {es : List (Key × Node)}

theorem find?_eq_none_iff : find? name es = none ↔ ∀ e ∈ es, e.1.name ≠ name := by
  simp [find?]

theorem hasEntry_eq_false_iff : hasEntry name es = false ↔ find? name es = none := by
  simp [hasEntry, find?]

theorem find?_append_of_none (h : find? name es = none) (hkey : key.name = name) :
    find? name (es ++ [(key, node)]) = some node := by
  rw [find?, Option.map_eq_none_iff] at h
  rw [find?, List.find?_append, h, Option.none_or, List.find?_singleton, hkey]
  simp

theorem setEntry_of_none (h : find? name es = none) : setEntry name node es = es := by
  rw [find?_eq_none_iff] at h
  refine (List.map_congr_left fun e he => ?_).trans (List.map_id es)
  rw [if_neg (by simpa using h e he), id]

theorem setEntry_append_of_none (h : find? name es = none) (hkey : key.name = name) :
    setEntry name node' (es ++ [(key, node)]) = es ++ [(key, node')] := by
  have hsame : setEntry name node' es = es := setEntry_of_none h
  rw [setEntry] at hsame
  rw [setEntry, List.map_append, hsame]
  simp [hkey]

theorem find?_setEntry (h : find? name es = some node) :
    find? name (setEntry name node' es) = some node' := by
  induction es with
  | nil => cases h
  | cons e es ih =>
    by_cases hname : e.1.name = name
    · simp [find?, setEntry, hname]
    · have hrest : find? name es = some node := by
        simpa [find?, hname] using h
      simpa [find?, setEntry, hname] using ih hrest

theorem setEntry_setEntry :
    setEntry name node' (setEntry name node es) = setEntry name node' es := by
  rw [setEntry, setEntry, setEntry, List.map_map]
  refine List.map_congr_left fun e _ => ?_
  by_cases h : e.1.name = name <;> simp [h]

end Entries

/-! ### Into a node -/

/-- The entries that a path goes into at a node, if it can. -/
def inside : Node → Option (List (Key × Node))
  | .table .inline _ _ => none
  | .table _ _ es => some es
  | .tables ts =>
    match splitLast? ts with
    | some (_, .table _ _ es) => some es
    | _ => none
  | _ => none

/-- Puts other entries where a path goes into a node. -/
def putInside (es : List (Key × Node)) : Node → Node
  | .table form left _ => .table form left es
  | .tables ts =>
    match splitLast? ts with
    | some (before, .table form left _) => .tables (before ++ [.table form left es])
    | _ => .tables ts
  | node => node

theorem splitLast?_append (before : List Node) (t : Node) :
    splitLast? (before ++ [t]) = some (before, t) := by
  simp [splitLast?]

theorem eq_append_of_splitLast? {ts before : List Node} {t : Node}
    (h : splitLast? ts = some (before, t)) : ts = before ++ [t] := by
  rw [splitLast?, Option.map_eq_some_iff] at h
  obtain ⟨last, hlast, heq⟩ := h
  obtain ⟨ts', rfl⟩ := List.getLast?_eq_some_iff.1 hlast
  cases heq
  rw [List.dropLast_concat]

/-- A path goes into tables without braces, and into the last table of a row. -/
theorem inside_eq_some_iff {node : Node} {es : List (Key × Node)} :
    inside node = some es ↔
      (∃ form left, form ≠ .inline ∧ node = .table form left es) ∨
        ∃ before form left, node = .tables (before ++ [.table form left es]) := by
  constructor
  · intro h
    match node with
    | .table .inline _ _ => cases h
    | .table .header left _ => cases h; exact .inl ⟨.header, left, by decide, rfl⟩
    | .table .implied left _ => cases h; exact .inl ⟨.implied, left, by decide, rfl⟩
    | .table .dotted left _ => cases h; exact .inl ⟨.dotted, left, by decide, rfl⟩
    | .tables ts =>
      rw [inside] at h
      split at h
      · rename_i before form left _ hlast
        cases h
        exact .inr ⟨before, form, left, congrArg Node.tables (eq_append_of_splitLast? hlast)⟩
      · cases h
  · rintro (⟨form, left, hform, rfl⟩ | ⟨before, form, left, rfl⟩)
    · cases form <;> first | contradiction | rfl
    · rw [inside, splitLast?_append]

theorem putInside_tables (es es' : List (Key × Node)) (before : List Node) (form : Form)
    (left : Option Nat) :
    putInside es' (.tables (before ++ [.table form left es])) =
      .tables (before ++ [.table form left es']) := by
  rw [putInside, splitLast?_append]

theorem inside_putInside {node : Node} {es : List (Key × Node)} (h : inside node = some es)
    (es' : List (Key × Node)) : inside (putInside es' node) = some es' := by
  rw [inside_eq_some_iff] at h ⊢
  rcases h with ⟨form, left, hform, rfl⟩ | ⟨before, form, left, rfl⟩
  · exact .inl ⟨form, left, hform, rfl⟩
  · exact .inr ⟨before, form, left, putInside_tables es es' before form left⟩

theorem putInside_putInside {node : Node} {es : List (Key × Node)} (h : inside node = some es)
    (es₁ es₂ : List (Key × Node)) : putInside es₂ (putInside es₁ node) = putInside es₂ node := by
  rw [inside_eq_some_iff] at h
  rcases h with ⟨form, left, hform, rfl⟩ | ⟨before, form, left, rfl⟩
  · rfl
  · rw [putInside_tables, putInside_tables, putInside_tables]

/-! ### Paths -/

/-- The entries that a path leads to, none where it leaves what is there. A path that goes into a
value leads nowhere. -/
def reach : List String → List (Key × Node) → Option (List (Key × Node))
  | [], es => some es
  | name :: names, es =>
    match find? name es with
    | none => some []
    | some node => (inside node).bind (reach names)

theorem reach_nil (names : List String) : reach names [] = some [] := by
  cases names <;> rfl

theorem reach_append (names names' : List String) (es : List (Key × Node)) :
    reach (names ++ names') es = (reach names es).bind (reach names') := by
  induction names generalizing es with
  | nil => rfl
  | cons name names ih =>
    rw [List.cons_append, reach, reach]
    cases find? name es with
    | none => exact (reach_nil names').symm
    | some node =>
      cases hin : inside node with
      | none => simp [hin]
      | some inner => simpa [hin] using ih inner

variable {change : List (Key × Node) → Option (List (Key × Node))}

theorem atHeader_of_absent {k : Key} {es : List (Key × Node)} (h : find? k.name es = none)
    (ks : List Key) :
    atHeader change (k :: ks) es =
      (atHeader change ks []).map fun es' => es ++ [(k, .table .implied none es')] := by
  rw [atHeader, h]

theorem atHeader_of_present {k : Key} {es : List (Key × Node)} {node : Node}
    (h : find? k.name es = some node) (ks : List Key) :
    atHeader change (k :: ks) es =
      (inside node).bind fun inner => (atHeader change ks inner).map fun es' =>
        setEntry k.name (putInside es' node) es := by
  rw [atHeader, h]
  cases hin : inside node with
  | some inner =>
    rw [inside_eq_some_iff] at hin
    rcases hin with ⟨form, left, hform, rfl⟩ | ⟨before, form, left, rfl⟩
    · cases form <;> first | contradiction | rfl
    · simp only [splitLast?_append, putInside_tables, Option.bind_some]
  | none =>
    match node with
    | .table .inline _ _ => rfl
    | .scalar _ _ => rfl
    | .array _ _ => rfl
    | .tables ts =>
      simp only [Option.bind_none]
      cases hlast : splitLast? ts with
      | none => rfl
      | some last =>
        obtain ⟨before, t⟩ := last
        cases t with
        | table form left inner =>
          rw [inside, hlast] at hin
          cases hin
        | _ => rfl

/-- A change at the end of a path is a change at the end of its second part, made at the end of its
first part. -/
theorem atHeader_append (ks ks' : List Key) (es : List (Key × Node)) :
    atHeader change (ks ++ ks') es = atHeader (atHeader change ks') ks es := by
  induction ks generalizing es with
  | nil => rfl
  | cons k ks ih =>
    cases h : find? k.name es with
    | none => rw [List.cons_append, atHeader_of_absent h, atHeader_of_absent h, ih]
    | some node =>
      rw [List.cons_append, atHeader_of_present h, atHeader_of_present h]
      simp only [ih]

/-- Only what a change makes of the entries at the end of a path matters. -/
theorem atHeader_congr {ks : List Key} {es inner : List (Key × Node)}
    (h : reach (ks.map Key.name) es = some inner) {result : Option (List (Key × Node))}
    (hresult : change inner = result) :
    atHeader change ks es = atHeader (fun _ => result) ks es := by
  induction ks generalizing es with
  | nil =>
    cases h
    exact hresult
  | cons k ks ih =>
    rw [List.map_cons, reach] at h
    cases hfind : find? k.name es with
    | none =>
      rw [hfind] at h
      cases h
      rw [atHeader_of_absent hfind, atHeader_of_absent hfind, ih (reach_nil _)]
    | some node =>
      rw [hfind] at h
      obtain ⟨inner', hin, h⟩ := Option.bind_eq_some_iff.1 h
      rw [atHeader_of_present hfind, atHeader_of_present hfind, hin, Option.bind_some,
        Option.bind_some, ih h]

/-- The node under a key is among the entries that its path leads to. -/
theorem lookUp_eq_find? {ks : List Key} {es inner : List (Key × Node)}
    (h : reach (ks.map Key.name) es = some inner) (key : Key) :
    Builder.lookUp ks key es = find? key.name inner := by
  induction ks generalizing es with
  | nil =>
    cases h
    rfl
  | cons k ks ih =>
    rw [List.map_cons, reach] at h
    rw [Builder.lookUp]
    cases hfind : find? k.name es with
    | none =>
      rw [hfind] at h
      cases h
      rfl
    | some node =>
      rw [hfind] at h
      obtain ⟨inner', hin, h⟩ := Option.bind_eq_some_iff.1 h
      rw [← ih h]
      rw [inside_eq_some_iff] at hin
      rcases hin with ⟨form, left, -, rfl⟩ | ⟨before, form, left, rfl⟩
      · rfl
      · simp [Node.entries]

/-! ### Other entries at a place -/

/-- A document is another one with these entries at the end of a path. -/
def Puts (ks : List Key) (inner es es' : List (Key × Node)) : Prop :=
  atHeader (fun _ => some inner) ks es = some es'

theorem puts_nil {inner es es' : List (Key × Node)} : Puts [] inner es es' ↔ inner = es' := by
  rw [Puts, atHeader, Option.some.injEq]

/-- A change at a path puts the changed entries there. -/
theorem Puts.atHeader_eq {ks : List Key} {inner inner' es es' : List (Key × Node)}
    (h : Puts ks inner' es es') (hreach : reach (ks.map Key.name) es = some inner)
    (hchange : change inner = some inner') : atHeader change ks es = some es' := by
  rw [← h]
  exact atHeader_congr hreach hchange

/-- Other entries can be put wherever a path leads. -/
theorem exists_puts {ks : List Key} {inner es : List (Key × Node)}
    (h : reach (ks.map Key.name) es = some inner) (inner' : List (Key × Node)) :
    ∃ es', Puts ks inner' es es' := by
  simp only [Puts]
  induction ks generalizing es with
  | nil => exact ⟨inner', rfl⟩
  | cons k ks ih =>
    rw [List.map_cons, reach] at h
    cases hfind : find? k.name es with
    | none =>
      rw [hfind] at h
      cases h
      obtain ⟨es', hes'⟩ := ih (reach_nil _)
      exact ⟨_, by rw [atHeader_of_absent hfind, hes', Option.map_some]⟩
    | some node =>
      rw [hfind] at h
      obtain ⟨deeper, hin, h⟩ := Option.bind_eq_some_iff.1 h
      obtain ⟨es', hes'⟩ := ih h
      exact ⟨_, by rw [atHeader_of_present hfind, hin, Option.bind_some, hes', Option.map_some]⟩

/-- What is put at the end of a path is found there. -/
theorem Puts.reach_eq {ks : List Key} {inner es es' : List (Key × Node)}
    (h : Puts ks inner es es') : reach (ks.map Key.name) es' = some inner := by
  rw [Puts] at h
  induction ks generalizing es es' with
  | nil =>
    cases h
    rfl
  | cons k ks ih =>
    rw [List.map_cons, reach]
    cases hfind : find? k.name es with
    | none =>
      rw [atHeader_of_absent hfind, Option.map_eq_some_iff] at h
      obtain ⟨deeper, hdeeper, rfl⟩ := h
      rw [find?_append_of_none hfind rfl]
      exact ih hdeeper
    | some node =>
      rw [atHeader_of_present hfind, Option.bind_eq_some_iff] at h
      obtain ⟨entries, hin, h⟩ := h
      obtain ⟨deeper, hdeeper, rfl⟩ := Option.map_eq_some_iff.1 h
      rw [find?_setEntry hfind]
      simp only [inside_putInside hin, Option.bind_some]
      exact ih hdeeper

/-- Of entries put at one place the last ones count. -/
theorem Puts.trans {ks ks' : List Key} {inner inner' es es' es'' : List (Key × Node)}
    (h : Puts ks inner es es') (h' : Puts ks' inner' es' es'')
    (hnames : ks'.map Key.name = ks.map Key.name) : Puts ks inner' es es'' := by
  rw [Puts] at h h' ⊢
  induction ks generalizing ks' es es' es'' with
  | nil =>
    obtain rfl : ks' = [] := List.map_eq_nil_iff.1 hnames
    exact h'
  | cons k ks ih =>
    obtain ⟨k', ks', rfl⟩ : ∃ k' ks'', ks' = k' :: ks'' := by
      cases ks' with
      | nil => cases hnames
      | cons k' ks'' => exact ⟨k', ks'', rfl⟩
    rw [List.map_cons, List.map_cons, List.cons.injEq] at hnames
    obtain ⟨hname, hnames⟩ := hnames
    cases hfind : find? k.name es with
    | none =>
      rw [atHeader_of_absent hfind, Option.map_eq_some_iff] at h
      obtain ⟨deeper, hdeeper, rfl⟩ := h
      have hfind' : find? k'.name (es ++ [(k, .table .implied none deeper)]) =
          some (.table .implied none deeper) := by
        rw [hname]
        exact find?_append_of_none hfind rfl
      rw [atHeader_of_present hfind', Option.bind_eq_some_iff] at h'
      obtain ⟨_, hin, h'⟩ := h'
      obtain ⟨deeper', hdeeper', rfl⟩ := Option.map_eq_some_iff.1 h'
      cases hin
      rw [atHeader_of_absent hfind, ih hdeeper hdeeper' hnames, Option.map_some, hname,
        setEntry_append_of_none hfind rfl]
      rfl
    | some node =>
      rw [atHeader_of_present hfind, Option.bind_eq_some_iff] at h
      obtain ⟨entries, hin, h⟩ := h
      obtain ⟨deeper, hdeeper, rfl⟩ := Option.map_eq_some_iff.1 h
      have hfind' : find? k'.name (setEntry k.name (putInside deeper node) es) =
          some (putInside deeper node) := by
        rw [hname]
        exact find?_setEntry hfind
      rw [atHeader_of_present hfind', inside_putInside hin, Option.bind_some,
        Option.map_eq_some_iff] at h'
      obtain ⟨deeper', hdeeper', rfl⟩ := h'
      rw [atHeader_of_present hfind, hin, Option.bind_some, ih hdeeper hdeeper' hnames,
        Option.map_some, hname, setEntry_setEntry, putInside_putInside hin]

theorem atHeader_none (ks : List Key) (es : List (Key × Node)) :
    atHeader (fun _ => none) ks es = none := by
  induction ks generalizing es with
  | nil => rfl
  | cons k ks ih =>
    cases h : find? k.name es with
    | none => rw [atHeader_of_absent h, ih, Option.map_none]
    | some node =>
      rw [atHeader_of_present h]
      simp [ih]

/-- What is put below a name at the end of a path changes the entries at the end of the path. -/
theorem Puts.of_concat {ks : List Key} {names : List String} {name : String}
    {deeper inner es es' : List (Key × Node)} (h : Puts ks deeper es es')
    (hks : ks.map Key.name = names ++ [name]) (hreach : reach names es = some inner) :
    ∃ ks' key inner', ks'.map Key.name = names ∧ key.name = name ∧ Puts [key] deeper inner inner' ∧
      Puts ks' inner' es es' := by
  obtain ⟨ks', last, rfl, rfl, hlast⟩ := List.map_eq_append_iff.1 hks
  obtain ⟨key, rfl, hkey⟩ := List.map_eq_singleton_iff.1 hlast
  rw [Puts, atHeader_append] at h
  cases hinner : atHeader (fun _ => some deeper) [key] inner with
  | none =>
    rw [atHeader_congr hreach hinner, atHeader_none] at h
    contradiction
  | some inner' =>
    rw [atHeader_congr hreach hinner] at h
    exact ⟨ks', key, inner', rfl, hkey, hinner, h⟩

end FleetConfig.Toml
