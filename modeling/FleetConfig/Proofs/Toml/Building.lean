import FleetConfig.Proofs.Toml.Places
import FleetConfig.Proofs.Toml.WellFormed

/-!
# Documents built up from their statements

Each header opens a table that is not there yet, or one more in a row of tables, and the pairs
behind it fill the table. Followed from the front, the statements of a document build up the tables
below a path one after another.

## Main definitions

* `Toml.Leads` — what the document looks like when some statements have been followed.
* `Toml.HasRoom`, `Toml.Builder.fill` — where a header may open a table, and what it adds.
* `Toml.Grows` — one document is another with more entries at the end of a path.

## Main results

* `Toml.leads_titled` — the statements of a section with a header add a table with its values.
* `Toml.leads_sectionsOfEntries` — the statements of the tables of some entries add these tables.
-/

namespace FleetConfig.Toml

/-! ### Following statements -/

/-- When the statements have been followed, the document is as `holds` says. -/
def Leads (sts : List Statement) (b : Builder) (holds : List (Key × Node) → Prop) : Prop :=
  ∃ b' es, sts.foldlM Builder.add b = .ok b' ∧ b'.close = some es ∧ holds es

theorem Leads.append {sts sts' : List Statement} {b : Builder}
    {holds holds' : List (Key × Node) → Prop} (h : Leads sts b holds)
    (h' : ∀ b' es, b'.close = some es → holds es → Leads sts' b' holds') :
    Leads (sts ++ sts') b holds' := by
  obtain ⟨b', es, hb', hclose, hes⟩ := h
  obtain ⟨b'', es', hb'', hclose', hes'⟩ := h' b' es hclose hes
  refine ⟨b'', es', ?_, hclose', hes'⟩
  rw [List.foldlM_append, hb']
  exact hb''

theorem Leads.mono {sts : List Statement} {b : Builder} {holds holds' : List (Key × Node) → Prop}
    (h : Leads sts b holds) (himp : ∀ es, holds es → holds' es) : Leads sts b holds' := by
  obtain ⟨b', es, hb', hclose, hes⟩ := h
  exact ⟨b', es, hb', hclose, himp es hes⟩

theorem leads_nil {b : Builder} {es : List (Key × Node)} {holds : List (Key × Node) → Prop}
    (hclose : b.close = some es) (h : holds es) : Leads [] b holds :=
  ⟨b, es, rfl, hclose, h⟩

theorem follows_append {ss ss' : List Section} {sts : List Statement}
    (h : Follows (ss ++ ss') sts) :
    ∃ sts₁ sts₂, sts = sts₁ ++ sts₂ ∧ Follows ss sts₁ ∧ Follows ss' sts₂ := by
  induction ss generalizing sts with
  | nil => exact ⟨[], sts, rfl, .nil, h⟩
  | cons s ss ih =>
    cases h with
    | untitled hpairs h =>
      obtain ⟨sts₁, sts₂, rfl, h₁, h₂⟩ := ih h
      exact ⟨_, sts₂, (List.append_assoc _ _ _).symm, .untitled hpairs h₁, h₂⟩
    | titled isArray path key left hpairs h =>
      obtain ⟨sts₁, sts₂, rfl, h₁, h₂⟩ := ih h
      exact ⟨_, sts₂, (List.append_assoc _ _ _).symm, .titled isArray path key left hpairs h₁, h₂⟩

/-! ### Pairs -/

theorem insertNew_of_fresh {key : Key} {es : List (Key × Node)} (h : find? key.name es = none)
    (node : Node) : insertNew key node es = some (es ++ [(key, node)]) := by
  rw [insertNew, hasEntry_eq_false_iff.2 h]
  rfl

/-- The pairs of some values add them to the open table. -/
theorem add_pairs {es : Tree.Entries} {pairs : List Statement} (h : FollowsPairs es pairs)
    (hnames : (es.map Prod.fst).Nodup) {b : Builder}
    (hfresh : ∀ e ∈ es, find? e.1 b.current = none) :
    ∃ nodes, pairs.foldlM Builder.add b = .ok { b with current := b.current ++ nodes } ∧
      AgreesEntries (valuesOf es) nodes := by
  induction h generalizing b with
  | nil => exact ⟨[], by rw [List.append_nil]; rfl, .nil⟩
  | @value name key hname tree node hagrees hvalue left es sts hes ih =>
    rw [List.map_cons, List.nodup_cons] at hnames
    have hkey : find? key.name b.current = none := hname ▸ hfresh _ List.mem_cons_self
    have hfresh' : ∀ e ∈ es, find? e.1 (b.current ++ [(key, node)]) = none := by
      intro e he
      have hne : key.name ≠ e.1 := fun heq =>
        hnames.1 (List.mem_map.2 ⟨e, he, heq.symm.trans hname⟩)
      rw [find?_eq_none_iff]
      refine List.forall_mem_append.2 ⟨?_, List.forall_mem_singleton.2 hne⟩
      exact find?_eq_none_iff.1 (hfresh e (List.mem_cons_of_mem _ he))
    obtain ⟨nodes, hfold, hnodes⟩ :=
      ih hnames.2 (b := { b with current := b.current ++ [(key, node)] }) hfresh'
    refine ⟨(key, node) :: nodes, ?_, ?_⟩
    · rw [List.foldlM_cons, Builder.add, insertDotted, insertNew_of_fresh hkey]
      rw [List.append_assoc] at hfold
      exact hfold
    · rw [valuesOf_cons_of_value hvalue]
      exact .cons hname hagrees hnodes
  | @table name tree htable es sts hes ih =>
    rw [List.map_cons, List.nodup_cons] at hnames
    obtain ⟨nodes, hfold, hnodes⟩ := ih hnames.2 fun e he => hfresh e (List.mem_cons_of_mem _ he)
    refine ⟨nodes, hfold, ?_⟩
    rw [valuesOf_cons_of_table htable]
    exact hnodes

/-! ### Headers -/

/-- A header may open a table: there is none of the name, or there is a row of tables. -/
def HasRoom (isArray : Bool) (name : String) (es : List (Key × Node)) : Prop :=
  find? name es = none ∨ isArray = true ∧ ∃ ts, find? name es = some (.tables ts)

/-- Adds a table, at the end of its row if the header is in double brackets. -/
def Builder.fill (isArray : Bool) (key : Key) (table : Node) :
    List (Key × Node) → Option (List (Key × Node)) :=
  if isArray then appendTable key table else insertNew key table

theorem Builder.close_of_place {b : Builder} {isArray : Bool} {path : List Key} {key : Key}
    {left : Nat} (h : b.place = some (isArray, path, key, left)) :
    b.close = atHeader (fill isArray key (.table .header (some left) b.current)) path b.root := by
  rw [close, h]
  cases isArray <;> rfl

theorem Builder.exists_fill {isArray : Bool} {key : Key} {es : List (Key × Node)}
    (h : HasRoom isArray key.name es) (table : Node) :
    ∃ es', fill isArray key table es = some es' := by
  rcases h with h | ⟨rfl, ts, h⟩
  · cases isArray
    · exact ⟨_, insertNew_of_fresh h table⟩
    · exact ⟨_, by rw [fill, if_pos rfl, appendTable, h]⟩
  · exact ⟨_, by rw [fill, if_pos rfl, appendTable, h]⟩

/-- The room that is made for a table does not change what is added. -/
theorem Builder.fill_makeRoom {isArray : Bool} {key : Key} {es : List (Key × Node)}
    (h : HasRoom isArray key.name es) :
    takeOver isArray (find? key.name es) = some [] ∧
      ∃ es', makeRoom isArray key es = some es' ∧
        ∀ table, fill isArray key table es' = fill isArray key table es := by
  rcases h with h | ⟨rfl, ts, h⟩
  · cases isArray
    · refine ⟨by rw [h]; rfl, es, ?_, fun _ => rfl⟩
      have hkeep : ∀ e ∈ es, (e.1.name != key.name) = true := fun e he => by
        simpa using find?_eq_none_iff.1 h e he
      rw [makeRoom, List.filter_eq_self.2 hkeep]
      rfl
    · refine ⟨by rw [h]; rfl, es ++ [(key, .tables [])], ?_, fun table => ?_⟩
      · rw [makeRoom, hasEntry_eq_false_iff.2 h]
        rfl
      · simp only [fill, if_true, appendTable, h, find?_append_of_none h rfl,
          setEntry_append_of_none h rfl, List.nil_append]
  · refine ⟨by rw [h]; rfl, es, ?_, fun _ => rfl⟩
    have hthere : hasEntry key.name es = true := by
      rw [← Bool.not_eq_false, hasEntry_eq_false_iff, h]
      exact Option.some_ne_none _
    rw [makeRoom, hthere]
    rfl

/-- The statements of a section with a header add a table with its values. -/
theorem leads_titled {b : Builder} {es inner : List (Key × Node)} (hclose : b.close = some es)
    {path : List Key} (hreach : reach (path.map Key.name) es = some inner) {isArray : Bool}
    {key : Key} (hroom : HasRoom isArray key.name inner) {entries : Tree.Entries}
    {pairs : List Statement} (hpairs : FollowsPairs entries pairs)
    (hnames : (entries.map Prod.fst).Nodup) (left : Nat) :
    Leads (.header isArray path key left :: pairs) b fun es' =>
      ∃ nodes inner', AgreesEntries (valuesOf entries) nodes ∧
        Builder.fill isArray key (.table .header (some left) nodes) inner = some inner' ∧
        Puts path inner' es es' := by
  obtain ⟨htake, room, hmake, hfill⟩ := Builder.fill_makeRoom hroom
  obtain ⟨root, hroot⟩ := exists_puts hreach room
  have hopen : b.openTable isArray path key left =
      some { root, place := some (isArray, path, key, left), current := [] } := by
    simp only [Builder.openTable, hclose, lookUp_eq_find? hreach, htake,
      hroot.atHeader_eq hreach hmake, Option.bind_eq_bind, Option.bind_some]
    rfl
  obtain ⟨nodes, hfold, hagrees⟩ := add_pairs hpairs hnames
    (b := { root, place := some (isArray, path, key, left), current := [] }) fun _ _ => rfl
  rw [List.nil_append] at hfold
  obtain ⟨inner', hinner'⟩ := Builder.exists_fill hroom (.table .header (some left) nodes)
  obtain ⟨es', hes'⟩ := exists_puts hroot.reach_eq inner'
  have hput := hes'.atHeader_eq hroot.reach_eq ((hfill _).trans hinner')
  refine ⟨{ root, place := some (isArray, path, key, left), current := nodes }, es', ?_, ?_, nodes,
    inner', hagrees, hinner', hroot.trans hes' rfl⟩
  · rw [List.foldlM_cons, Builder.add, hopen]
    exact hfold
  · exact (Builder.close_of_place rfl).trans hput

/-- Into the table that was added last a path goes by its name. -/
theorem Builder.fill_descend {isArray : Bool} {key : Key} {es es' inner : List (Key × Node)}
    {left : Option Nat} (hroom : HasRoom isArray key.name es)
    (h : fill isArray key (.table .header left inner) es = some es') :
    reach [key.name] es' = some inner ∧
      ∀ key' : Key, key'.name = key.name → ∀ inner' : List (Key × Node),
        atHeader (fun _ => some inner') [key'] es' =
          fill isArray key (.table .header left inner') es := by
  obtain ⟨node, hfind, hin, hfill⟩ : ∃ node, find? key.name es' = some node ∧
      inside node = some inner ∧ ∀ inner', fill isArray key (.table .header left inner') es =
        some (setEntry key.name (putInside inner' node) es') := by
    rcases hroom with hnone | ⟨rfl, ts, hts⟩
    · cases isArray
      · rw [fill, if_neg Bool.false_ne_true, insertNew_of_fresh hnone] at h
        cases h
        refine ⟨_, find?_append_of_none hnone rfl, rfl, fun inner' => ?_⟩
        rw [setEntry_append_of_none hnone rfl]
        exact insertNew_of_fresh hnone _
      · simp only [fill, if_true, appendTable, hnone] at h ⊢
        cases h
        refine ⟨_, find?_append_of_none hnone rfl, rfl, fun inner' => ?_⟩
        rw [setEntry_append_of_none hnone rfl]
        rfl
    · simp only [fill, if_true, appendTable, hts] at h ⊢
      cases h
      refine ⟨_, find?_setEntry hts, inside_eq_some_iff.2 (.inr ⟨ts, .header, left, rfl⟩),
        fun inner' => ?_⟩
      rw [setEntry_setEntry, putInside_tables]
  refine ⟨?_, fun key' hkey' inner' => ?_⟩
  · rw [reach, hfind]
    simp only [hin, Option.bind_some, reach]
  · rw [← hkey'] at hfind
    rw [atHeader_of_present hfind, hin, Option.bind_some, atHeader, Option.map_some, hkey', hfill]

/-! ### Tables below a path -/

/-- One document is another with more entries at the end of a path, behind those that are there. -/
def Grows (path : List String) (added : Tree.Entries) (inner es es' : List (Key × Node)) : Prop :=
  ∃ ks nodes, ks.map Key.name = path ∧ AgreesEntries added nodes ∧ Puts ks (inner ++ nodes) es es'

/-- The statements of the tables of some entries add these tables behind the entries at the end of a
path, wherever they can be added there. -/
def AddsTables (path : List String) (es : Tree.Entries) : Prop :=
  ∀ (b : Builder) (nodes inner : List (Key × Node)) (sts : List Statement),
    b.close = some nodes → reach path nodes = some inner →
    (∀ e ∈ tablesOf es, find? e.1 inner = none) → Follows (sectionsOfEntries path es) sts →
    Leads sts b fun nodes' =>
      tablesOf es = [] ∧ nodes' = nodes ∨ Grows path (tablesOf es) inner nodes nodes'

theorem find?_eq_none_of_agrees {es : Tree.Entries} {nodes : List (Key × Node)} {name : String}
    (h : AgreesEntries es nodes) (hname : ∀ e ∈ es, e.1 ≠ name) : find? name nodes = none := by
  rw [find?_eq_none_iff]
  intro node hnode heq
  have hmem : name ∈ es.map Prod.fst := by
    rw [← h.map_name]
    exact List.mem_map.2 ⟨node, hnode, heq⟩
  obtain ⟨e, he, rfl⟩ := List.mem_map.1 hmem
  exact hname e he rfl

theorem find?_append_eq_none {name : String} {es es' : List (Key × Node)} :
    find? name (es ++ es') = none ↔ find? name es = none ∧ find? name es' = none := by
  rw [find?_eq_none_iff, find?_eq_none_iff, find?_eq_none_iff, List.forall_mem_append]

/-- The statements of a section with a header, and those of the tables in it, add a table. -/
theorem leads_section {path : List String} {name : String} {entries : Tree.Entries}
    (hordered : Ordered entries) (hadds : AddsTables (path ++ [name]) entries) {b : Builder}
    {es inner : List (Key × Node)} (hclose : b.close = some es)
    (hreach : reach path es = some inner) {isArray : Bool}
    (hroom : HasRoom isArray name inner) {sts : List Statement}
    (h : Follows (⟨some (isArray, path ++ [name]), entries⟩ ::
      sectionsOfEntries (path ++ [name]) entries) sts) :
    Leads sts b fun es' => ∃ ks key left nodes inner', ks.map Key.name = path ∧ key.name = name ∧
      AgreesEntries entries nodes ∧
      Builder.fill isArray key (.table .header left nodes) inner = some inner' ∧
      Puts ks inner' es es' := by
  generalize htitle : path ++ [name] = title at h
  cases h with
  | @titled _ ks key left _ pairs hpairs _ sts h =>
    obtain ⟨rfl, hname⟩ := List.append_inj' htitle rfl
    obtain rfl : name = key.name := (List.cons.inj hname).1
    refine (leads_titled hclose hreach hroom hpairs hordered.nodup left).append ?_
    rintro b' es' hclose' ⟨nodes, inner', hvalues, hfill, hputs⟩
    obtain ⟨hinside, hrefill⟩ := Builder.fill_descend hroom hfill
    have hreach' : reach (ks.map Key.name ++ [key.name]) es' = some nodes := by
      rw [reach_append, hputs.reach_eq]
      exact hinside
    have hfresh : ∀ e ∈ tablesOf entries, find? e.1 nodes = none := fun e he =>
      find?_eq_none_of_agrees hvalues fun e' he' => hordered.ne_of_mem he' he
    refine (hadds _ _ _ _ hclose' hreach' hfresh h).mono ?_
    rintro es'' (⟨hnone, rfl⟩ | ⟨ks', nodes', hnames, htables, hputs'⟩)
    · have hall := hordered.valuesOf_append_tablesOf
      rw [hnone, List.append_nil] at hall
      exact ⟨ks, key, some left, nodes, inner', rfl, rfl, hall ▸ hvalues, hfill, hputs⟩
    · obtain ⟨ks₁, key', inner'', hks₁, hkey', hdeep, hputs''⟩ :=
        hputs'.of_concat hnames hputs.reach_eq
      refine ⟨ks, key, some left, nodes ++ nodes', inner'', rfl, rfl, ?_, ?_,
        hputs.trans hputs'' hks₁⟩
      · rw [← hordered.valuesOf_append_tablesOf]
        exact hvalues.append htables
      · rw [← hrefill key' hkey' (nodes ++ nodes')]
        exact hdeep

/-! ### Rows of tables -/

/-- Adds tables at the end of the row under a key, which is brought about if it is not there. -/
def addRow (key : Key) (ts : List Node) (es : List (Key × Node)) : List (Key × Node) :=
  match find? key.name es with
  | some (.tables before) => setEntry key.name (.tables (before ++ ts)) es
  | _ => es ++ [(key, .tables ts)]

theorem Builder.fill_true {key : Key} {es : List (Key × Node)} (h : HasRoom true key.name es)
    (t : Node) : fill true key t es = some (addRow key [t] es) := by
  rcases h with h | ⟨-, ts, h⟩
  all_goals simp only [fill, if_true, appendTable, addRow, h]

/-- In rows of tables, those that are added one after another stand behind each other. -/
theorem addRow_addRow {key key' : Key} {es : List (Key × Node)} (h : HasRoom true key.name es)
    (hname : key'.name = key.name) (ts ts' : List Node) :
    HasRoom true key.name (addRow key ts es) ∧
      addRow key' ts' (addRow key ts es) = addRow key (ts ++ ts') es := by
  rcases h with h | ⟨-, before, h⟩
  · have hrow : addRow key ts es = es ++ [(key, .tables ts)] := by rw [addRow, h]
    have hfind : find? key.name (es ++ [(key, .tables ts)]) = some (.tables ts) :=
      find?_append_of_none h rfl
    rw [hrow]
    refine ⟨.inr ⟨rfl, ts, hfind⟩, ?_⟩
    simp only [addRow, hname, hfind, h, setEntry_append_of_none h rfl]
  · have hrow : addRow key ts es = setEntry key.name (.tables (before ++ ts)) es := by
      rw [addRow, h]
    have hfind : find? key.name (setEntry key.name (.tables (before ++ ts)) es) =
        some (.tables (before ++ ts)) := find?_setEntry h
    rw [hrow]
    refine ⟨.inr ⟨rfl, _, hfind⟩, ?_⟩
    simp only [addRow, hname, hfind, h, setEntry_setEntry, List.append_assoc]

theorem addRow_of_fresh {key : Key} {es : List (Key × Node)} (h : find? key.name es = none)
    (ts : List Node) : addRow key ts es = es ++ [(key, .tables ts)] := by rw [addRow, h]

/-! ### Parts of a document -/

theorem FollowsPairs.eq_nil {es : Tree.Entries} {pairs : List Statement} (h : FollowsPairs es pairs)
    (hall : ∀ e ∈ es, isTable e.2 = true) : pairs = [] := by
  induction h with
  | nil => rfl
  | value hname hagrees hvalue left hes ih =>
    rw [hall _ List.mem_cons_self] at hvalue
    contradiction
  | table name htable hes ih => exact ih fun e he => hall e (List.mem_cons_of_mem _ he)

mutual

/-- The statements of a part of a document add it under its name. -/
theorem leads_sections {path : List String} {name : String} {depth : Nat} :
    (tree : Tree) → TablesAll (WellFormed depth) tree → isTable tree = true →
      ∀ (b : Builder) (es inner : List (Key × Node)) (sts : List Statement), b.close = some es →
        reach path es = some inner → find? name inner = none →
        Follows (sections (path ++ [name]) tree) sts →
        Leads sts b fun es' => Grows path [(name, tree)] inner es es'
  | .text _, _, htable => nomatch htable
  | .boolean b, _, htable => absurd htable (by simp [isTable_boolean])
  | .list _, _, htable => nomatch htable
  | .table entries, hwf, _ => by
    intro b es inner sts hclose hreach hfresh h
    rw [sections, tableSection] at h
    have hadds : AddsTables (path ++ [name]) entries := leads_sectionsOfEntries _ entries hwf
    split at h
    · -- Without a header the table comes about on the way to the tables in it.
      rename_i htables
      rw [Bool.and_eq_true, Bool.not_eq_true', List.isEmpty_eq_false_iff, List.all_eq_true]
        at htables
      have hall : tablesOf entries = entries := List.filter_eq_self.2 htables.2
      have hreach' : reach (path ++ [name]) es = some [] := by
        rw [reach_append, hreach, Option.bind_some, reach, hfresh]
      cases h with
      | untitled hpairs h =>
        rw [hpairs.eq_nil htables.2, List.nil_append]
        refine (hadds _ _ _ _ hclose hreach' (fun _ _ => rfl) h).mono ?_
        rintro es' (⟨hnone, -⟩ | ⟨ks, nodes, hks, hagrees, hputs⟩)
        · exact absurd (hall.symm.trans hnone) htables.1
        · obtain ⟨ks', key, inner', hks', rfl, hdeep, hputs'⟩ := hputs.of_concat hks hreach
          rw [Puts, atHeader_of_absent hfresh, atHeader, Option.map_some, Option.some.injEq,
            List.nil_append] at hdeep
          rw [hall] at hagrees
          rw [← hdeep] at hputs'
          exact ⟨ks', _, hks', .singleton rfl (.table (by decide) none hagrees), hputs'⟩
    · refine (leads_section hwf.ordered hadds hclose hreach (.inl hfresh) h).mono ?_
      rintro es' ⟨ks, key, left, nodes, inner', hks, rfl, hagrees, hfill, hputs⟩
      have hnew := (insertNew_of_fresh hfresh _).symm.trans hfill
      rw [Option.some.injEq] at hnew
      rw [← hnew] at hputs
      exact ⟨ks, _, hks, .singleton rfl (.table (by decide) left hagrees), hputs⟩
  | .tables items, hwf, _ => by
    intro b es inner sts hclose hreach hfresh h
    rw [sections] at h
    refine (leads_sectionsOfItems items hwf.2 _ _ _ _ hclose hreach (.inl hfresh) h).mono ?_
    rintro es' (⟨hnone, -⟩ | ⟨ks, key, ts, hks, rfl, hagrees, hputs⟩)
    · exact absurd hnone hwf.1
    · rw [addRow_of_fresh hfresh] at hputs
      exact ⟨ks, _, hks, .singleton rfl (.tables hagrees), hputs⟩

/-- The statements of the tables of some entries add these tables. -/
theorem leads_sectionsOfEntries (path : List String) {depth : Nat} :
    (es : List (String × Tree)) → WellFormed depth es → AddsTables path es
  | [], _ => by
    intro b nodes inner sts hclose _ _ h
    cases h
    exact leads_nil hclose (.inl ⟨rfl, rfl⟩)
  | (name, tree) :: es, hwf => by
    intro b nodes inner sts hclose hreach hfresh h
    rw [sectionsOfEntries] at h
    cases htable : isTable tree with
    | false =>
      rw [sections_of_isTable_eq_false htable, List.nil_append] at h
      rw [tablesOf_cons_of_value htable] at hfresh ⊢
      exact leads_sectionsOfEntries path es hwf.tail _ _ _ _ hclose hreach hfresh h
    | true =>
      obtain ⟨sts₁, sts₂, rfl, h₁, h₂⟩ := follows_append h
      rw [tablesOf_cons_of_table htable] at hfresh ⊢
      obtain ⟨depth', hpart⟩ := hwf.part List.mem_cons_self
      refine (leads_sections tree hpart htable _ _ _ _ hclose hreach
        (hfresh _ List.mem_cons_self) h₁).append ?_
      rintro b' nodes' hclose' ⟨ks, added, hks, hagrees, hputs⟩
      have hfresh' : ∀ e ∈ tablesOf es, find? e.1 (inner ++ added) = none := by
        intro e he
        have hne : name ≠ e.1 := fun heq => (List.nodup_cons.1 hwf.ordered.nodup).1
          (List.mem_map.2 ⟨e, (List.mem_filter.1 he).1, heq.symm⟩)
        exact find?_append_eq_none.2 ⟨hfresh e (List.mem_cons_of_mem _ he),
          find?_eq_none_of_agrees hagrees (List.forall_mem_singleton.2 hne)⟩
      refine (leads_sectionsOfEntries path es hwf.tail _ _ _ _ hclose' (hks ▸ hputs.reach_eq)
        hfresh' h₂).mono ?_
      rintro nodes'' (⟨hnone, rfl⟩ | ⟨ks', added', hks', hagrees', hputs'⟩)
      · rw [hnone]
        exact .inr ⟨ks, added, hks, hagrees, hputs⟩
      · refine .inr ⟨ks, added ++ added', hks, hagrees.append hagrees', ?_⟩
        rw [← List.append_assoc]
        exact hputs.trans hputs' (hks'.trans hks.symm)

theorem leads_sectionsOfItems {path : List String} {name : String} {depth : Nat} :
    (items : List (List (String × Tree))) → (∀ es ∈ items, WellFormed depth es) →
      ∀ (b : Builder) (es inner : List (Key × Node)) (sts : List Statement), b.close = some es →
        reach path es = some inner → HasRoom true name inner →
        Follows (sectionsOfItems (path ++ [name]) items) sts →
        Leads sts b fun es' => items = [] ∧ es' = es ∨ ∃ ks key ts, ks.map Key.name = path ∧
          key.name = name ∧ AgreesItems items ts ∧ Puts ks (addRow key ts inner) es es'
  | [], _ => by
    intro b es inner sts hclose _ _ h
    cases h
    exact leads_nil hclose (.inl ⟨rfl, rfl⟩)
  | entries :: items, hwf => by
    intro b es inner sts hclose hreach hroom h
    rw [sectionsOfItems] at h
    obtain ⟨sts₁, sts₂, rfl, h₁, h₂⟩ := follows_append h
    obtain ⟨hentries, hitems⟩ := List.forall_mem_cons.1 hwf
    refine (leads_section hentries.ordered (leads_sectionsOfEntries _ entries hentries) hclose
      hreach hroom h₁).append ?_
    rintro b' es' hclose' ⟨ks, key, left, nodes, inner', hks, rfl, hagrees, hfill, hputs⟩
    have hrow := (Builder.fill_true hroom _).symm.trans hfill
    rw [Option.some.injEq] at hrow
    rw [← hrow] at hputs
    have hitem : AgreesItems [entries] [.table .header left nodes] :=
      .cons (by decide) left hagrees .nil
    refine (leads_sectionsOfItems items hitems _ _ _ _ hclose' (hks ▸ hputs.reach_eq)
      (addRow_addRow hroom rfl _ []).1 h₂).mono ?_
    rintro es'' (⟨rfl, rfl⟩ | ⟨ks', key', ts, hks', hkey', hagrees', hputs'⟩)
    · exact .inr ⟨ks, key, _, hks, rfl, hitem, hputs⟩
    · rw [(addRow_addRow hroom hkey' _ ts).2] at hputs'
      exact .inr ⟨ks, key, _, hks, rfl, hitem.append hagrees',
        hputs.trans hputs' (hks'.trans hks.symm)⟩

end

end FleetConfig.Toml
