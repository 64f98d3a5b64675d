import FleetConfig.Document.Basic
import FleetConfig.Proofs.Toml.WellFormed

/-!
# Data as it is written

What is written for a contract or a context is well formed: each record has fields of their own
names with the tables behind the values, maps have each name once, and rows of tables are left out
when they are empty.

## Main results

* `Contract.wellFormed_encode`, `Context.wellFormed_encode` — documents that can be written.
-/

namespace FleetConfig

open Toml

/-! ### Fields -/

namespace Toml

variable {name : String} {names names' : List String} {es es' : Tree.Entries}

/-- The fields are among these, in their order. -/
def FieldsOf (names : List String) (es : Tree.Entries) : Prop := (es.map Prod.fst).Sublist names

theorem FieldsOf.append (h : FieldsOf names es) (h' : FieldsOf names' es') :
    FieldsOf (names ++ names') (es ++ es') := by
  rw [FieldsOf, List.map_append]
  exact List.Sublist.append h h'

theorem fieldsOf_single (tree : Tree) : FieldsOf [name] [(name, tree)] :=
  List.Sublist.refl _

theorem fieldsOf_optional {α : Type} {encode : α → Tree} (a? : Option α) :
    FieldsOf [name] (Tree.optional name encode a?) := by
  cases a? with
  | none => exact List.nil_sublist _
  | some a => exact fieldsOf_single _

theorem fieldsOf_listUnlessEmpty (items : List String) :
    FieldsOf [name] (Tree.listUnlessEmpty name items) := by
  cases items with
  | nil => exact List.nil_sublist _
  | cons s items => exact fieldsOf_single _

theorem fieldsOf_tableUnlessEmpty (es : Tree.Entries) :
    FieldsOf [name] (Tree.tableUnlessEmpty name es) := by
  cases es with
  | nil => exact List.nil_sublist _
  | cons e es => exact fieldsOf_single _

theorem fieldsOf_tablesUnlessEmpty (items : List Tree.Entries) :
    FieldsOf [name] (Tree.tablesUnlessEmpty name items) := by
  cases items with
  | nil => exact List.nil_sublist _
  | cons es items => exact fieldsOf_single _

theorem forall_mem_optional {α : Type} {encode : α → Tree} {a? : Option α}
    {P : String × Tree → Prop} (h : ∀ a ∈ a?, P (name, encode a)) :
    ∀ e ∈ Tree.optional name encode a?, P e := by
  cases a? with
  | none => exact fun _ h => nomatch h
  | some a => exact List.forall_mem_singleton.2 (h a rfl)

theorem forall_mem_listUnlessEmpty {items : List String} {P : String × Tree → Prop}
    (h : P (name, .list items)) : ∀ e ∈ Tree.listUnlessEmpty name items, P e := by
  cases items with
  | nil => exact fun _ h => nomatch h
  | cons s items => exact List.forall_mem_singleton.2 h

theorem forall_mem_tableUnlessEmpty {P : String × Tree → Prop} (h : P (name, .table es)) :
    ∀ e ∈ Tree.tableUnlessEmpty name es, P e := by
  cases es with
  | nil => exact fun _ h => nomatch h
  | cons e es => exact List.forall_mem_singleton.2 h

theorem forall_mem_tablesUnlessEmpty {items : List Tree.Entries} {P : String × Tree → Prop}
    (h : items ≠ [] → P (name, .tables items)) :
    ∀ e ∈ Tree.tablesUnlessEmpty name items, P e := by
  cases items with
  | nil => exact fun _ h => nomatch h
  | cons es items => exact List.forall_mem_singleton.2 (h (List.cons_ne_nil _ _))

/-- Values and then tables are in order. -/
theorem ordered_append (hnodup : ((es ++ es').map Prod.fst).Nodup)
    (hvalues : ∀ e ∈ es, isTable e.2 = false) (htables : ∀ e ∈ es', isTable e.2 = true) :
    Ordered (es ++ es') where
  nodup := hnodup
  values_first := by
    refine List.pairwise_append.2 ⟨?_, ?_, fun a ha b hb _ => htables b hb⟩
    · refine List.pairwise_of_forall_mem_list fun a ha b hb h => ?_
      rw [hvalues a ha] at h
      contradiction
    · exact List.pairwise_of_forall_mem_list fun a ha b hb _ => htables b hb

theorem wellFormed_append (depth : Nat) (hnodup : ((es ++ es').map Prod.fst).Nodup)
    (hvalues : ∀ e ∈ es, isTable e.2 = false)
    (htables : ∀ e ∈ es', isTable e.2 = true ∧ TablesAll (WellFormed depth) e.2) :
    WellFormed (depth + 1) (es ++ es') := by
  refine ⟨ordered_append hnodup hvalues fun e he => (htables e he).1, fun e he => ?_⟩
  rcases List.mem_append.1 he with he | he
  · exact tablesAll_of_isTable_eq_false (hvalues e he) _
  · exact (htables e he).2

theorem wellFormed_tables (depth : Nat) (hnodup : (es.map Prod.fst).Nodup)
    (htables : ∀ e ∈ es, isTable e.2 = true ∧ TablesAll (WellFormed depth) e.2) :
    WellFormed (depth + 1) es := by
  have h : WellFormed (depth + 1) ([] ++ es) := wellFormed_append depth hnodup nofun htables
  exact h

theorem wellFormed_values (depth : Nat) (hnodup : (es.map Prod.fst).Nodup)
    (hvalues : ∀ e ∈ es, isTable e.2 = false) : WellFormed depth es := by
  have hordered : Ordered (es ++ []) :=
    ordered_append (by rwa [List.append_nil]) hvalues nofun
  rw [List.append_nil] at hordered
  cases depth with
  | zero => exact ⟨hordered, hvalues⟩
  | succ depth =>
    exact ⟨hordered, fun e he => tablesAll_of_isTable_eq_false (hvalues e he) _⟩

end Toml

/-! ### Contexts -/

theorem nodup_map_entries {α : Type} (m : NameMap α) (encode : α → Tree) :
    ((m.entries.map fun e => (e.1, encode e.2)).map Prod.fst).Nodup := by
  rw [List.map_map, List.nodup_iff_pairwise_ne, List.pairwise_map]
  refine m.ascending.imp fun {a b} h heq => ?_
  have heq' : a.1 = b.1 := heq
  rw [heq'] at h
  exact String.lt_irrefl _ h

theorem Server.wellFormed_encodeMap (m : NameMap String) (depth : Nat) :
    WellFormed depth (encodeMap m) := by
  refine wellFormed_values depth (nodup_map_entries m .text) fun e he => ?_
  obtain ⟨e', -, rfl⟩ := List.mem_map.1 he
  rfl

theorem Context.Entry.wellFormed_encode (e : Entry) (depth : Nat) :
    WellFormed (depth + 1) e.encode := by
  have hfields : FieldsOf ["args", "env"] e.encode :=
    (fieldsOf_listUnlessEmpty _).append (fieldsOf_tableUnlessEmpty _)
  exact wellFormed_append depth (hfields.nodup (by decide)) (forall_mem_listUnlessEmpty rfl)
    (forall_mem_tableUnlessEmpty ⟨rfl, Server.wellFormed_encodeMap e.env depth⟩)

theorem Context.wellFormed_encode (x : Context) (depth : Nat) :
    WellFormed (depth + 3) x.encode := by
  refine wellFormed_tables _ (by simp [encode]) (List.forall_mem_singleton.2 ⟨rfl, ?_⟩)
  refine wellFormed_tables _ (nodup_map_entries x.servers fun e => .table e.encode) fun e he => ?_
  obtain ⟨e', -, rfl⟩ := List.mem_map.1 he
  exact ⟨rfl, e'.2.wellFormed_encode depth⟩

/-! ### Contracts -/

theorem Server.wellFormed_encode (s : Server) (depth : Nat) :
    WellFormed (depth + 1) s.encode := by
  have hfields : FieldsOf (["name", "package"] ++ ["tools"] ++ ["required_env"] ++
      ["required_args"] ++ ["args"] ++ ["env"]) s.encode :=
    .append (.append (.append (.append (.append (List.Sublist.refl _)
      (fieldsOf_listUnlessEmpty _)) (fieldsOf_listUnlessEmpty _)) (fieldsOf_listUnlessEmpty _))
      (fieldsOf_listUnlessEmpty _)) (fieldsOf_tableUnlessEmpty _)
  refine wellFormed_append depth (hfields.nodup (by decide)) ?_
    (forall_mem_tableUnlessEmpty ⟨rfl, wellFormed_encodeMap s.env depth⟩)
  simp only [List.forall_mem_append]
  exact ⟨⟨⟨⟨by simp [isTable, printValue], forall_mem_listUnlessEmpty rfl⟩,
    forall_mem_listUnlessEmpty rfl⟩, forall_mem_listUnlessEmpty rfl⟩,
    forall_mem_listUnlessEmpty rfl⟩

theorem Plugin.wellFormed_encode (p : Plugin) (depth : Nat) : WellFormed depth p.encode := by
  have hfields : FieldsOf (["name", "flows"] ++ ["required"] ++ ["commit_hash"]) p.encode :=
    .append (.append (List.Sublist.refl _) (fieldsOf_optional _)) (fieldsOf_optional _)
  refine wellFormed_values depth (hfields.nodup (by decide)) ?_
  simp only [encode, List.forall_mem_append]
  exact ⟨⟨by simp [isTable, printValue], forall_mem_optional fun b _ => isTable_boolean b⟩,
    forall_mem_optional fun _ _ => rfl⟩

/-- The rows of the categories have their names, each once. -/
theorem Catalogue.wellFormed_encode (cat : Catalogue) (depth : Nat) :
    TablesAll (WellFormed (depth + 1)) cat.encode := by
  have hrows : ∀ cs : List Plugin.Category, FieldsOf (cs.map Plugin.Category.name)
      (cs.flatMap fun c => Tree.tablesUnlessEmpty c.name ((cat.plugins c).map Plugin.encode)) := by
    intro cs
    induction cs with
    | nil => exact List.nil_sublist _
    | cons c cs ih =>
      have hrow : FieldsOf [c.name]
          (Tree.tablesUnlessEmpty c.name ((cat.plugins c).map Plugin.encode)) :=
        fieldsOf_tablesUnlessEmpty _
      exact hrow.append ih
  have hfields : FieldsOf (["dir"] ++ Plugin.Category.all.map Plugin.Category.name)
      cat.encode.entries := .append (fieldsOf_optional _) (hrows Plugin.Category.all)
  refine wellFormed_append depth (hfields.nodup (by decide)) (forall_mem_optional fun _ _ => rfl) ?_
  refine List.forall_mem_flatMap.2 fun c _ => forall_mem_tablesUnlessEmpty fun hsome => ?_
  refine ⟨rfl, hsome, fun es hes => ?_⟩
  obtain ⟨p, -, rfl⟩ := List.mem_map.1 hes
  exact p.wellFormed_encode depth

namespace Daemon

theorem ApiTimeout.wellFormed_encode (t : ApiTimeout) (depth : Nat) :
    TablesAll (WellFormed depth) t.encode := by
  have hfields : FieldsOf ["shutdown"] t.encode.entries := fieldsOf_optional _
  exact wellFormed_values depth (hfields.nodup (by decide)) (forall_mem_optional fun _ _ => rfl)

theorem McpInterval.wellFormed_encode (i : McpInterval) (depth : Nat) :
    TablesAll (WellFormed depth) i.encode := by
  have hfields : FieldsOf ["health"] i.encode.entries := fieldsOf_optional _
  exact wellFormed_values depth (hfields.nodup (by decide)) (forall_mem_optional fun _ _ => rfl)

theorem McpTimeout.wellFormed_encode (t : McpTimeout) (depth : Nat) :
    TablesAll (WellFormed depth) t.encode := by
  have hfields : FieldsOf (["shutdown"] ++ ["init"] ++ ["health"]) t.encode.entries :=
    .append (.append (fieldsOf_optional _) (fieldsOf_optional _)) (fieldsOf_optional _)
  refine wellFormed_values depth (hfields.nodup (by decide)) ?_
  simp only [List.forall_mem_append]
  exact ⟨⟨forall_mem_optional fun _ _ => rfl, forall_mem_optional fun _ _ => rfl⟩,
    forall_mem_optional fun _ _ => rfl⟩

theorem Cors.wellFormed_encode (c : Cors) (depth : Nat) :
    TablesAll (WellFormed depth) c.encode := by
  have hfields : FieldsOf (["enable"] ++ ["allow_origins"] ++ ["methods"] ++ ["allow_headers"] ++
      ["expose_headers"] ++ ["allow_credentials"] ++ ["max_age"]) c.encode.entries :=
    .append (.append (.append (.append (.append (.append (fieldsOf_optional _)
      (fieldsOf_listUnlessEmpty _)) (fieldsOf_listUnlessEmpty _)) (fieldsOf_listUnlessEmpty _))
      (fieldsOf_listUnlessEmpty _)) (fieldsOf_optional _)) (fieldsOf_optional _)
  refine wellFormed_values depth (hfields.nodup (by decide)) ?_
  simp only [List.forall_mem_append]
  exact ⟨⟨⟨⟨⟨⟨forall_mem_optional fun b _ => isTable_boolean b, forall_mem_listUnlessEmpty rfl⟩,
    forall_mem_listUnlessEmpty rfl⟩, forall_mem_listUnlessEmpty rfl⟩,
    forall_mem_listUnlessEmpty rfl⟩, forall_mem_optional fun b _ => isTable_boolean b⟩,
    forall_mem_optional fun _ _ => rfl⟩

theorem Api.wellFormed_encode (a : Api) (depth : Nat) :
    TablesAll (WellFormed (depth + 1)) a.encode := by
  have hfields : FieldsOf (["addr"] ++ (["timeout"] ++ ["cors"]))
      (Tree.optional "addr" .text a.addr ++ (Tree.optional "timeout" ApiTimeout.encode a.timeout ++
        Tree.optional "cors" Cors.encode a.cors)) :=
    .append (fieldsOf_optional _) (.append (fieldsOf_optional _) (fieldsOf_optional _))
  rw [encode, List.append_assoc]
  refine wellFormed_append depth (hfields.nodup (by decide)) (forall_mem_optional fun _ _ => rfl) ?_
  exact List.forall_mem_append.2
    ⟨forall_mem_optional fun t _ => ⟨rfl, t.wellFormed_encode depth⟩,
      forall_mem_optional fun c _ => ⟨rfl, c.wellFormed_encode depth⟩⟩

theorem Mcp.wellFormed_encode (m : Mcp) (depth : Nat) :
    TablesAll (WellFormed (depth + 1)) m.encode := by
  have hfields : FieldsOf (["timeout"] ++ ["interval"]) m.encode.entries :=
    .append (fieldsOf_optional _) (fieldsOf_optional _)
  exact wellFormed_tables depth (hfields.nodup (by decide)) (List.forall_mem_append.2
    ⟨forall_mem_optional fun t _ => ⟨rfl, t.wellFormed_encode depth⟩,
      forall_mem_optional fun i _ => ⟨rfl, i.wellFormed_encode depth⟩⟩)

theorem wellFormed_encode (d : Daemon) (depth : Nat) :
    TablesAll (WellFormed (depth + 2)) d.encode := by
  have hfields : FieldsOf (["api"] ++ ["mcp"]) d.encode.entries :=
    .append (fieldsOf_optional _) (fieldsOf_optional _)
  exact wellFormed_tables _ (hfields.nodup (by decide)) (List.forall_mem_append.2
    ⟨forall_mem_optional fun a _ => ⟨rfl, a.wellFormed_encode depth⟩,
      forall_mem_optional fun m _ => ⟨rfl, m.wellFormed_encode depth⟩⟩)

end Daemon

theorem Contract.wellFormed_encode (k : Contract) (depth : Nat) :
    WellFormed (depth + 3) k.encode := by
  have hfields : FieldsOf (["servers"] ++ ["daemon"] ++ ["plugins"]) k.encode :=
    .append (.append (fieldsOf_tablesUnlessEmpty _) (fieldsOf_optional _)) (fieldsOf_optional _)
  refine wellFormed_tables _ (hfields.nodup (by decide)) ?_
  simp only [encode, List.forall_mem_append]
  refine ⟨⟨?_, ?_⟩, ?_⟩
  · refine forall_mem_tablesUnlessEmpty fun hsome => ⟨rfl, hsome, fun es hes => ?_⟩
    obtain ⟨s, -, rfl⟩ := List.mem_map.1 hes
    exact s.wellFormed_encode (depth + 1)
  · exact forall_mem_optional fun d _ => ⟨rfl, d.wellFormed_encode depth⟩
  · exact forall_mem_optional fun cat _ => ⟨rfl, cat.wellFormed_encode (depth + 1)⟩

end FleetConfig
