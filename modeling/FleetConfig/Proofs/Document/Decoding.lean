import FleetConfig.Proofs.Results
import FleetConfig.Proofs.Sorted.Keys
import FleetConfig.Proofs.Toml.Agreement
import FleetConfig.Toml.Decoder

/-!
# Decoders and written data

A decoder reads the data back from what is written for it if it takes the data from every node that
agrees with what is written. A record is read back field by field: a field that is written is
stored, and one that is left out keeps its first value.

## Main definitions

* `Toml.Decoder.Reads` — a decoder reads back what is written.
* `Toml.Decoder.Fills` — the fields that are written take a record from one value to another.

## Main results

* `Toml.Decoder.Fills.optional`, `Toml.Decoder.Fills.listUnlessEmpty` — fields that may be left out.
* `Toml.Decoder.reads_record`, `Toml.Decoder.reads_map`, `Toml.Decoder.reads_tables` — the shapes.
* `Toml.Decoder.record_invariant` — what holds of a record whatever it is read from.
-/

namespace FleetConfig.Toml.Decoder

variable {α β σ : Type}

/-- A decoder takes the data from every node that says what is written. -/
def Reads (d : Decoder α) (tree : Tree) (a : α) : Prop :=
  ∀ left node, Agrees tree node → d left node = .ok a

/-! ### Values -/

theorem reads_text (s : String) : Reads text (.text s) s := by
  rintro left node ⟨⟩
  rfl

theorem reads_boolean (b : Bool) : Reads boolean (.boolean b) b := by
  rintro left node ⟨⟩
  rfl

/-- A list of names is read back item by item. -/
theorem reads_list {item : Decoder α} (name : α → String) {items : List α}
    (h : ∀ a ∈ items, Reads item (.text (name a)) a) :
    Reads (list item) (.list (items.map name)) items := by
  rintro left node hnode
  cases hnode with
  | @list left' _ nodes hnodes =>
    show nodes.mapM (fun n => item (n.left?.getD left) n) = .ok items
    induction items generalizing nodes with
    | nil =>
      cases hnodes
      rfl
    | cons a items ih =>
      cases hnodes with
      | @cons s left' _ nodes hnodes =>
        rw [List.mapM_cons, h a List.mem_cons_self _ _ (.text (name a) left'),
          ih (fun a' ha' => h a' (List.mem_cons_of_mem a ha')) hnodes]
        rfl

theorem reads_texts (items : List String) : Reads (list text) (.list items) items := by
  have h : Reads (list text) (.list (items.map id)) items := reads_list id fun s _ => reads_text s
  rw [List.map_id] at h
  exact h

/-! ### Rows of tables and maps -/

theorem reads_tables {item : Decoder α} {encode : α → Tree.Entries} {items : List α}
    (h : ∀ a ∈ items, Reads item (.table (encode a)) a) :
    Reads (list item) (.tables (items.map encode)) items := by
  rintro left node hnode
  cases hnode with
  | @tables _ nodes hnodes =>
    show nodes.mapM (fun n => item (n.left?.getD left) n) = .ok items
    induction items generalizing nodes with
    | nil =>
      cases hnodes
      rfl
    | cons a items ih =>
      cases hnodes with
      | @cons form hform left' es es' hes _ nodes hnodes =>
        rw [List.mapM_cons, h a List.mem_cons_self _ _ (.table hform left' hes),
          ih (fun a' ha' => h a' (List.mem_cons_of_mem a ha')) hnodes]
        rfl

theorem reads_map {value : Decoder α} (encode : α → Tree) (m : NameMap α)
    (h : ∀ e ∈ m.entries, Reads value (encode e.2) e.2) :
    Reads (map value) (.table (m.entries.map fun e => (e.1, encode e.2))) m := by
  rintro left node hnode
  cases hnode with
  | @table form hform left' _ nodes hnodes =>
    have hpairs : nodes.mapM (fun e => do return (e.1.name, ← value (placeOf e.1 e.2) e.2)) =
        (.ok m.entries : Except Fault _) := by
      revert h hnodes
      generalize m.entries = es
      intro h hnodes
      induction es generalizing nodes with
      | nil =>
        cases hnodes
        rfl
      | cons e es ih =>
        cases hnodes with
        | cons hname hnode hnodes =>
          rw [List.mapM_cons, h e List.mem_cons_self _ _ hnode,
            ih (fun e' he' => h e' (List.mem_cons_of_mem e he')) hnodes, hname]
          rfl
    show (nodes.mapM _ >>= fun pairs => Except.ok (NameMap.ofList pairs)) = .ok m
    rw [hpairs]
    exact congrArg Except.ok m.ofList_entries

/-! ### Records -/

/-- The fields of a table in the order of its entries. -/
def fields (nodes : List (Key × Node)) : List (String × Nat × Node) :=
  nodes.map fun e => (e.1.name, placeOf e.1 e.2, e.2)

/-- The fields that are written take a record from one value to another. -/
def Fills (set : String → σ → Decoder σ) (es : Tree.Entries) (acc acc' : σ) : Prop :=
  ∀ nodes, AgreesEntries es nodes →
    (fields nodes).foldlM (fun acc f => set f.1 acc f.2.1 f.2.2) acc = .ok acc'

variable {set : String → σ → Decoder σ} {name : String}

theorem reads_record {names : List String} {es : Tree.Entries} {init a : σ}
    (h : Fills set es init a) : Reads (record names set init) (.table es) a := by
  rintro left node hnode
  cases hnode with
  | table hform left' hnodes => exact h _ hnodes

/-- A record is read back if its fields are, and if they make up the data. -/
theorem reads_bind {d : Decoder σ} {next : Nat → σ → Except Fault α} {tree : Tree} (s : σ) {a : α}
    (h : Reads d tree s) (hnext : ∀ left, next left s = .ok a) :
    Reads (fun left node => d left node >>= next left) tree a := by
  intro left node hnode
  show (d left node >>= next left) = .ok a
  rw [h left node hnode]
  exact hnext left

namespace Fills

theorem nil (acc : σ) : Fills set [] acc acc := by
  rintro nodes ⟨⟩
  rfl

theorem append {es es' : Tree.Entries} {acc acc' acc'' : σ} (h : Fills set es acc acc')
    (h' : Fills set es' acc' acc'') : Fills set (es ++ es') acc acc'' := by
  intro nodes hnodes
  obtain ⟨before, after, rfl, hbefore, hafter⟩ := agreesEntries_append_iff.1 hnodes
  rw [fields, List.map_append, List.foldlM_append]
  show ((fields before).foldlM _ acc >>= fun acc => (fields after).foldlM _ acc) = _
  rw [h before hbefore]
  exact h' after hafter

theorem cons {e : String × Tree} {es : Tree.Entries} {acc acc' acc'' : σ}
    (h : Fills set [e] acc acc') (h' : Fills set es acc' acc'') : Fills set (e :: es) acc acc'' :=
  h.append h'

theorem single {tree : Tree} {acc acc' : σ}
    (h : ∀ left node, Agrees tree node → set name acc left node = .ok acc') :
    Fills set [(name, tree)] acc acc' := by
  intro nodes hnodes
  cases hnodes with
  | @cons _ key hname _ node hnode _ _ hnodes =>
    cases hnodes
    subst hname
    show (set key.name acc _ node >>= Except.ok) = _
    rw [h _ _ hnode]
    rfl

/-- A field that is there is stored. -/
theorem field (put : β → σ) {d : Decoder β} {tree : Tree} {acc : σ} {b : β}
    (hset : ∀ left node, set name acc left node = do return put (← d left node))
    (hread : Reads d tree b) : Fills set [(name, tree)] acc (put b) := by
  refine single fun left node hnode => ?_
  rw [hset, hread left node hnode]
  rfl

/-- A field that may be absent is stored if it is there. -/
theorem optional (put : Option β → σ) {d : Decoder β} {encode : β → Tree}
    (hset : ∀ left node, set name (put none) left node = do return put (some (← d left node)))
    {b? : Option β} (hread : ∀ b ∈ b?, Reads d (encode b) b) :
    Fills set (Tree.optional name encode b?) (put none) (put b?) := by
  cases b? with
  | none => exact nil _
  | some b => exact field (fun b => put (some b)) hset (hread b rfl)

/-- A list that is left out when it is empty is stored if it is there. -/
theorem listUnlessEmpty (put : β → σ) {d : Decoder β} {items : List String} {b empty : β}
    (hset : ∀ left node, set name (put empty) left node = do return put (← d left node))
    (hread : Reads d (.list items) b) (hempty : items = [] → b = empty) :
    Fills set (Tree.listUnlessEmpty name items) (put empty) (put b) := by
  cases items with
  | nil =>
    rw [hempty rfl]
    exact nil _
  | cons s items => exact field put hset hread

/-- A table that is left out when it is empty is stored if it is there. -/
theorem tableUnlessEmpty (put : β → σ) {d : Decoder β} {es : Tree.Entries} {b empty : β}
    (hset : ∀ left node, set name (put empty) left node = do return put (← d left node))
    (hread : Reads d (.table es) b) (hempty : es = [] → b = empty) :
    Fills set (Tree.tableUnlessEmpty name es) (put empty) (put b) := by
  cases es with
  | nil =>
    rw [hempty rfl]
    exact nil _
  | cons e es => exact field put hset hread

/-- A row of tables that is left out when it is empty is stored if it is there. -/
theorem tablesUnlessEmpty (put : List β → σ) {d : Decoder β} {encode : β → Tree.Entries}
    {bs : List β}
    (hset : ∀ left node, set name (put []) left node = do return put (← list d left node))
    (hread : ∀ b ∈ bs, Reads d (.table (encode b)) b) :
    Fills set (Tree.tablesUnlessEmpty name (bs.map encode)) (put []) (put bs) := by
  cases bs with
  | nil => exact nil _
  | cons b bs => exact field put hset (reads_tables hread)

end Fills

/-! ### Records from any document -/

/-- What holds of the first value of a record, and is kept by each field that is stored, holds of
the record whatever it is read from. -/
theorem record_invariant {names : List String} {init a : σ} {P : σ → Prop} (hinit : P init)
    (hset : ∀ name acc left node acc', P acc → set name acc left node = .ok acc' → P acc')
    {left : Nat} {node : Node} (h : record names set init left node = .ok a) : P a := by
  rw [record] at h
  split at h
  · exact foldlM_invariant (P := P) (fun _ f _ hacc hf => hset f.1 _ _ _ _ hacc hf) hinit h
  · cases h

end FleetConfig.Toml.Decoder
