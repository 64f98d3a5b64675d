import FleetConfig.Toml.Node
import FleetConfig.Toml.Tree

/-!
# Documents as read and as written

A document that is read *agrees* with a document to write if it says the same: the same names in the
same order, with the same texts, truth values and tables under them. Places in the text, and the way
in which a table came to be, do not matter, as long as more can be added to the table.

## Main definitions

* `Toml.Agrees`, `Toml.AgreesEntries`, `Toml.AgreesItems` — agreement of values, of the entries of
  tables and of rows of tables.

## Main results

* `Toml.agreesEntries_append_iff` — entries agree piece by piece.
-/

namespace FleetConfig.Toml

/-- A row of nodes holds these texts. -/
inductive AgreesTexts : List String → List Node → Prop
  | nil : AgreesTexts [] []
  | cons (s : String) (left : Nat) {items : List String} {nodes : List Node}
      (h : AgreesTexts items nodes) :
      AgreesTexts (s :: items) (.scalar (.text s) left :: nodes)

mutual

/-- A node says what is to be written. -/
inductive Agrees : Tree → Node → Prop
  | text (s : String) (left : Nat) : Agrees (.text s) (.scalar (.text s) left)
  | boolean (b : Bool) (left : Nat) : Agrees (.boolean b) (.scalar (.boolean b) left)
  | list (left : Nat) {items : List String} {nodes : List Node} (h : AgreesTexts items nodes) :
      Agrees (.list items) (.array nodes left)
  | table {form : Form} (hform : form ≠ .inline) (left : Option Nat) {es : Tree.Entries}
      {nodes : List (Key × Node)} (h : AgreesEntries es nodes) :
      Agrees (.table es) (.table form left nodes)
  | tables {items : List Tree.Entries} {nodes : List Node} (h : AgreesItems items nodes) :
      Agrees (.tables items) (.tables nodes)

/-- The entries of a table say what is to be written. -/
inductive AgreesEntries : List (String × Tree) → List (Key × Node) → Prop
  | nil : AgreesEntries [] []
  | cons {name : String} {key : Key} (hname : key.name = name) {tree : Tree} {node : Node}
      (h : Agrees tree node) {es : List (String × Tree)} {nodes : List (Key × Node)}
      (hes : AgreesEntries es nodes) : AgreesEntries ((name, tree) :: es) ((key, node) :: nodes)

/-- A row of tables says what is to be written. -/
inductive AgreesItems : List (List (String × Tree)) → List Node → Prop
  | nil : AgreesItems [] []
  | cons {form : Form} (hform : form ≠ .inline) (left : Option Nat) {es : List (String × Tree)}
      {nodes : List (Key × Node)} (h : AgreesEntries es nodes)
      {items : List (List (String × Tree))} {rest : List Node} (hrest : AgreesItems items rest) :
      AgreesItems (es :: items) (.table form left nodes :: rest)

end

/-! ### Entries -/

theorem AgreesEntries.append {es es' : Tree.Entries} {nodes nodes' : List (Key × Node)}
    (h : AgreesEntries es nodes) (h' : AgreesEntries es' nodes') :
    AgreesEntries (es ++ es') (nodes ++ nodes') := by
  induction es generalizing nodes with
  | nil =>
    cases h
    exact h'
  | cons e es ih =>
    cases h with
    | cons hname h hes => exact .cons hname h (ih hes)

theorem AgreesEntries.singleton {name : String} {key : Key} (hname : key.name = name) {tree : Tree}
    {node : Node} (h : Agrees tree node) : AgreesEntries [(name, tree)] [(key, node)] :=
  .cons hname h .nil

/-- Entries agree piece by piece. -/
theorem agreesEntries_append_iff {es es' : Tree.Entries} {nodes : List (Key × Node)} :
    AgreesEntries (es ++ es') nodes ↔
      ∃ before after, nodes = before ++ after ∧ AgreesEntries es before ∧
        AgreesEntries es' after := by
  constructor
  · intro h
    induction es generalizing nodes with
    | nil => exact ⟨[], nodes, rfl, .nil, h⟩
    | cons e es ih =>
      cases h with
      | cons hname h hes =>
        obtain ⟨before, after, rfl, hbefore, hafter⟩ := ih hes
        exact ⟨_ :: before, after, rfl, .cons hname h hbefore, hafter⟩
  · rintro ⟨before, after, rfl, hbefore, hafter⟩
    exact hbefore.append hafter

theorem AgreesEntries.map_name {es : Tree.Entries} {nodes : List (Key × Node)}
    (h : AgreesEntries es nodes) : nodes.map (fun e => e.1.name) = es.map Prod.fst := by
  induction es generalizing nodes with
  | nil =>
    cases h
    rfl
  | cons e es ih =>
    cases h with
    | cons hname h hes => rw [List.map_cons, List.map_cons, hname, ih hes]

/-! ### Rows of tables -/

theorem AgreesItems.append {items items' : List Tree.Entries} {nodes nodes' : List Node}
    (h : AgreesItems items nodes) (h' : AgreesItems items' nodes') :
    AgreesItems (items ++ items') (nodes ++ nodes') := by
  induction items generalizing nodes with
  | nil =>
    cases h
    exact h'
  | cons es items ih =>
    cases h with
    | cons hform left h hrest => exact .cons hform left h (ih hrest)

end FleetConfig.Toml
