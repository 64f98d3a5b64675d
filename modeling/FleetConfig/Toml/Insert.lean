import FleetConfig.Toml.Node

/-!
# Adding to tables

What is added to a table must be new. A dotted key leads through tables that dotted keys or longer
headers brought about, never into a table with a header or braces of its own, and it ends in a table
that dotted keys brought about. A header leads through any tables, and into the last one of an array
of tables.

## Main definitions

* `Toml.insertDotted` — adds a value under a dotted key.
* `Toml.atHeader` — changes the table that a header's path leads to.
-/

namespace FleetConfig.Toml

/-- Adds a value under a key that is not there yet. -/
def insertNew (key : Key) (node : Node) (es : List (Key × Node)) : Option (List (Key × Node)) :=
  if hasEntry key.name es then none else some (es ++ [(key, node)])

/-- Adds an entry, or puts a value under the key that is there. -/
def putEntry (key : Key) (node : Node) (es : List (Key × Node)) : List (Key × Node) :=
  if hasEntry key.name es then setEntry key.name node es else es ++ [(key, node)]

/-- The last table of an array of tables, and those before it. -/
def splitLast? (ts : List Node) : Option (List Node × Node) :=
  ts.getLast?.map fun t => (ts.dropLast, t)

mutual

/-- Adds a value below a node, at the end of a way of dotted keys. -/
def insertBelow (node? : Option Node) (path : List Key) (key : Key) (value : Node) : Option Node :=
  match node? with
  | none => (insertEnd .dotted [] path key value).map (.table .dotted none)
  | some (.table .dotted left es) => (insertEnd .dotted es path key value).map (.table .dotted left)
  | some (.table .implied left es) =>
    (insertEnd .implied es path key value).map (.table .implied left)
  | some (.tables ts) =>
    match splitLast? ts with
    | some (before, .table form left es) =>
      (insertEnd form es path key value).map fun es' => .tables (before ++ [.table form left es'])
    | _ => none
  | some _ => none
termination_by (path.length, 1)

/-- Adds a value to the entries of a table on the way of a dotted key. -/
def insertEnd (form : Form) (es : List (Key × Node)) (path : List Key) (key : Key) (value : Node) :
    Option (List (Key × Node)) :=
  match path with
  | [] => if form = .dotted then insertNew key value es else none
  | k :: ks =>
    (insertBelow (find? k.name es) ks key value).map fun node => putEntry k node es
termination_by (path.length, 0)

end

/-- Adds a value to a table under a dotted key; `path` holds all names of the key but the last. -/
def insertDotted (es : List (Key × Node)) (path : List Key) (key : Key) (value : Node) :
    Option (List (Key × Node)) :=
  match path with
  | [] => insertNew key value es
  | k :: ks => (insertBelow (find? k.name es) ks key value).map fun node => putEntry k node es

/-- Changes the entries of the table that a header's path leads to. Tables on the way are brought
about if they are not there. -/
def atHeader (change : List (Key × Node) → Option (List (Key × Node))) :
    List Key → List (Key × Node) → Option (List (Key × Node))
  | [], es => change es
  | k :: ks, es =>
    match find? k.name es with
    | none => (atHeader change ks []).map fun es' => es ++ [(k, .table .implied none es')]
    | some (.table .inline _ _) => none
    | some (.table form left inner) =>
      (atHeader change ks inner).map fun es' => setEntry k.name (.table form left es') es
    | some (.tables ts) =>
      match splitLast? ts with
      | some (before, .table form left inner) =>
        (atHeader change ks inner).map fun es' =>
          setEntry k.name (.tables (before ++ [.table form left es'])) es
      | _ => none
    | some _ => none

end FleetConfig.Toml
