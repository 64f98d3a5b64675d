import FleetConfig.Toml.Statement

/-!
# Documents

The statements of a document build up its tables: a header opens a table, and pairs add to the table
that is open. A document is wrong at the first statement that adds what is there already, or at the
first place that cannot be read, whichever comes first.

## Main definitions

* `Toml.Builder` — the tables so far, and the open one.
* `Toml.parse` — the entries of a document.
-/

namespace FleetConfig.Toml

/-- The tables so far. The open table is kept apart from the others until the next header. -/
structure Builder where
  /-- The entries of the root, without the open table. -/
  root : List (Key × Node) := []
  /-- The names that lead to the open table and the last of them; nothing while the root is open. -/
  place : Option (Bool × List Key × Key × Nat) := none
  /-- The entries of the open table. -/
  current : List (Key × Node) := []

namespace Builder

/-- Adds a table at the end of the tables under a key, which are brought about if they are not
there. -/
def appendTable (key : Key) (table : Node) (es : List (Key × Node)) : Option (List (Key × Node)) :=
  match find? key.name es with
  | none => some (es ++ [(key, .tables [table])])
  | some (.tables ts) => some (setEntry key.name (.tables (ts ++ [table])) es)
  | some _ => none

/-- The entries of the root with the open table put in its place. -/
def close (b : Builder) : Option (List (Key × Node)) :=
  match b.place with
  | none => some b.current
  | some (true, path, key, left) =>
    atHeader (appendTable key (.table .header (some left) b.current)) path b.root
  | some (false, path, key, left) =>
    atHeader (insertNew key (.table .header (some left) b.current)) path b.root

/-- What a header takes over from the table of its name: the entries of an implied table. A table of
any other kind cannot be opened again. -/
def takeOver (isArray : Bool) (node? : Option Node) : Option (List (Key × Node)) :=
  match isArray, node? with
  | _, none => some []
  | true, some (.tables _) => some []
  | false, some (.table .implied _ es) => some es
  | _, some _ => none

/-- The node that a header's names lead to. Tables on the way need not be there. -/
def lookUp : List Key → Key → List (Key × Node) → Option Node
  | [], key, es => find? key.name es
  | k :: ks, key, es =>
    match find? k.name es with
    | some (.tables ts) => lookUp ks key (ts.getLast?.map Node.entries |>.getD [])
    | some node => lookUp ks key node.entries
    | none => none

/-- Makes room for a table in the entries of its parent: a table that is taken over is removed, and
the tables of a header in double brackets are brought about. -/
def makeRoom (isArray : Bool) (key : Key) (es : List (Key × Node)) : Option (List (Key × Node)) :=
  if isArray then some (if hasEntry key.name es then es else es ++ [(key, .tables [])])
  else some (es.filter fun e => e.1.name != key.name)

/-- Opens the table of a header. -/
def openTable (b : Builder) (isArray : Bool) (path : List Key) (key : Key) (left : Nat) :
    Option Builder := do
  let closed ← b.close
  let current ← takeOver isArray (lookUp path key closed)
  let root ← atHeader (makeRoom isArray key) path closed
  return { root, place := some (isArray, path, key, left), current }

/-- Follows a statement. -/
def add (b : Builder) : Statement → Except Fault Builder
  | .header isArray path key left =>
    match b.openTable isArray path key left with
    | some b' => .ok b'
    | none => .error ⟨left⟩
  | .pair path key value left =>
    match insertDotted b.current path key value with
    | some current => .ok { b with current }
    | none => .error ⟨left⟩

end Builder

/-- Drops a mark of byte order in front. -/
def skipByteOrderMark : List Char → List Char
  | '\ufeff' :: cs => cs
  | cs => cs

/-- The entries of a document. -/
def parse (cs : List Char) : Except Fault (List (Key × Node)) := do
  let (sts, fault?) := statements (skipByteOrderMark cs)
  let b ← sts.foldlM Builder.add {}
  match fault? with
  | some fault => .error fault
  | none => return b.close.getD []

end FleetConfig.Toml
