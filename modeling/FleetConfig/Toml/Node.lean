/-!
# Documents as read

Reading a TOML document gives a tree of nodes, which know where they stand in the text. A place is
told by how many characters of the text are left from there.

## Main definitions

* `Toml.Fault` — the place at which a document is wrong.
* `Toml.Node`, `Toml.Key` — values, arrays and tables, and the keys of tables.
* `Toml.Form` — how a table came to be, which decides what may still be added to it.
-/

namespace FleetConfig.Toml

/-- A document is wrong at the place from which so many characters are left. -/
structure Fault where
  left : Nat
deriving DecidableEq, Repr, Inhabited

/-- A key with its place. -/
structure Key where
  name : String
  left : Nat
deriving DecidableEq, Repr, Inhabited

/-- A value without parts. -/
inductive Scalar where
  | text (value : String)
  | integer (value : Int)
  /-- A number with a fraction or an exponent, or one that is no number, as it is written. -/
  | float (written : String)
  | boolean (value : Bool)
  /-- A date, a time or both, in canonical form. -/
  | moment (value : String)
deriving DecidableEq, Repr, Inhabited

/-- How a table came to be. -/
inductive Form where
  /-- It has a header of its own; the root counts as such a table. -/
  | header
  /-- It lies on the way to a table with a header. -/
  | implied
  /-- It lies on the way of a dotted key. -/
  | dotted
  /-- It is written in braces. -/
  | inline
deriving DecidableEq, Repr, Inhabited

/-- A part of a document. -/
inductive Node where
  | scalar (value : Scalar) (left : Nat)
  | array (items : List Node) (left : Nat)
  /-- The tables that headers in double brackets open one after another. -/
  | tables (items : List Node)
  /-- A table; tables that no text of their own opens have no place. -/
  | table (form : Form) (left : Option Nat) (entries : List (Key × Node))
deriving Inhabited

namespace Node

/-- The entries of a table; other nodes have none. -/
def entries : Node → List (Key × Node)
  | table _ _ es => es
  | _ => []

/-- The place of a node, if text of its own opens it. -/
def left? : Node → Option Nat
  | scalar _ l => some l
  | array _ l => some l
  | table _ l _ => l
  | tables [] => none
  | tables (t :: _) =>
    match t with
    | table _ l _ => l
    | _ => none

end Node

/-- The value under a name. -/
def find? (name : String) (es : List (Key × Node)) : Option Node :=
  (es.find? fun e => e.1.name == name).map Prod.snd

/-- Decides whether there is an entry of a name. -/
def hasEntry (name : String) (es : List (Key × Node)) : Bool := es.any fun e => e.1.name == name

/-- Puts another value under a name that is there. -/
def setEntry (name : String) (node : Node) (es : List (Key × Node)) : List (Key × Node) :=
  es.map fun e => if e.1.name == name then (e.1, node) else e

end FleetConfig.Toml
