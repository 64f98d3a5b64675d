import FleetConfig.Duration.Basic
import FleetConfig.Sorted.Entries
import FleetConfig.Text.Split

/-!
# Typed settings

A setting is a text, a switch, a duration or a list of texts; settings under one dotted prefix form
a table, sorted by name. A table is flattened into pairs of a dotted path and a leaf, and built
again by inserting such pairs.

## Main definitions

* `Setting.Leaf`, `Setting` — single settings and tables of them.
* `Setting.flatten` — the leaves with their dotted paths.
* `Setting.insertPath`, `Setting.ofPairs` — tables built from paths and leaves.
* `Setting.text` — what is shown for a setting.
-/

namespace FleetConfig

/-! ### Leaves -/

/-- A single setting. -/
inductive Setting.Leaf where
  | text (value : String)
  | switch (value : Bool)
  | duration (value : Duration)
  | list (items : List String)
deriving DecidableEq, Inhabited

namespace Setting.Leaf

/-- The text of a switch. -/
def switchText (b : Bool) : String := if b then "true" else "false"

/-- What is shown for a single setting. -/
def display : Leaf → String
  | text s => s
  | switch b => switchText b
  | duration d => d.text
  | list items => "[" ++ Text.join ", " items ++ "]"

/-- The text, of a text. -/
def asText? : Leaf → Option String
  | text s => some s
  | _ => none

/-- The switch, of a switch. -/
def asSwitch? : Leaf → Option Bool
  | switch b => some b
  | _ => none

/-- The duration, of a duration. -/
def asDuration? : Leaf → Option Duration
  | duration d => some d
  | _ => none

/-- The items, of a list; any other setting has none. -/
def items : Leaf → List String
  | list xs => xs
  | _ => []

end Setting.Leaf

/-! ### Tables -/

/-- A single setting or a table of settings. -/
inductive Setting where
  | leaf (value : Setting.Leaf)
  | table (entries : List (String × Setting))
deriving Inhabited

namespace Setting

/-- Appends a name to a dotted path. -/
def extendPath (path name : String) : String := if path = "" then name else path ++ "." ++ name

mutual

/-- The leaves of a setting with their dotted paths below `path`, in order. -/
def flatten (path : String) : Setting → List (String × Leaf)
  | leaf l => [(path, l)]
  | table entries => flattenEntries path entries

/-- The leaves of a table's entries. -/
def flattenEntries (path : String) : List (String × Setting) → List (String × Leaf)
  | [] => []
  | (name, s) :: es => flatten (extendPath path name) s ++ flattenEntries path es

end

/-- What is shown for a setting: a leaf's own text, and a line for each leaf of a table. -/
def text : Setting → String
  | leaf l => l.display
  | table entries =>
    Text.join "\n" ((flattenEntries "" entries).map fun p => p.1 ++ " = " ++ p.2.display)

/-- Inserts a leaf into a table at a path, opening the tables on the way. A leaf that stands in the
way stays, and nothing is inserted. -/
def insertPath (value : Leaf) : List String → List (String × Setting) → List (String × Setting)
  | [], es => es
  | [name], es => Sorted.insertEntry name (leaf value) es
  | name :: next :: path, es =>
    match Sorted.lookup? name es with
    | none => Sorted.insertEntry name (table (insertPath value (next :: path) [])) es
    | some (table inner) =>
      Sorted.insertEntry name (table (insertPath value (next :: path) inner)) es
    | some (leaf _) => es

/-- The table that pairs of a dotted path and a leaf build. -/
def ofPairs (pairs : List (String × Leaf)) : List (String × Setting) :=
  pairs.foldl (fun es p => insertPath p.2 (Text.split '.' p.1) es) []

end Setting

end FleetConfig
