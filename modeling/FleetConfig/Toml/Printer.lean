import FleetConfig.Toml.Quoted
import FleetConfig.Toml.Tree

/-!
# Writing documents

The values of a table come first, one on a line, then its tables, each under a header with its whole
path. A table that holds nothing but tables has no header of its own. A blank line stands before
each header but one at the front. A list of two or more texts has a line for each.

## Main definitions

* `Toml.print` — the text of a document.
-/

namespace FleetConfig.Toml

/-! ### Values -/

/-- A written list of texts. -/
def printList : List String → List Char
  | [] => ['[', ']']
  | [s] => '[' :: quoted s ++ [']']
  | ss => '[' :: '\n' :: ss.flatMap (fun s => "    ".toList ++ quoted s ++ [',', '\n']) ++ [']']

/-- A written value; tables are none. -/
def printValue : Tree → Option (List Char)
  | .text s => some (quoted s)
  | .boolean true => some "true".toList
  | .boolean false => some "false".toList
  | .list items => some (printList items)
  | .table _ => none
  | .tables _ => none

/-- The line of an entry; a table has none. -/
def printPair (name : String) (tree : Tree) : List Char :=
  match printValue tree with
  | some v => quotedKey name ++ " = ".toList ++ v ++ ['\n']
  | none => []

/-- The lines of the values of a table. -/
def printPairs (es : Tree.Entries) : List Char := es.flatMap fun e => printPair e.1 e.2

/-! ### Headers -/

/-- A written path. -/
def printPath (path : List String) : List Char :=
  match path with
  | [] => []
  | [name] => quotedKey name
  | name :: rest => quotedKey name ++ '.' :: printPath rest

/-- A block of lines: a header, unless it is that of the root, and the values under it. -/
structure Block where
  /-- The header, in its brackets. -/
  header : Option (List Char)
  /-- The values. -/
  body : List Char

/-- The block of a table. A table that holds tables and no values has no header. -/
def tableBlock (path : List String) (es : Tree.Entries) : Block where
  header :=
    if !es.isEmpty && es.all (fun e => (printValue e.2).isNone) then none
    else some ('[' :: printPath path ++ [']'])
  body := printPairs es

/-- The block of a table in a row of tables. -/
def itemBlock (path : List String) (es : Tree.Entries) : Block where
  header := some ('[' :: '[' :: printPath path ++ [']', ']'])
  body := printPairs es

mutual

/-- The blocks of the tables in a part of a document. -/
def blocks (path : List String) : Tree → List Block
  | .table es => tableBlock path es :: blocksOfEntries path es
  | .tables items => blocksOfItems path items
  | _ => []

/-- The blocks of the tables in the entries of a table. -/
def blocksOfEntries (path : List String) : List (String × Tree) → List Block
  | [] => []
  | (name, tree) :: es => blocks (path ++ [name]) tree ++ blocksOfEntries path es

/-- The blocks of a row of tables. -/
def blocksOfItems (path : List String) : List (List (String × Tree)) → List Block
  | [] => []
  | es :: items => itemBlock path es :: blocksOfEntries path es ++ blocksOfItems path items

end

/-! ### Documents -/

/-- The lines of a row of blocks; `first` tells that no line stands before them. -/
def printBlocks : List Block → Bool → List Char
  | [], _ => []
  | b :: bs, first =>
    match b.header with
    | none => b.body ++ printBlocks bs (first && b.body.isEmpty)
    | some h => (if first then [] else ['\n']) ++ h ++ '\n' :: b.body ++ printBlocks bs false

/-- The text of a document. -/
def print (es : Tree.Entries) : String :=
  String.ofList (printBlocks (⟨none, printPairs es⟩ :: blocksOfEntries [] es) true)

end FleetConfig.Toml
