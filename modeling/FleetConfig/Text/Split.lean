/-!
# Cutting text

Text is cut at single characters: into all pieces, at the first occurrence, at the last one, or
into lines.

## Main definitions

* `Text.pieces`, `Text.split` — all pieces between occurrences of a character.
* `Text.cutFirst`, `Text.cutLast` — what stands before and after one occurrence.
* `Text.lines` — the lines of a text, each without its line ending.
* `Text.join` — pieces put together again with a separator.
-/

namespace FleetConfig.Text

/-! ### Pieces -/

/-- The pieces between the occurrences of `sep`; there is one more of them than occurrences. -/
def pieces (sep : Char) : List Char → List (List Char)
  | [] => [[]]
  | c :: cs =>
    if c = sep then [] :: pieces sep cs
    else
      match pieces sep cs with
      | [] => [[c]]
      | p :: ps => (c :: p) :: ps

/-- The pieces of a text between the occurrences of `sep`. -/
def split (sep : Char) (s : String) : List String := (pieces sep s.toList).map String.ofList

/-- Puts `sep` between the pieces. -/
def join (sep : String) : List String → String
  | [] => ""
  | [p] => p
  | p :: q :: ps => p ++ sep ++ join sep (q :: ps)

/-! ### One cut -/

/-- What stands before and after the first `sep`. -/
def cutFirst (sep : Char) : List Char → Option (List Char × List Char)
  | [] => none
  | c :: cs =>
    if c = sep then some ([], cs) else (cutFirst sep cs).map fun p => (c :: p.1, p.2)

/-- What stands before and after the last `sep`. -/
def cutLast (sep : Char) : List Char → Option (List Char × List Char)
  | [] => none
  | c :: cs =>
    match cutLast sep cs with
    | some (before, after) => some (c :: before, after)
    | none => if c = sep then some ([], cs) else none

/-- `cutFirst` on texts. -/
def splitFirst (sep : Char) (s : String) : Option (String × String) :=
  (cutFirst sep s.toList).map fun p => (String.ofList p.1, String.ofList p.2)

/-! ### Lines -/

/-- Drops one carriage return from the end of a line that a line feed ended. -/
def dropReturn (line : List Char) : List Char :=
  if line.getLast? = some '\r' then line.dropLast else line

/-- Strips the line endings from the pieces between line feeds. The last piece is a line only if
it holds something, and keeps a carriage return, because no line feed follows it. -/
def linesOfPieces : List (List Char) → List (List Char)
  | [] => []
  | [last] => if last = [] then [] else [last]
  | p :: q :: ps => dropReturn p :: linesOfPieces (q :: ps)

/-- The lines of a text, without their line feeds and the carriage returns before those. -/
def lines (cs : List Char) : List (List Char) := linesOfPieces (pieces '\n' cs)

/-! ### Affixes -/

/-- What follows `start` at the front of a list of characters. -/
def afterStart? : List Char → List Char → Option (List Char)
  | [], cs => some cs
  | _ :: _, [] => none
  | p :: ps, c :: cs => if p = c then afterStart? ps cs else none

/-- Holds if `start` stands at the front. -/
def startsWith (start cs : List Char) : Bool := (afterStart? start cs).isSome

/-- Holds if `needle` stands anywhere. -/
def occursIn (needle : List Char) : List Char → Bool
  | [] => needle.isEmpty
  | c :: cs => startsWith needle (c :: cs) || occursIn needle cs

end FleetConfig.Text
