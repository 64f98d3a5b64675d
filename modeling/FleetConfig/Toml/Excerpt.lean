import FleetConfig.Text.Split
import FleetConfig.Toml.Node

/-!
# Excerpts around a fault

A fault is reported with the number of its line and an excerpt of the document: the line before, the
line itself with a marker, and the two lines after it.

## Main definitions

* `Toml.lineNumber` — the line of a place.
* `Toml.excerpt` — the lines around one.
* `Toml.Fault.message` — the report of a fault.
-/

namespace FleetConfig.Toml

/-- The number of the line on which a text goes on after `before`. -/
def lineNumber (before : List Char) : Nat := before.count '\n' + 1

/-- A number on the right of at least four columns. -/
def column (n : Nat) : String :=
  let ds := toString n
  String.ofList (List.replicate (4 - ds.length) ' ') ++ ds

/-- One line of an excerpt. -/
def excerptLine (marked number : Nat) (line : List Char) : String :=
  (if number = marked then ">>>" else "   ") ++ " " ++ column number ++ " | " ++ String.ofList line

/-- The lines around the line `n`, numbered, with a marker at that line. -/
def excerptLines (cs : List Char) (n : Nat) : List String :=
  let start := n - 2
  (((Text.lines cs).take (n + 2)).drop start).mapIdx fun i line =>
    excerptLine n (start + i + 1) line

/-- The text of the lines around the line `n`. -/
def excerpt (cs : List Char) (n : Nat) : String := Text.join "\n" (excerptLines cs n)

/-- The report of a fault in a document. -/
def Fault.message (fault : Fault) (cs : List Char) : String :=
  let n := lineNumber (cs.take (cs.length - fault.left))
  "TOML parsing error at line " ++ toString n ++ ":\n" ++ excerpt cs n

end FleetConfig.Toml
