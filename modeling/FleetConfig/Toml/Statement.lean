import FleetConfig.Toml.Value

/-!
# Statements

A document is a row of lines with a header or a pair of key and value on them; comments and blank
lines stand between.

## Main definitions

* `Toml.Statement` — a header or a pair.
* `Toml.statements` — the statements of a document up to the first place that is wrong.
-/

namespace FleetConfig.Toml

/-- A header or a pair, with the place at which it starts. -/
inductive Statement where
  /-- Opens a table; the flag tells a header in double brackets. -/
  | header (isArray : Bool) (path : List Key) (key : Key) (left : Nat)
  /-- Adds a value to the open table. -/
  | pair (path : List Key) (key : Key) (value : Node) (left : Nat)

/-- What follows closing brackets in front. -/
def closing (isArray : Bool) : List Char → Step Unit
  | ']' :: ']' :: cs => .found () (if isArray then cs else ']' :: cs)
  | ']' :: cs => if isArray then .wrong ⟨cs.length + 1⟩ else .found () cs
  | cs => .wrong ⟨cs.length⟩

/-- Reads a header behind its opening brackets. -/
def headerBody (isArray : Bool) (left : Nat) (cs : List Char) : Step Statement :=
  ((dottedKey cs).need cs).andThen fun (path, key) rest =>
    (closing isArray rest).andThen fun () rest =>
      (lineEnd rest).map fun () => .header isArray path key left

/-- Reads a pair of key and value. -/
def pairLine (cs : List Char) : Step Statement :=
  ((dottedKey cs).need cs).andThen fun (path, key) rest =>
    match rest with
    | '=' :: rest =>
      let start := skipBlanks rest
      ((value depthLimit start).need start).andThen fun node rest =>
        (lineEnd rest).map fun () => .pair path key node cs.length
    | _ => .wrong ⟨rest.length⟩

/-- Reads what a line holds from its first character that is no blank; nothing for a comment or a
blank line. -/
def line (cs : List Char) : Step (Option Statement) :=
  match cs with
  | '#' :: _ => (lineEnd cs).map fun () => none
  | '\n' :: _ => (lineEnd cs).map fun () => none
  | '\r' :: _ => (lineEnd cs).map fun () => none
  | '[' :: '[' :: rest => (headerBody true cs.length rest).map some
  | '[' :: rest => (headerBody false cs.length rest).map some
  | _ => (pairLine cs).map some

/-- Reads lines up to the end or to the first place that is wrong. -/
def statements (cs : List Char) : List Statement × Option Fault :=
  match skipBlanks cs with
  | [] => ([], none)
  | start =>
    match line start with
    | .found statement? rest =>
      if rest.length < cs.length then
        let (more, fault?) := statements rest
        (statement?.toList ++ more, fault?)
      else (statement?.toList, some ⟨rest.length⟩)
    | .absent => ([], some ⟨start.length⟩)
    | .wrong fault => ([], some fault)
termination_by cs.length

end FleetConfig.Toml
