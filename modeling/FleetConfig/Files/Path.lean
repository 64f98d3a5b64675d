import FleetConfig.Text.Split

/-!
# Paths

A path keeps the spelling in which it was given, because reports show it. Its *components* are the
names between slashes; empty names do not count, nor does a dot after the first name.

## Main definitions

* `Path`, `Path.components` — a path and its names.
* `Path.parent?`, `Path.fileName?`, `Path.sibling`, `Path.join` — neighbours of a path.
* `Path.stages` — the paths on the way to a path.
* `Path.sameNames` — equality of components.
-/

namespace FleetConfig

/-- The path of a file or directory, as it was spelled. -/
structure Path where
  /-- The spelling. -/
  text : String
deriving DecidableEq, Inhabited

namespace Path

/-! ### Components -/

/-- Holds of a path from the root. -/
def isAbsolute (p : Path) : Bool := p.text.toList.head? == some '/'

/-- The names between the slashes, the empty ones included. -/
def segments (p : Path) : List (List Char) := Text.pieces '/' p.text.toList

/-- The components among segments, each with the spelling up to its end; `before` is what stands
before the first segment. -/
def stagesAfter (first : Bool) (before : List Char) :
    List (List Char) → List (List Char × List Char)
  | [] => []
  | s :: ss =>
    let rest := stagesAfter false (before ++ s ++ ['/']) ss
    if s = [] ∨ (s = ['.'] ∧ ¬first) then rest else (s, before ++ s) :: rest

/-- The components of a path, each with the path up to it. -/
def stages (p : Path) : List (String × Path) :=
  (stagesAfter true [] p.segments).map fun e => (String.ofList e.1, ⟨String.ofList e.2⟩)

/-- The components of a path. -/
def components (p : Path) : List String := p.stages.map Prod.fst

/-- Holds of two paths with the same components, whatever their spelling. -/
def sameNames (p q : Path) : Bool := p.isAbsolute == q.isAbsolute && p.components == q.components

/-! ### Neighbours -/

/-- Where the components of a path start. -/
def start (p : Path) : Path := ⟨if p.isAbsolute then "/" else ""⟩

/-- The path without its last component. -/
def parent? (p : Path) : Option Path :=
  match p.stages.reverse with
  | [] => none
  | [_] => some p.start
  | _ :: e :: _ => some e.2

/-- The last component, if it is a name of its own. -/
def fileName? (p : Path) : Option String :=
  (p.components.getLast?).filter fun name => name != "." && name != ".."

/-- The path of a name under a path; a name from the root stays what it is. -/
def join (p : Path) (name : String) : Path :=
  if p.text = "" ∨ name.toList.head? = some '/' then ⟨name⟩
  else if p.text.toList.getLast? = some '/' then ⟨p.text ++ name⟩
  else ⟨p.text ++ "/" ++ name⟩

/-- The path of another name beside a path. -/
def sibling (p : Path) (name : String) : Path := (p.parent?.getD ⟨""⟩).join name

end Path

end FleetConfig
