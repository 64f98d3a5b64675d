import FleetConfig.Toml.Node

/-!
# Steps of reading

A reader looks at the characters in front. It finds a piece and leaves the rest, or the piece is not
there, so that another reader may look, or it has seen enough to know that the text is wrong.

## Main definitions

* `Toml.Step` — the three outcomes of a reader.
* `Toml.Step.need` — a piece that has to be there.
-/

namespace FleetConfig.Toml

/-- What a reader makes of the characters in front. -/
inductive Step (α : Type) where
  | found (value : α) (rest : List Char)
  | absent
  | wrong (fault : Fault)
deriving Inhabited

namespace Step

variable {α β : Type}

/-- Changes what was found. -/
def map (f : α → β) : Step α → Step β
  | found a rest => found (f a) rest
  | absent => absent
  | wrong fault => wrong fault

/-- Goes on behind what was found. -/
def andThen (s : Step α) (next : α → List Char → Step β) : Step β :=
  match s with
  | found a rest => next a rest
  | absent => absent
  | wrong fault => wrong fault

/-- The text `cs` is wrong if the piece is not at its front. -/
def need (cs : List Char) : Step α → Step α
  | absent => wrong ⟨cs.length⟩
  | s => s

/-- Whatever is wrong with a piece, it counts as absent. -/
def orAbsent : Step α → Step α
  | wrong _ => absent
  | s => s

/-- The outcome of a reader that finds something or nothing. -/
def ofOption : Option (α × List Char) → Step α
  | some (a, rest) => found a rest
  | none => absent

end Step

end FleetConfig.Toml
