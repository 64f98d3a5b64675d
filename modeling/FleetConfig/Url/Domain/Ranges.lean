/-!
# Character tables

Properties of characters are tables of code points, in ascending order. A table only tells apart the
characters that stand in folded domains; a range may run over others.

## Main definitions

* `Url.Domain.inRanges` — membership in a table of ranges, first and last included.
* `Url.Domain.rowFor?` — the row of a table that a code point belongs to.
-/

namespace FleetConfig.Url.Domain

/-- Decides whether one of the ranges holds a character. -/
def inRanges (ranges : List (Nat × Nat)) (c : Char) : Bool :=
  ranges.any fun r => r.1 ≤ c.toNat && c.toNat ≤ r.2

/-- The last row that starts at a code point or before it, and how far the code point is from its
start. -/
def rowFor? {α : Type} (rows : List (Nat × α)) (n : Nat) : Option (α × Nat) :=
  (rows.takeWhile fun r => r.1 ≤ n).getLast?.map fun r => (r.2, n - r.1)

end FleetConfig.Url.Domain
