import FleetConfig.Text.Split
import FleetConfig.Url.Domain.Composition
import FleetConfig.Url.Domain.Direction
import FleetConfig.Url.Domain.Exclusion
import FleetConfig.Url.Domain.Joining
import FleetConfig.Url.Domain.Punycode
import FleetConfig.Url.Domain.Spelling
import FleetConfig.Url.Percent

/-!
# Domains

A domain of a web address is percent-decoded and folded. Different spellings of a domain mean the
same: what a character is a spelling of takes its place, characters that vanish are left out, and
the rest is composed. Then the labels between the dots are checked one by one, where a label that
starts with `xn--` stands for the label that its rest encodes, and their directions all together.

## Main definitions

* `Url.Domain.fold?` — the folded form of a text.
* `Url.Domain.isFolded` — holds of the texts that folding leaves alone.
* `Url.Domain.isForbidden` — the ASCII characters that stand in no domain.
* `Url.Domain.meaning?` — the label that a folded label stands for.
* `Url.Domain.isLabel` — decides whether a label may stand in a domain.
* `Url.Domain.folded?` — the folded form of a text, if that is a domain.
-/

namespace FleetConfig.Url.Domain

/-! ### Folding -/

/-- What stands for a character in a folded domain, if it may stand in a domain. -/
def foldChar? (c : Char) : Option (List Char) :=
  if c.toNat < 128 then some [c.toLower]
  else if isExcluded c then none
  else if isIgnored c then some []
  else some ((spelling? c).getD [c])

/-- The folded form of a text, if all its characters may stand in a domain. -/
def fold? (cs : List Char) : Option (List Char) :=
  (cs.mapM foldChar?).map fun folded => composed folded.flatten

/-- Holds of the texts that folding leaves alone, character by character and as a whole. -/
def isFolded (cs : List Char) : Bool :=
  cs.all (fun c => foldChar? c == some [c]) && composed cs == cs

/-! ### Labels -/

/-- Holds of the ASCII characters that stand in no domain. -/
def isForbidden (c : Char) : Bool :=
  c.toNat ≤ 0x20 || c.toNat == 0x7F ||
    ['%', '#', '/', ':', '<', '>', '?', '@', '[', '\\', ']', '^', '|'].contains c

/-- The longest encoded form that is decoded. -/
def maxEncoded : Nat := 2000

/-- The longest label with characters beyond ASCII. -/
def maxLabel : Nat := 1000

/-- Holds of labels with ASCII characters alone. -/
def isAscii (label : List Char) : Bool := label.all fun c => c.toNat < 128

/-- The label that a folded label stands for. What is given in its encoded form has to be a folded
label with characters beyond ASCII. -/
def meaning? (label : List Char) : Option (List Char) :=
  match Text.afterStart? "xn--".toList label with
  | some encoded =>
    if maxEncoded < encoded.length then none
    else (Punycode.decode? encoded).filter fun decoded => !isAscii decoded && isFolded decoded
  | none => some label

/-- Decides whether a label may stand in a domain: no character is forbidden, the first one is no
mark, joiners stand where they may, and the label is not too long. -/
def isLabel (label : List Char) : Bool :=
  !label.any isForbidden && !label.head?.any isMark && joinersFit label &&
    (isAscii label || decide (label.length ≤ maxLabel))

/-! ### Domains -/

/-- The folded form of a domain, if it is one. -/
def folded? (text : List Char) : Option (List Char) := do
  let folded ← fold? (← decodeText? text)
  let labels ← (Text.pieces '.' folded).mapM meaning?
  if labels.all isLabel && directionsFit labels then some folded else none

end FleetConfig.Url.Domain
