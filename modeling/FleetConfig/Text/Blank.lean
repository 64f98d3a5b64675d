/-!
# Blank characters and trimming

Text from people is trimmed before it is read: blanks at either end never count. A *blank* is a
character with the Unicode property `White_Space`.

## Main definitions

* `Text.isBlank` — membership in `White_Space`.
* `Text.trimList`, `Text.trim` — drop the blanks at both ends.
* `Text.Trimmed` — a text that trimming leaves alone.
-/

namespace FleetConfig.Text

/-! ### The property -/

/-- Decides the Unicode property `White_Space`. -/
def isBlank (c : Char) : Bool :=
  let n := c.toNat
  (0x9 ≤ n && n ≤ 0xD) || n == 0x20 || n == 0x85 || n == 0xA0 || n == 0x1680 ||
    (0x2000 ≤ n && n ≤ 0x200A) || n == 0x2028 || n == 0x2029 || n == 0x202F || n == 0x205F ||
    n == 0x3000

/-! ### Trimming -/

/-- Drops the blanks in front. -/
def trimStart (cs : List Char) : List Char := cs.dropWhile isBlank

/-- Drops the blanks behind. -/
def trimEnd (cs : List Char) : List Char := (cs.reverse.dropWhile isBlank).reverse

/-- Drops the blanks at both ends of a list of characters. -/
def trimList (cs : List Char) : List Char := trimEnd (trimStart cs)

/-- Drops the blanks at both ends. -/
def trim (s : String) : String := String.ofList (trimList s.toList)

/-- Holds of a text with nothing but blanks, the empty one included. -/
def isBlankText (s : String) : Bool := s.toList.all isBlank

/-- Holds of a text that neither starts nor ends with a blank. -/
def Trimmed (s : String) : Prop := trim s = s

instance (s : String) : Decidable (Trimmed s) := inferInstanceAs (Decidable (trim s = s))

end FleetConfig.Text
