import FleetConfig.Number.Decimal
import FleetConfig.Number.Digits

/-!
# Words with a meaning of their own

In YAML a word without quotes can be a number, a truth value or nothing. A text that looks like one
of these is written in quotes.

## Main definitions

* `Data.Plain.isNumber` — whole numbers and fractions.
* `Data.Plain.hasMeaning` — all words that would not be read as texts.
-/

namespace FleetConfig.Data.Plain

/-! ### Whole numbers -/

/-- Holds of digits, after one of the three signs of a base or after none, with at most the value
given. -/
def isNatural (most : Nat) (cs : List Char) : Bool :=
  match cs with
  | '0' :: 'x' :: ds => (Number.natural? 16 ds).any (· ≤ most)
  | '0' :: 'o' :: ds => (Number.natural? 8 ds).any (· ≤ most)
  | '0' :: 'b' :: ds => (Number.natural? 2 ds).any (· ≤ most)
  | ds => (Number.natural? 10 ds).any (· ≤ most)

/-- Drops one sign. -/
def dropSign : List Char → List Char
  | '+' :: cs => cs
  | '-' :: cs => cs
  | cs => cs

/-- Holds of two or more digits of which the first is zero: no number. -/
def isZeroLed (cs : List Char) : Bool :=
  match dropSign cs with
  | '0' :: c :: ds => (c :: ds).all Char.isDigit
  | _ => false

/-- Holds of whole numbers that fit 128 bits. -/
def isInteger (cs : List Char) : Bool :=
  !isZeroLed cs &&
    match cs with
    | '-' :: ds => isNatural (Nat.pow 2 127) ds
    | '+' :: ds => isNatural (Nat.pow 2 128 - 1) ds
    | ds => isNatural (Nat.pow 2 128 - 1) ds

/-! ### Fractions -/

/-- The exponent after its letter. -/
def exponent? : List Char → Option Int
  | '-' :: ds => (Number.natural? 10 ds).map fun n => -(n : Int)
  | '+' :: ds => (Number.natural? 10 ds).map Int.ofNat
  | ds => (Number.natural? 10 ds).map Int.ofNat

/-- A decimal number without a sign: digits with or without a point, and perhaps an exponent. -/
def decimal? (cs : List Char) : Option Number.Decimal := do
  let whole := cs.takeWhile Char.isDigit
  let rest := cs.dropWhile Char.isDigit
  let (fraction, rest) := match rest with
    | '.' :: ds => (ds.takeWhile Char.isDigit, ds.dropWhile Char.isDigit)
    | _ => ([], rest)
  let mantissa ← Number.natural? 10 (whole ++ fraction)
  let shift := (fraction.length : Int)
  match rest with
  | [] => some ⟨mantissa, -shift⟩
  | c :: es => if c = 'e' ∨ c = 'E' then (exponent? es).map fun e => ⟨mantissa, e - shift⟩ else none

/-- Holds of fractions, and of the words for what is no finite one. -/
def isFraction (cs : List Char) : Bool :=
  let words := [".inf", ".Inf", ".INF", "+.inf", "+.Inf", "+.INF", "-.inf", "-.Inf", "-.INF",
    ".nan", ".NaN", ".NAN"]
  words.contains (String.ofList cs) || (decimal? (dropSign cs)).any Number.Decimal.isFinite

/-! ### Words -/

/-- Holds of all that is read as a number, or was in some edition of the format. -/
def isNumber (cs : List Char) : Bool := isInteger cs || isZeroLed cs || isFraction cs

/-- The words for nothing. -/
def nothingWords : List String := ["", "~", "null", "Null", "NULL"]

/-- The words for truth values. -/
def truthWords : List String := ["true", "True", "TRUE", "false", "False", "FALSE"]

/-- Holds of all words that would not be read as texts. -/
def hasMeaning (s : String) : Bool :=
  nothingWords.contains s || truthWords.contains s || isNumber s.toList

end FleetConfig.Data.Plain
