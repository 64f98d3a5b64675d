import FleetConfig.Number.Decimal
import FleetConfig.Number.Digits
import FleetConfig.Toml.Moment

/-!
# Numbers

Numbers may have underscores between digits. Whole numbers are decimal, hexadecimal, octal or binary
and fit 64 bits with a sign; a number with a fraction or an exponent must not be too large for a
double.

## Main definitions

* `Toml.integer?`, `Toml.float?` — numbers in front.
* `Toml.number?` — a number or a moment in front.
-/

namespace FleetConfig.Toml

/-! ### Digits -/

/-- Digits in front that may have one underscore before each. An underscore without a digit after it
is wrong. -/
def moreDigits? (isDigit : Char → Bool) : List Char → Option (List Char × List Char)
  | [] => some ([], [])
  | ['_'] => none
  | '_' :: d :: cs =>
    if isDigit d then (moreDigits? isDigit cs).map fun p => (d :: p.1, p.2) else none
  | c :: cs =>
    if isDigit c then (moreDigits? isDigit cs).map fun p => (c :: p.1, p.2) else some ([], c :: cs)

/-- A digit in front, and more digits after it. -/
def digits? (isDigit : Char → Bool) : List Char → Option (List Char × List Char)
  | [] => none
  | c :: cs =>
    if isDigit c then (moreDigits? isDigit cs).map fun p => (c :: p.1, p.2) else none

/-- A sign in front, if there is one. The flag tells a minus. -/
def signAndRest : List Char → Bool × List Char
  | '+' :: cs => (false, cs)
  | '-' :: cs => (true, cs)
  | cs => (false, cs)

/-- Decimal digits in front, of which the first is no zero unless it is the only one. -/
def decimal? : List Char → Option (List Char × List Char)
  | '0' :: cs => some (['0'], cs)
  | cs => digits? Char.isDigit cs

/-! ### Whole numbers -/

/-- A whole number, if it fits 64 bits with a sign. -/
def inRange? (n : Int) : Option Int :=
  if -9223372036854775808 ≤ n && n ≤ 9223372036854775807 then some n else none

/-- A number in another base than ten, behind the mark of its base. -/
def based? (base : Nat) (cs : List Char) : Option (Int × List Char) := do
  let (ds, rest) ← digits? (Number.isDigitIn base) cs
  let n ← inRange? (Number.ofDigits base ds)
  some (n, rest)

/-- A whole number in front. -/
def integer? (cs : List Char) : Option (Int × List Char) :=
  match cs with
  | '0' :: 'x' :: rest => based? 16 rest
  | '0' :: 'o' :: rest => based? 8 rest
  | '0' :: 'b' :: rest => based? 2 rest
  | _ => do
    let (negative, rest) := signAndRest cs
    let (ds, rest) ← decimal? rest
    let n ← inRange? (if negative then -(Number.ofDigits 10 ds : Int) else Number.ofDigits 10 ds)
    some (n, rest)

/-! ### Other numbers -/

/-- A fraction in front, if there is one. -/
def fractionDigits? : List Char → Option (List Char × List Char)
  | '.' :: cs => digits? Char.isDigit cs
  | cs => some ([], cs)

/-- An exponent in front, if there is one. -/
def exponent? : List Char → Option (Int × List Char)
  | c :: cs =>
    if c = 'e' || c = 'E' then do
      let (negative, rest) := signAndRest cs
      let (ds, rest) ← digits? Char.isDigit rest
      some (if negative then -(Number.ofDigits 10 ds : Int) else Number.ofDigits 10 ds, rest)
    else some (0, c :: cs)
  | [] => some (0, [])

/-- A number with a fraction or an exponent in front. -/
def decimalFloat? (cs : List Char) : Option (Unit × List Char) := do
  let (negative, rest) := signAndRest cs
  let (whole, rest) ← decimal? rest
  let (fraction, rest') ← fractionDigits? rest
  let (exponent, rest') ← exponent? rest'
  let value : Number.Decimal :=
    ⟨Number.ofDigits 10 (whole ++ fraction), exponent - fraction.length⟩
  if rest'.length = rest.length then none
  else if !negative && !value.isFinite then none
  else some ((), rest')

/-- Infinity or not a number in front, with an optional sign. -/
def specialFloat? (cs : List Char) : Option (Unit × List Char) :=
  match (signAndRest cs).2 with
  | 'i' :: 'n' :: 'f' :: rest => some ((), rest)
  | 'n' :: 'a' :: 'n' :: rest => some ((), rest)
  | _ => none

/-- The text of a number that is not whole in front. -/
def float? (cs : List Char) : Option (String × List Char) :=
  ((decimalFloat? cs).or (specialFloat? cs)).map fun p =>
    (String.ofList (cs.take (cs.length - p.2.length)), p.2)

/-! ### Numbers and moments -/

/-- A number or a moment in front. -/
def number? (cs : List Char) : Option (Scalar × List Char) :=
  ((moment? cs).map fun p => (Scalar.moment p.1, p.2)).or <|
    ((float? cs).map fun p => (Scalar.float p.1, p.2)).or <|
      (integer? cs).map fun p => (Scalar.integer p.1, p.2)

end FleetConfig.Toml
