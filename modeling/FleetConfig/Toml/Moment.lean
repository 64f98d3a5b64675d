import FleetConfig.Toml.Step

/-!
# Dates and times

A moment is a date, a time of day, or both with an optional offset. In its canonical form a `T`
stands between date and time, and the fraction of a second has at most nine digits and none in vain.

## Main definitions

* `Toml.moment?` — the canonical form of a moment in front.
-/

namespace FleetConfig.Toml

/-! ### Fields -/

/-- A number of exactly so many digits in front. -/
def fixedDigits? (count : Nat) (cs : List Char) : Option (Nat × List Char) :=
  let ds := cs.take count
  if ds.length = count && ds.all Char.isDigit then
    some (ds.foldl (fun n c => 10 * n + (c.toNat - 48)) 0, cs.drop count)
  else none

/-- A number of two digits between bounds in front. -/
def field? (low high : Nat) (cs : List Char) : Option (Nat × List Char) := do
  let (n, rest) ← fixedDigits? 2 cs
  if low ≤ n && n ≤ high then some (n, rest) else none

/-- What follows a character in front. -/
def after? (c : Char) : List Char → Option (List Char)
  | d :: cs => if c = d then some cs else none
  | [] => none

/-- A number with zeros in front of it. -/
def padded (width n : Nat) : String :=
  let ds := toString n
  String.ofList (List.replicate (width - ds.length) '0') ++ ds

/-- The number of days in a month. -/
def daysIn (year month : Nat) : Nat :=
  if month = 2 then
    if year % 4 = 0 && (year % 100 != 0 || year % 400 = 0) then 29 else 28
  else if [4, 6, 9, 11].contains month then 30
  else 31

/-! ### Parts -/

/-- A date in front. -/
def date? (cs : List Char) : Option (String × List Char) := do
  let (year, cs) ← fixedDigits? 4 cs
  let cs ← after? '-' cs
  let (month, cs) ← field? 1 12 cs
  let cs ← after? '-' cs
  let (day, cs) ← field? 1 (daysIn year month) cs
  some (padded 4 year ++ "-" ++ padded 2 month ++ "-" ++ padded 2 day, cs)

/-- The digits of a fraction that count. -/
def fractionText (ds : List Char) : String :=
  match ((ds.take 9).reverse.dropWhile (· == '0')).reverse with
  | [] => ""
  | kept => "." ++ String.ofList kept

/-- A fraction of a second in front, if there is one. -/
def fraction? : List Char → Option (String × List Char)
  | '.' :: cs =>
    let ds := cs.takeWhile Char.isDigit
    if ds.isEmpty then none else some (fractionText ds, cs.dropWhile Char.isDigit)
  | cs => some ("", cs)

/-- A time of day in front. -/
def time? (cs : List Char) : Option (String × List Char) := do
  let (hour, cs) ← field? 0 23 cs
  let cs ← after? ':' cs
  let (minute, cs) ← field? 0 59 cs
  let cs ← after? ':' cs
  let (second, cs) ← field? 0 60 cs
  let (fraction, cs) ← fraction? cs
  some (padded 2 hour ++ ":" ++ padded 2 minute ++ ":" ++ padded 2 second ++ fraction, cs)

/-- An offset in hours and minutes in front. -/
def offsetFields? (sign : String) (cs : List Char) : Option (String × List Char) := do
  let (hours, cs) ← field? 0 23 cs
  let cs ← after? ':' cs
  let (minutes, cs) ← field? 0 59 cs
  let sign := if hours = 0 && minutes = 0 then "+" else sign
  some (sign ++ padded 2 hours ++ ":" ++ padded 2 minutes, cs)

/-- An offset in front, if there is one. -/
def offset? : List Char → Option (String × List Char)
  | 'Z' :: cs => some ("Z", cs)
  | 'z' :: cs => some ("Z", cs)
  | '+' :: cs => offsetFields? "+" cs
  | '-' :: cs => offsetFields? "-" cs
  | cs => some ("", cs)

/-! ### Moments -/

/-- Holds of the characters between a date and a time. -/
def isTimeMark (c : Char) : Bool := c == 'T' || c == 't' || c == ' '

/-- A date in front, with the time after it, if there is one. -/
def dateTime? (cs : List Char) : Option (String × List Char) := do
  let (date, cs) ← date? cs
  match cs with
  | mark :: rest =>
    if isTimeMark mark && (field? 0 23 rest).isSome then
      let (time, rest) ← time? rest
      let (offset, rest) ← offset? rest
      some (date ++ "T" ++ time ++ offset, rest)
    else some (date, cs)
  | [] => some (date, [])

/-- The canonical form of a moment in front. -/
def moment? (cs : List Char) : Option (String × List Char) := (dateTime? cs).or (time? cs)

end FleetConfig.Toml
