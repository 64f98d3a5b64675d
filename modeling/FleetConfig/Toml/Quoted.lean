import FleetConfig.Number.Digits
import FleetConfig.Toml.Lexical
import FleetConfig.Toml.Value

/-!
# Writing texts and keys

A text is written in the plainest style that can hold it: in double quotes without escapes, in
single quotes, in double quotes on several lines, in single quotes on several lines, and only then
with escapes. A key is written without quotes if it can be.

## Main definitions

* `Toml.Style`, `Toml.styleOf` — the styles of texts, and which one a text gets.
* `Toml.quoted` — a written text.
* `Toml.quotedKey` — a written key.
-/

namespace FleetConfig.Toml

/-! ### What a text holds -/

/-- Holds of control characters that have to be escaped everywhere. -/
def needsEscape (c : Char) : Bool :=
  c != '\t' && c != '\n' && (c.toNat < 0x20 || c.toNat == 0x7F)

/-- The length of the longest run of a character, after a run of length `n`. -/
def longestRun (q : Char) : List Char → Nat → Nat
  | [], n => n
  | c :: cs, n => if c = q then longestRun q cs (n + 1) else max n (longestRun q cs 0)

/-! ### Styles -/

/-- The ways to write a text. -/
inductive Style where
  | basic | literal | longBasic | longLiteral
deriving DecidableEq, Repr

/-- The style of a text. -/
def styleOf (cs : List Char) : Style :=
  let control := cs.any needsEscape
  let backslash := cs.contains '\\'
  let lines := cs.contains '\n'
  let double := longestRun '"' cs 0
  let single := longestRun '\'' cs 0
  if !control && !backslash && double = 0 && !lines then .basic
  else if !control && single = 0 && !lines then .literal
  else if !control && !backslash && double ≤ 2 then .longBasic
  else if !control && single ≤ 2 then .longLiteral
  else if lines then .longBasic
  else .basic

/-! ### Escapes -/

/-- The escape of a control character by its number. -/
def numericEscape (c : Char) : List Char :=
  ['\\', 'u', '0', '0', Number.upperDigit (c.toNat / 16), Number.upperDigit (c.toNat % 16)]

/-- A character in double quotes, where line feeds may stand for themselves. -/
def escaped (keepLines : Bool) (c : Char) : List Char :=
  if c = '\x08' then ['\\', 'b']
  else if c = '\t' then ['\\', 't']
  else if c = '\n' then if keepLines then ['\n'] else ['\\', 'n']
  else if c = '\x0c' then ['\\', 'f']
  else if c = '\r' then ['\\', 'r']
  else if c = '\\' then ['\\', '\\']
  else if needsEscape c then numericEscape c
  else [c]

/-- A text in double quotes, without the quotes. Of `room + 1` double quotes in a row the last one
is escaped; `run` counts those that stand just before. -/
def escapedBody (keepLines : Bool) (room : Nat) : List Char → Nat → List Char
  | [], _ => []
  | c :: cs, run =>
    if c = '"' then
      if run < room then '"' :: escapedBody keepLines room cs (run + 1)
      else '\\' :: '"' :: escapedBody keepLines room cs 0
    else escaped keepLines c ++ escapedBody keepLines room cs 0

/-! ### Texts and keys -/

/-- Three of a quote. -/
def tripled (q : Char) : List Char := [q, q, q]

/-- A text between three quotes. A line feed after the opening quotes does not count, and is put
there if the text has several lines. -/
def long (q : Char) (cs body : List Char) : List Char :=
  tripled q ++ (if cs.contains '\n' then ['\n'] else []) ++ body ++ tripled q

/-- A text in a style. -/
def written (style : Style) (cs : List Char) : List Char :=
  match style with
  | .basic => '"' :: escapedBody false 0 cs 0 ++ ['"']
  | .literal => '\'' :: cs ++ ['\'']
  | .longBasic => long '"' cs (escapedBody true 2 cs 0)
  | .longLiteral => long '\'' cs cs

/-- A written text. -/
def quoted (s : String) : List Char := written (styleOf s.toList) s.toList

/-- The style of a key in quotes, which stands on one line. -/
def keyStyleOf (cs : List Char) : Style :=
  if cs.any (fun c => needsEscape c || c == '\n') then .basic
  else if !cs.contains '\\' && !cs.contains '"' then .basic
  else if !cs.contains '\'' then .literal
  else .basic

/-- A written key. -/
def quotedKey (s : String) : List Char :=
  let cs := s.toList
  if !cs.isEmpty && cs.all isBareChar then cs else written (keyStyleOf cs) cs

end FleetConfig.Toml
