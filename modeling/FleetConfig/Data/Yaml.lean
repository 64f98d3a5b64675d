import FleetConfig.Data.Basic
import FleetConfig.Data.Json
import FleetConfig.Data.Plain

/-!
# Structured data as YAML

Lists and records are written as blocks. A text is written without quotes if it can be, in single
quotes if it would be read as something else, as a block of its own if it has several lines, and in
double quotes if only escapes can hold it.

## Main definitions

* `Data.Yaml.Style`, `Data.Yaml.styleOf` — the styles of texts, and which one a text gets.
* `Data.Yaml.print` — data as YAML.
-/

namespace FleetConfig.Data.Yaml

/-! ### Characters -/

/-- Holds of the characters that stand for themselves outside double quotes. -/
def isPrintable (c : Char) : Bool :=
  let n := c.toNat
  n == 0xA || (0x20 ≤ n && n ≤ 0x7E) || (0xA0 ≤ n && n ≤ 0xFFFD && n != 0xFEFF) || 0x10000 ≤ n

/-- Holds of line breaks. -/
def isBreak (c : Char) : Bool :=
  c == '\n' || c == '\r' || c == '\u0085' || c == '\u2028' || c == '\u2029'

/-- Holds of what can stand beside an indicator: a blank, a line break, or no character. -/
def isGap : Option Char → Bool
  | none => true
  | some c => c == ' ' || c == '\t' || c == '\x00' || isBreak c

/-- Holds of the characters that cannot start a text without quotes. -/
def isLeadIndicator (c : Char) : Bool := "#,[]\x7b\x7d&*!|>'\"%@\x60".toList.contains c

/-! ### What a text holds -/

/-- Decides whether a character stands for more than itself between two others. -/
def isIndicator (before : Option Char) (c : Char) (after : Option Char) : Bool :=
  match before with
  | none => isLeadIndicator c || ((c == '?' || c == ':' || c == '-') && isGap after)
  | some b => (c == ':' && isGap after) || (c == '#' && isGap (some b))

/-- Decides whether some character after `before` stands for more than itself. -/
def hasIndicator (before : Option Char) : List Char → Bool
  | [] => false
  | c :: cs => isIndicator before c cs.head? || hasIndicator (some c) cs

/-- Holds of texts that would be taken for the mark between two documents. -/
def startsLikeMark (cs : List Char) : Bool :=
  Text.startsWith ['-', '-', '-'] cs || Text.startsWith ['.', '.', '.'] cs

/-- Decides whether two characters of the given classes follow each other. -/
def hasPair (p q : Char → Bool) : List Char → Bool
  | c :: d :: cs => (p c && q d) || hasPair p q (d :: cs)
  | _ => false

/-- Holds of a space. -/
def isSpace (c : Char) : Bool := c == ' '

/-- Holds of a space or a line break. -/
def isEdge (c : Char) : Bool := isSpace c || isBreak c

/-! ### Styles -/

/-- The ways to write a text. -/
inductive Style where
  | plain | single | double | block
deriving DecidableEq, Repr

/-- Decides whether a text has to be escaped. -/
def needsEscape (cs : List Char) : Bool := !cs.all isPrintable || hasPair isSpace isBreak cs

/-- Decides whether a text can stand without quotes, as far as its characters go. -/
def canBePlain (cs : List Char) : Bool :=
  !cs.head?.any isEdge && !cs.getLast?.any isEdge && !cs.any isBreak && !needsEscape cs &&
    !hasIndicator none cs && !startsLikeMark cs

/-- Decides whether a text can stand in single quotes. -/
def canBeSingle (cs : List Char) : Bool := !needsEscape cs && !hasPair isBreak isSpace cs

/-- Decides whether a text can stand as a block. -/
def canBeBlock (cs : List Char) : Bool := !needsEscape cs && !cs.getLast?.any isSpace

/-- The style of a text. -/
def styleOf (s : String) : Style :=
  let cs := s.toList
  if cs.contains '\n' then if canBeBlock cs then .block else .double
  else if canBePlain cs && !Plain.hasMeaning s then .plain
  else if canBeSingle cs then .single
  else .double

/-! ### Texts -/

/-- The last digits of a number in base 16. -/
def hexDigits (n : Nat) : Nat → List Char
  | 0 => []
  | width + 1 => hexDigits (n / 16) width ++ [Number.upperDigit (n % 16)]

/-- The letters of escapes. -/
def escapeLetters : List (Char × Char) :=
  [('\x00', '0'), ('\x07', 'a'), ('\x08', 'b'), ('\t', 't'), ('\n', 'n'), ('\x0b', 'v'),
    ('\x0c', 'f'), ('\r', 'r'), ('\x1b', 'e'), ('"', '"'), ('\\', '\\'), ('\u0085', 'N'),
    ('\u2028', 'L'), ('\u2029', 'P')]

/-- A character in double quotes. -/
def escaped (c : Char) : List Char :=
  match escapeLetters.lookup c with
  | some letter => ['\\', letter]
  | none =>
    if isPrintable c then [c]
    else if c.toNat ≤ 0xFF then '\\' :: 'x' :: hexDigits c.toNat 2
    else if c.toNat ≤ 0xFFFF then '\\' :: 'u' :: hexDigits c.toNat 4
    else '\\' :: 'U' :: hexDigits c.toNat 8

/-- Spaces. -/
def spaces (n : Nat) : List Char := List.replicate n ' '

/-- The lines of a block; a line that holds something is indented. -/
def blockLines (indent : Nat) (atStart : Bool) : List Char → List Char
  | [] => []
  | c :: cs =>
    if isBreak c then c :: blockLines indent true cs
    else (if atStart then spaces indent else []) ++ c :: blockLines indent false cs

/-- What the head of a block tells: its indentation, if its first line starts with a space or is
empty, and what becomes of the line breaks at its end. -/
def blockHead (cs : List Char) : List Char :=
  (if cs.head?.any isEdge then ['2'] else []) ++
    match cs.reverse with
    | [] => ['-']
    | [c] => if isBreak c then ['+'] else ['-']
    | c :: d :: _ => if !isBreak c then ['-'] else if isBreak d then ['+'] else []

/-- A text as a block. -/
def blockText (indent : Nat) (cs : List Char) : List Char :=
  '|' :: blockHead cs ++ '\n' :: blockLines indent true cs

/-- A text in single quotes, without the quotes. What follows a line break is indented, even if it
is only the closing quote. -/
def singleBody (indent : Nat) (atStart : Bool) : List Char → List Char
  | [] => if atStart then spaces indent else []
  | c :: cs =>
    if isBreak c then c :: singleBody indent true cs
    else
      (if atStart then spaces indent else []) ++ (if c = '\'' then ['\'', '\''] else [c]) ++
        singleBody indent false cs

/-- A text in a style; further lines stand at the indentation given. -/
def inStyle (indent : Nat) (cs : List Char) : Style → List Char
  | .plain => cs
  | .single => '\'' :: singleBody indent false cs ++ ['\'']
  | .double => '"' :: cs.flatMap escaped ++ ['"']
  | .block => blockText indent cs

/-- A written text; further lines stand at the indentation given. -/
def quoted (indent : Nat) (s : String) : List Char := inStyle indent s.toList (styleOf s)

/-! ### Data -/

/-- The longest name that stands before its colon on one line, in bytes. -/
def maxName : Nat := 128

/-- Decides whether a name stands before its colon on one line. -/
def isShortName (name : String) : Bool :=
  !name.toList.any isBreak && decide (name.utf8ByteSize ≤ maxName)

/-- Ends a line that a block has not ended already. -/
def line (cs : List Char) : List Char := if cs.getLast?.any isBreak then cs else cs ++ ['\n']

/-- The name of a field with the colon after it. -/
def writtenName (indent : Nat) (name : String) : List Char :=
  if isShortName name then quoted (indent + 2) name ++ [':']
  else line ('?' :: ' ' :: quoted (indent + 2) name) ++ spaces indent ++ [':']

/-- Data without parts; a text may have further lines. -/
def scalar? (indent : Nat) : Data → Option (List Char)
  | null => some "null".toList
  | switch true => some "true".toList
  | switch false => some "false".toList
  | number n => some (toString n).toList
  | text s => some (quoted (indent + 2) s)
  | list [] => some ['[', ']']
  | record [] => some ['{', '}']
  | _ => none

mutual

/-- The lines of data at an indentation, which stands before the first line already. -/
def written (indent : Nat) : Data → List Char
  | list (x :: xs) => writtenItem indent x ++ writtenItems indent xs
  | record ((name, x) :: fs) => writtenField indent name x ++ writtenFields indent fs
  | d => line ((scalar? indent d).getD [])

/-- An item of a list. -/
def writtenItem (indent : Nat) (d : Data) : List Char := '-' :: ' ' ::
  match d with
  | list (x :: xs) => writtenItem (indent + 2) x ++ writtenItems (indent + 2) xs
  | record ((name, x) :: fs) => writtenField (indent + 2) name x ++ writtenFields (indent + 2) fs
  | d => line ((scalar? indent d).getD [])

/-- The items of a list after the first. -/
def writtenItems (indent : Nat) : List Data → List Char
  | [] => []
  | x :: xs => spaces indent ++ writtenItem indent x ++ writtenItems indent xs

/-- A field of a record. A list starts on a line of its own, at the indentation of the record. -/
def writtenField (indent : Nat) (name : String) (d : Data) : List Char :=
  writtenName indent name ++
  match d with
  | list (x :: xs) => '\n' :: spaces indent ++ writtenItem indent x ++ writtenItems indent xs
  | record ((name, x) :: fs) =>
    '\n' :: spaces (indent + 2) ++ writtenField (indent + 2) name x ++
      writtenFields (indent + 2) fs
  | d => ' ' :: line ((scalar? indent d).getD [])

/-- The fields of a record after the first. -/
def writtenFields (indent : Nat) : List (String × Data) → List Char
  | [] => []
  | (name, x) :: fs => spaces indent ++ writtenField indent name x ++ writtenFields indent fs

end

/-- Data as YAML. -/
def print (d : Data) : String := String.ofList (written 0 d)

end FleetConfig.Data.Yaml
