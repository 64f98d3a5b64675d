import FleetConfig.Data.Basic
import FleetConfig.Number.Digits

/-!
# Structured data as JSON

Lists and records have a line for each item, indented by two spaces.

## Main definitions

* `Data.Json.print` — data as JSON.
-/

namespace FleetConfig.Data.Json

/-! ### Texts -/

/-- A character in a written text. -/
def escaped (c : Char) : List Char :=
  if c = '"' then ['\\', '"']
  else if c = '\\' then ['\\', '\\']
  else if c = '\x08' then ['\\', 'b']
  else if c = '\t' then ['\\', 't']
  else if c = '\n' then ['\\', 'n']
  else if c = '\x0c' then ['\\', 'f']
  else if c = '\r' then ['\\', 'r']
  else if c.toNat < 0x20 then
    ['\\', 'u', '0', '0', Number.lowerDigit (c.toNat / 16), Number.lowerDigit (c.toNat % 16)]
  else [c]

/-- A written text. -/
def quoted (s : String) : List Char := '"' :: s.toList.flatMap escaped ++ ['"']

/-! ### Data -/

/-- A line break with the indentation of a level. -/
def newline (level : Nat) : List Char := '\n' :: List.replicate (2 * level) ' '

mutual

/-- Written data; lines after the first stand at the level given. -/
def written (level : Nat) : Data → List Char
  | null => "null".toList
  | switch true => "true".toList
  | switch false => "false".toList
  | number n => (toString n).toList
  | text s => quoted s
  | list [] => ['[', ']']
  | list (x :: xs) =>
    '[' :: newline (level + 1) ++ written (level + 1) x ++ writtenItems (level + 1) xs ++
      newline level ++ [']']
  | record [] => ['{', '}']
  | record ((name, x) :: fs) =>
    '{' :: newline (level + 1) ++ quoted name ++ [':', ' '] ++ written (level + 1) x ++
      writtenFields (level + 1) fs ++ newline level ++ ['}']

/-- The items of a list after the first. -/
def writtenItems (level : Nat) : List Data → List Char
  | [] => []
  | x :: xs => ',' :: newline level ++ written level x ++ writtenItems level xs

/-- The fields of a record after the first. -/
def writtenFields (level : Nat) : List (String × Data) → List Char
  | [] => []
  | (name, x) :: fs =>
    ',' :: newline level ++ quoted name ++ [':', ' '] ++ written level x ++ writtenFields level fs

end

/-- Data as JSON. -/
def print (d : Data) : String := String.ofList (written 0 d)

end FleetConfig.Data.Json
