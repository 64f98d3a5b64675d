import FleetConfig.ConfigError
import FleetConfig.Duration.Parser
import FleetConfig.Setting.Value

/-!
# Kinds of settings

Each key of the daemon holds settings of one kind. Input for a key is read by the key's kind; blank
input clears the key.

## Main definitions

* `Setting.Kind` — texts, switches, durations and lists.
* `Setting.Kind.parse` — what input of a kind denotes.
* `Setting.parseList` — the items of a list written with commas.
-/

namespace FleetConfig.Setting

/-- The kinds of single settings. -/
inductive Kind where
  | text | switch | duration | list
deriving DecidableEq, Repr

namespace Kind

/-- The short name of a kind. -/
def name : Kind → String
  | text => "string"
  | switch => "bool"
  | duration => "duration"
  | list => "list"

/-- The name of a kind in descriptions of keys. -/
def longName : Kind → String
  | list => "string_list"
  | k => k.name

/-- All kinds. -/
def all : List Kind := [text, switch, duration, list]

/-- The kind of a short name. -/
def ofName? (s : String) : Option Kind := all.find? fun k => k.name == s

end Kind

/-- The kind of a single setting. -/
def Leaf.kind : Leaf → Kind
  | .text _ => .text
  | .switch _ => .switch
  | .duration _ => .duration
  | .list _ => .list

/-- The items of a list written with commas, trimmed, without the empty ones. -/
def parseList (s : String) : List String :=
  ((Text.split ',' s).map Text.trim).filter (· != "")

/-- The switch that a word denotes, in any case of its letters. -/
def parseSwitch? (s : String) : Option Bool :=
  match s.toLower with
  | "true" => some true
  | "false" => some false
  | _ => none

/-- Reads trimmed input that is not empty. -/
def Kind.parseTrimmed (key input : String) : Kind → Except ConfigError (Option Leaf)
  | .text => .ok (some (.text input))
  | .switch =>
    match parseSwitch? input with
    | some b => .ok (some (.switch b))
    | none => .error (.invalidValue key s!"expected 'true' or 'false', got '{input}'")
  | .duration =>
    match Duration.parse input with
    | .error fault => .error (.invalidValue key (fault.message input))
    | .ok d =>
      if d.isZero then
        .error (.invalidValue key s!"duration '{input}' must be greater than zero")
      else .ok (some (.duration d))
  | .list =>
    match parseList input with
    | [] => .ok none
    | items => .ok (some (.list items))

/-- What input for a key of this kind denotes; nothing, if it clears the key. -/
def Kind.parse (kind : Kind) (key input : String) : Except ConfigError (Option Leaf) :=
  let trimmed := Text.trim input
  if trimmed = "" then .ok none else kind.parseTrimmed key trimmed

end FleetConfig.Setting
