import FleetConfig.Text.Blank
import FleetConfig.Text.Split

/-!
# Argument lists of servers

A server's arguments are a list of tokens. A token that starts with two dashes and goes on is a
*long flag*; its name ends before the first equals sign. In the canonical form a long flag and its
value are one token, so that lists can be merged and cut by the names of flags.

## Main definitions

* `Flag.name?` — the name of the long flag in a token.
* `Flag.normalize` — the canonical form of a token list.
* `Flag.merge`, `Flag.upsert`, `Flag.remove` — set operations on token lists.
-/

namespace FleetConfig.Flag

/-! ### Tokens -/

/-- The name of the long flag in a token, without a value. -/
def name? (token : String) : Option String :=
  match token.toList with
  | '-' :: '-' :: c :: cs =>
    some (String.ofList (('-' :: '-' :: c :: cs).takeWhile (· != '=')))
  | _ => none

/-- Holds of a token that starts with a dash. -/
def startsWithDash (token : String) : Bool := token.toList.head? == some '-'

/-- Holds of a long flag without a value that may take the next token as its value. -/
def takesValue (switches : List String) (token : String) : Bool :=
  (name? token).isSome && !token.toList.contains '=' && !switches.contains token

/-- Holds of a token that can be the value of the flag before it. -/
def isValue (token : String) : Bool := token != "" && !startsWithDash token

/-! ### Canonical form -/

/-- Joins each long flag with the value after it and drops empty tokens; the tokens are trimmed
already. `switches` are the long flags that take no value. -/
def joinValues (switches : List String) : List String → List String
  | [] => []
  | [token] => if token = "" then [] else [token]
  | token :: next :: rest =>
    if token = "" then joinValues switches (next :: rest)
    else if takesValue switches token && isValue next then
      (token ++ "=" ++ next) :: joinValues switches rest
    else token :: joinValues switches (next :: rest)

/-- Keeps the first of equal tokens. -/
def dedup : List String → List String
  | [] => []
  | t :: ts => t :: (dedup ts).filter (· != t)

/-- The canonical form of a token list. -/
def normalize (switches tokens : List String) : List String :=
  dedup (joinValues switches (tokens.map Text.trim))

/-! ### Set operations -/

/-- Appends the incoming tokens that are not there yet, each once. -/
def merge (existing incoming : List String) : List String :=
  incoming.foldl (fun acc t => if acc.contains t then acc else acc ++ [t]) existing

/-- Removes all that the given tokens name: a long flag stands for all its variants, any other
token for itself. -/
def remove (list names : List String) : List String :=
  let names := names.map Text.trim
  let flags := names.filterMap name?
  list.filter fun t =>
    !((name? t).any fun n => flags.contains n) && !names.contains t

/-- The incoming variants of each flag in the slot of its first existing variant; `placed` names
the flags whose slot has passed. -/
def replaceFlags (incoming placed : List String) : List String → List String
  | [] => []
  | token :: rest =>
    match name? token with
    | none => token :: replaceFlags incoming placed rest
    | some name =>
      let variants := incoming.filter fun t => name? t == some name
      if variants.isEmpty then token :: replaceFlags incoming placed rest
      else if placed.contains name then replaceFlags incoming placed rest
      else variants ++ replaceFlags incoming (name :: placed) rest

/-- Sets the incoming tokens in a list: a long flag replaces all its existing variants in the slot
of the first one, and what is new follows at the end. -/
def upsert (existing incoming : List String) : List String :=
  merge (dedup (replaceFlags incoming [] existing)) incoming

end FleetConfig.Flag
