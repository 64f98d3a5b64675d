import FleetConfig.Toml.Insert
import FleetConfig.Toml.Number
import FleetConfig.Toml.Text

/-!
# Values

A value is a text, a number, a moment, a truth value, an array in brackets or a table in braces.
Arrays may go over several lines; tables in braces may not. Arrays and tables nest up to a limit.

## Main definitions

* `Toml.dottedKey` — keys with dots between them.
* `Toml.arrayBody`, `Toml.inlineBody` — arrays and tables behind their opening brackets.
* `Toml.value` — a value within a limit of nesting.
-/

namespace FleetConfig.Toml

/-! ### Keys -/

/-- Holds of the characters of keys without quotes. -/
def isBareChar (c : Char) : Bool := c.isAlphanum || c == '_' || c == '-'

/-- A key without quotes in front. -/
def bareKey (cs : List Char) : Step (List Char) :=
  match cs.takeWhile isBareChar with
  | [] => .absent
  | name => .found name (cs.dropWhile isBareChar)

/-- A key in front, with blanks around it. -/
def simpleKey (cs : List Char) : Step Key :=
  let start := skipBlanks cs
  let name :=
    match start with
    | '"' :: _ => basicText start
    | '\'' :: _ => literalText start
    | _ => bareKey start
  name.andThen fun name rest => .found ⟨String.ofList name, start.length⟩ (skipBlanks rest)

/-- The keys after dots in front. A dot without a key after it is left. -/
def keysAfterDots (cs : List Char) : Step (List Key) :=
  match cs with
  | '.' :: rest =>
    match simpleKey rest with
    | .found k rest' =>
      if rest'.length ≤ rest.length then (keysAfterDots rest').map (k :: ·) else .found [k] rest'
    | .absent => .found [] cs
    | .wrong fault => .wrong fault
  | _ => .found [] cs
termination_by cs.length

/-- As many keys in a row are too many. -/
def keyLimit : Nat := 80

/-- A row of keys with dots between them in front: all but the last one, and the last one. -/
def dottedKey (cs : List Char) : Step (List Key × Key) :=
  (simpleKey cs).andThen fun k rest =>
    (keysAfterDots rest).andThen fun ks rest =>
      if keyLimit ≤ (k :: ks).length then .absent
      else .found ((k :: ks).dropLast, ks.getLastD k) rest

/-! ### Arrays -/

/-- A reader of values within an array or a table. -/
abbrev Reader := List Char → Step Node

/-- An item of an array with the trivia around it. There is no item where its trivia is wrong. -/
def arrayItem (value : Reader) (cs : List Char) : Step Node :=
  (trivia cs).orAbsent.andThen fun () start =>
    (value start).andThen fun node rest =>
      (trivia rest).orAbsent.map fun () => node

/-- The items after commas in front. A comma without an item after it is left. -/
def itemsAfterCommas (value : Reader) (cs : List Char) : Step (List Node) :=
  match cs with
  | ',' :: rest =>
    match arrayItem value rest with
    | .found node rest' =>
      if rest'.length ≤ rest.length then (itemsAfterCommas value rest').map (node :: ·)
      else .found [node] rest'
    | .absent => .found [] cs
    | .wrong fault => .wrong fault
  | _ => .found [] cs
termination_by cs.length

/-- Drops a comma in front, if there is one. -/
def skipComma : List Char → List Char
  | ',' :: cs => cs
  | cs => cs

/-- The items of an array, and what follows them and a comma. -/
def arrayItems (value : Reader) (cs : List Char) : Step (List Node) :=
  match arrayItem value cs with
  | .found node rest =>
    (itemsAfterCommas value rest).andThen fun nodes rest => .found (node :: nodes) (skipComma rest)
  | .absent => .found [] cs
  | .wrong fault => .wrong fault

/-- An array behind its opening bracket, which stands at `left`. -/
def arrayBody (value : Reader) (left : Nat) (cs : List Char) : Step Node :=
  (arrayItems value cs).andThen fun nodes rest =>
    (trivia rest).andThen fun () rest =>
      match rest with
      | ']' :: rest' => .found (.array nodes left) rest'
      | rest' => .wrong ⟨rest'.length⟩

/-! ### Tables in braces -/

/-- A key in front with its value; once the key is there, the rest has to follow. -/
def inlinePair (value : Reader) (cs : List Char) : Step (List Key × Key × Node) :=
  (dottedKey cs).andThen fun (path, key) rest =>
    match rest with
    | '=' :: rest =>
      let start := skipBlanks rest
      ((value start).need start).andThen fun node rest =>
        .found (path, key, node) (skipBlanks rest)
    | _ => .wrong ⟨rest.length⟩

/-- The pairs after commas in front. A comma without a pair after it is left. -/
def pairsAfterCommas (value : Reader) (cs : List Char) : Step (List (List Key × Key × Node)) :=
  match cs with
  | ',' :: rest =>
    match inlinePair value rest with
    | .found pair rest' =>
      if rest'.length ≤ rest.length then (pairsAfterCommas value rest').map (pair :: ·)
      else .found [pair] rest'
    | .absent => .found [] cs
    | .wrong fault => .wrong fault
  | _ => .found [] cs
termination_by cs.length

/-- The pairs of a table in braces. -/
def inlinePairs (value : Reader) (cs : List Char) : Step (List (List Key × Key × Node)) :=
  match inlinePair value cs with
  | .found pair rest => (pairsAfterCommas value rest).map (pair :: ·)
  | .absent => .found [] cs
  | .wrong fault => .wrong fault

/-- The entries that pairs make up. -/
def entriesOfPairs (pairs : List (List Key × Key × Node)) : Option (List (Key × Node)) :=
  pairs.foldlM (fun es p => insertDotted es p.1 p.2.1 p.2.2) []

/-- A table in braces behind its opening brace, which stands at `left`. -/
def inlineBody (value : Reader) (left : Nat) (cs : List Char) : Step Node :=
  (inlinePairs value cs).andThen fun pairs rest =>
    match entriesOfPairs pairs with
    | none => .wrong ⟨cs.length⟩
    | some es =>
      match skipBlanks rest with
      | '}' :: rest' => .found (.table .inline (some left) es) rest'
      | rest' => .wrong ⟨rest'.length⟩

/-! ### Values -/

/-- What follows `word` in front, with its meaning. -/
def word (name : List Char) (meaning : Scalar) (cs : List Char) : Step Scalar :=
  if name.isPrefixOf cs then .found meaning (cs.drop name.length) else .wrong ⟨cs.length⟩

/-- A value without parts in front. -/
def scalar (cs : List Char) : Step Scalar :=
  match cs with
  | [] => .absent
  | c :: _ =>
    if c = '"' || c = '\'' then (text cs).map fun s => .text (String.ofList s)
    else if c = 't' then word "true".toList (.boolean true) cs
    else if c = 'f' then word "false".toList (.boolean false) cs
    else .ofOption (number? cs)

/-- A value in front, whose arrays and tables nest at most `depth` times. -/
def value : Nat → Reader
  | 0, cs =>
    match cs with
    | '[' :: _ => .wrong ⟨cs.length⟩
    | '\x7b' :: _ => .wrong ⟨cs.length⟩
    | _ => (scalar cs).map (.scalar · cs.length)
  | depth + 1, cs =>
    match cs with
    | '[' :: rest => arrayBody (value depth) cs.length rest
    | '\x7b' :: rest => inlineBody (value depth) cs.length rest
    | _ => (scalar cs).map (.scalar · cs.length)

/-- Arrays and tables nest at most so many times. -/
def depthLimit : Nat := 79

end FleetConfig.Toml
