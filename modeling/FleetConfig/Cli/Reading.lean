import FleetConfig.Cli.Form
import FleetConfig.Text.Split

/-!
# Reading command lines

A command line is read token by token. What has been read so far says what the next token can be:
the value of an option, an option or a letter of options, a word of the command, or an operand.

## Main definitions

* `Cli.Reading` — what has been read.
* `Cli.Reading.step`, `Cli.Reading.ofTokens` — reads a token, and all of them.
-/

namespace FleetConfig.Cli

/-- What has been read of a command line. -/
structure Reading where
  /-- The words of the command so far. -/
  words : List String := []
  /-- The options given before the last word, with their values. -/
  outer : List (String × String) := []
  /-- The options given since then, with their values; a switch has an empty one. -/
  given : List (String × String) := []
  /-- The option whose value has to come next. -/
  pending : Option OptionForm := none
  /-- Whether all further tokens are operands. -/
  onlyOperands : Bool := false
  /-- The operands. -/
  operands : List String := []
  /-- The further operands after a double dash. -/
  tail : List String := []

namespace Reading

variable (r : Reading)

/-- The command, once all its words have been read. -/
def form : Option Form := form? r.words

/-- The options that can be given. -/
def options : List OptionForm := sharedOptions ++ ((r.form.map Form.options).getD [])

/-! ### One token -/

/-- Gives an option a value; only an option for many values is given twice. -/
def give (o : OptionForm) (value : String) : Option Reading :=
  if o.arity ≠ .values ∧ (r.given.any fun e => e.1 == o.name) then none
  else some { r with given := r.given ++ [(o.name, value)], pending := none }

/-- Reads an operand. -/
def operand (token : String) : Option Reading := do
  let f ← r.form
  if f.tail && r.onlyOperands then return { r with tail := r.tail ++ [token] }
  else if f.most.all (r.operands.length < ·) then
    return { r with operands := r.operands ++ [token] }
  else none

/-- Reads a word of the command. -/
def word (token : String) : Option Reading :=
  let words := r.words ++ [token]
  if forms.any fun f => words.isPrefixOf f.words then
    some { r with words, outer := r.outer ++ r.given, given := [] }
  else none

/-- Reads an option by name; a value may follow an equals sign. -/
def long (cs : List Char) : Option Reading := do
  if r.pending.isSome then none
  let (name, value?) := match Text.cutFirst '=' cs with
    | some (name, value) => (name, some (String.ofList value))
    | none => (cs, none)
  let o ← r.options.find? fun o => o.name == String.ofList name
  match o.arity, value? with
  | .switch, some _ => none
  | .switch, none => r.give o ""
  | _, some value => r.give o value
  | _, none => return { r with pending := some o }

/-- Drops an equals sign in front. -/
def dropEquals : List Char → List Char
  | '=' :: cs => cs
  | cs => cs

/-- Reads options by letter; a value may follow its letter at once. -/
def letters (r : Reading) : List Char → Option Reading
  | [] => some r
  | c :: cs =>
    match r.options.find? fun o => o.letter == some c with
    | none => none
    | some o =>
      if o.arity = .switch then (r.give o "").bind fun r => letters r cs
      else if cs = [] then some { r with pending := some o }
      else r.give o (String.ofList (dropEquals cs))

/-- Reads a token. -/
def step (token : String) : Option Reading :=
  if r.onlyOperands then r.operand token
  else
    match token.toList, r.pending with
    | ['-', '-'], none => some { r with onlyOperands := true }
    | ['-', '-'], some _ => none
    | '-' :: '-' :: cs, _ => r.long cs
    | '-' :: c :: cs, some o =>
      if o.negative && (c :: cs).all Char.isDigit then r.give o token else none
    | '-' :: c :: cs, none => r.letters (c :: cs)
    | _, some o => r.give o token
    | _, none => if r.form.isSome then r.operand token else r.word token

/-! ### All tokens -/

/-- Holds of a command line that is complete. -/
def isComplete : Bool :=
  r.pending.isNone &&
    r.form.any fun f => f.least ≤ r.operands.length && (!f.tail || !r.tail.isEmpty)

/-- Reads a command line. -/
def ofTokens (tokens : List String) : Option Reading :=
  (tokens.foldlM step ({} : Reading)).filter isComplete

/-! ### Options -/

/-- The value of an option of the command. -/
def value? (name : String) : Option String := r.given.lookup name

/-- The values of an option of the command. -/
def values (name : String) : List String :=
  (r.given.filter fun e => e.1 == name).map Prod.snd

/-- Holds if an option of the command is given. -/
def has (name : String) : Bool := (r.value? name).isSome

/-- The values of a shared option, from the outside in. -/
def shared (name : String) : List String :=
  ((r.outer ++ r.given).filter fun e => e.1 == name).map Prod.snd

end Reading

end FleetConfig.Cli
