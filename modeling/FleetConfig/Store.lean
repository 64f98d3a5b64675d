import FleetConfig.Document.Basic
import FleetConfig.Failure

/-!
# Documents in files

A document is kept in a file. A missing file stands for an empty document and is not created before
something is saved. A document that is saved is pruned; a modification that changes nothing, up to
pruning, leaves the file alone.

## Main definitions

* `Store.load`, `Store.save` — the document in a file.
* `Store.modify` — a change to it.
* `Store.writeFile` — puts bytes into a file as a whole.
-/

namespace FleetConfig.Store

variable {m : Type → Type} [Monad m] [FileAccess m]

/-! ### Files -/

/-- Succeeds, or fails while replacing a file. -/
def replaced (p : Path) : Except ReplaceFault Unit → Action m Unit
  | .ok () => pure ()
  | .error (.draft path fault) =>
    throw { contexts := ["Failed to write temp file: " ++ path.text], cause := .files fault }
  | .error (.target fault) =>
    throw { contexts := ["Failed to replace file: " ++ p.text], cause := .files fault }

/-- Puts bytes into a file as a whole. -/
def writeFile (p : Path) (bytes : ByteArray) : Action m Unit := do
  if p.fileName?.isNone then throw { cause := .badPath p }
  replaced p (← liftM (FileAccess.replace p bytes : m _))

/-- Creates the directory of a file with all directories on the way to it; `what` says what it is.
-/
def createParent (what : String) (p : Path) : Action m Unit :=
  match p.parent? with
  | none => pure ()
  | some dir =>
    Action.within s!"Failed to create {what}: {dir.text}"
      (Action.lift .files (FileAccess.createDirs dir))

/-- The text of a file. -/
def readText (p : Path) : Action m String := do
  match String.fromUTF8? (← Action.lift .files (FileAccess.read p)) with
  | some s => return s
  | none => throw { cause := .files .notText }

/-! ### Documents -/

variable {δ α : Type} [Document δ]

/-- The document in a text. -/
def parse (text : String) : Action m δ :=
  match Document.parse text with
  | .ok d => pure d
  | .error report => throw { cause := .unreadable report }

/-- The document in a file; an empty one if the file is missing. -/
def load (p : Path) : Action m δ := do
  if ← liftM (FileAccess.doesExist p : m Bool) then
    let text ← Action.within s!"Failed to read config file: {p.text}" (readText p)
    Action.within s!"Failed to parse config file: {p.text}" (parse text)
  else return Document.empty

/-- Puts a document into a file. -/
def save (p : Path) (d : δ) : Action m Unit := do
  createParent "config directory" p
  writeFile p (Document.print (Document.prune d)).toUTF8

/-- Decides whether two documents are the same when pruned. -/
def samePruned (a b : δ) : Bool :=
  have := Document.decEq (δ := δ)
  decide (Document.prune a = Document.prune b)

/-- Changes the document in a file, and saves it unless nothing has changed. -/
def modify (p : Path) (f : δ → Except ConfigError (α × δ)) : Action m α := do
  let before ← load p
  let (a, after) ← Action.ofExcept (f before)
  unless samePruned after before do
    Action.within s!"Failed to save {Document.label δ}" (save p after)
  return a

end FleetConfig.Store
