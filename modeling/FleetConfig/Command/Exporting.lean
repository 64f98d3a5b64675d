import FleetConfig.Data.Basic
import FleetConfig.Export
import FleetConfig.Locations
import FleetConfig.Store

/-!
# Exporting

The portable context and the environment contract are written to two files. Neither may be the file
that the execution context is read from, and the two must differ. If the second cannot be written,
the first is put back as it was.

## Main definitions

* `Exporting.Request`, `Exporting.Report` — where to write, and what was written.
* `Exporting.run` — the command.
-/

namespace FleetConfig.Exporting

/-- Where to write, and in which form. -/
structure Request where
  /-- The file for the portable context. -/
  contextOutput : Path := ⟨"portable-execution-context.toml"⟩
  /-- The file for the environment contract. -/
  contractOutput : Path := ⟨".env"⟩
  /-- The form of the environment contract. -/
  format : Export.Format := .dotenv
deriving DecidableEq

/-- What was written. -/
structure Report where
  contextOutput : Path
  contractOutput : Path
  /-- The number of servers in the contract. -/
  servers : Nat
  /-- The number of placeholders. -/
  placeholders : Nat
deriving DecidableEq

/-- A report as data. -/
def Report.toData (r : Report) : Data :=
  .record [("context_output", .text r.contextOutput.text),
    ("contract_output", .text r.contractOutput.text),
    ("servers", .number r.servers), ("placeholders", .number r.placeholders)]

variable {m : Type → Type} [Monad m] [FileAccess m]

/-- Refuses to write over the file that the execution context is read from. -/
def guardSource (locs : Locations) (output : Path) : Action m Unit := do
  if ← liftM (FileAccess.sameFile output locs.context : m Bool) then
    Action.refuse (.conflict
      ("export output '" ++ output.text ++ "' would overwrite the execution context it reads from"))

/-- Refuses to write both documents to one file. -/
def guardOutputs (r : Request) : Action m Unit := do
  if ← liftM (FileAccess.sameFile r.contextOutput r.contractOutput : m Bool) then
    Action.refuse (.conflict "context and contract outputs must be different files")

/-- Writes the environment contract. -/
def writeContract (p : Path) (rendered : String) : Action m Unit := do
  Store.createParent "directory" p
  Action.within s!"Failed to write environment contract: {p.text}"
    (Store.writeFile p rendered.toUTF8)

/-- Puts a file back as it was, or removes it if it was not there. What goes wrong is not reported,
because there is a failure to report already. -/
def restore (p : Path) (previous : Except FileFault ByteArray) : m Unit := do
  match previous with
  | .ok bytes => let _ ← (Store.writeFile p bytes : Action m Unit).run
  | .error _ => let _ ← FileAccess.remove p

/-- Writes both documents, or neither. -/
def writeBoth (r : Request) (portable : Context) (rendered : String) : Action m Unit := do
  let previous ← liftM (FileAccess.read r.contextOutput : m _)
  Action.within s!"Failed to write portable context: {r.contextOutput.text}"
    (Store.save r.contextOutput portable)
  match ← liftM ((writeContract r.contractOutput rendered : Action m Unit).run) with
  | .ok () => return ()
  | .error failure =>
    liftM (restore r.contextOutput previous : m Unit)
    throw failure

/-- Exports the contract. Nothing is written before all that can be refused has been checked. -/
def run (locs : Locations) (r : Request) : Action m Report := do
  guardSource locs r.contextOutput
  guardSource locs r.contractOutput
  guardOutputs r
  let k : Contract ← Store.load locs.contract
  let x : Context ← Store.load locs.context
  let exported ← Action.ofExcept (Export.ofContract k x)
  let rendered ← Action.ofExcept (exported.render r.format)
  writeBoth r exported.context rendered
  return {
    contextOutput := r.contextOutput
    contractOutput := r.contractOutput
    servers := k.servers.length
    placeholders := exported.contract.entries.length }

end FleetConfig.Exporting
