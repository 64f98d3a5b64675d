import FleetConfig.Cli.Run

/-!
# The program

The files of the disk, the environment and the terminal.

## Main definitions

* `FleetConfig.onDisk` — access to the files of the disk.
* `main` — the program.
-/

namespace FleetConfig

/-- The result of an operation on what a path leads to, or what the system says against it. -/
def attempt {α : Type} (p : Path) (x : String → IO α) : IO (Except FileFault α) := do
  match p.checkSpelling with
  | .error fault => return .error fault
  | .ok () =>
    try
      return .ok (← x p.text)
    catch e =>
      return .error ⟨toString e⟩

/-- Access to the files of the disk. A file is replaced through a draft beside it. -/
instance onDisk : FileAccess IO where
  locate p := do
    match ← attempt p (IO.FS.realPath ·) with
    | .ok real => return some ((Text.split '/' (toString real)).filter (· != ""))
    | .error _ => return none
  isDir p := do
    match ← attempt p (IO.FS.realPath ·) with
    | .ok real => real.isDir
    | .error _ => return false
  read p := attempt p (IO.FS.readBinFile ·)
  replace p bytes := do
    let stamp ← IO.rand 1000000 9999999
    FileAccess.replaceByDraft (fun draft => attempt draft (IO.FS.writeBinFile · bytes))
      (fun draft target => attempt target (IO.FS.rename draft.text ·))
      (fun draft => attempt draft (IO.FS.removeFile ·)) stamp p
  remove p := attempt p (IO.FS.removeFile ·)
  createDir p := attempt p (IO.FS.createDir ·)

/-- What the environment says. -/
def readEnvironment : IO Cli.Environment := do
  return {
    contractFile := ← IO.getEnv "MCPD_CONFIG_FILE"
    contextFile := ← IO.getEnv "MCPD_RUNTIME_FILE"
    configHome := ← IO.getEnv "XDG_CONFIG_HOME"
    home := ← IO.getEnv "HOME" }

/-- Runs a command line. -/
def runTokens (tokens : List String) : IO Cli.Ending := do
  let e ← readEnvironment
  match Cli.Invocation.ofTokens? e tokens with
  | none => return Cli.Ending.misuse
  | some i => return Cli.Ending.ofResult (← (i.run e : Action IO String).run)

end FleetConfig

/-- Runs the command line and prints how it ends. -/
def main (tokens : List String) : IO UInt32 := do
  let ending ← FleetConfig.runTokens tokens
  IO.print ending.output
  IO.eprint ending.errors
  return ending.code.toUInt32
