import FleetConfig.Files.Path

/-!
# Access to files

What commands do with files, whatever holds the files: the disk or a value. A file is replaced as a
whole: readers find the old bytes or the new ones.

## Main definitions

* `Place` — where a path leads to.
* `FileFault`, `ReplaceFault` — why an operation on files failed.
* `FileAccess` — the operations.
* `FileAccess.replaceByDraft` — the steps that replace a file.
* `FileAccess.sameFile`, `FileAccess.createDirs` — what is built from the operations.
-/

namespace FleetConfig

/-- The names that lead from the root to a file or directory, without detours. -/
abbrev Place := List String

/-- Why an operation on files failed. -/
structure FileFault where
  /-- What the holder of the files says. -/
  message : String
deriving DecidableEq, Inhabited

namespace FileFault

/-- Nothing is there. -/
def missing : FileFault := ⟨"No such file or directory (os error 2)"⟩

/-- Something is there already. -/
def present : FileFault := ⟨"File exists (os error 17)"⟩

/-- A file stands where a directory should. -/
def notDirectory : FileFault := ⟨"Not a directory (os error 20)"⟩

/-- A directory stands where a file should. -/
def isDirectory : FileFault := ⟨"Is a directory (os error 21)"⟩

/-- The bytes of a file are no text. -/
def notText : FileFault := ⟨"stream did not contain valid UTF-8"⟩

/-- A path holds the character that ends texts for the system. -/
def nullInside : FileFault := ⟨"file name contained an unexpected NUL byte"⟩

/-- A path or a name in it is too long. -/
def tooLong : FileFault := ⟨"File name too long (os error 36)"⟩

end FileFault

/-- Succeeds on paths that the system takes, whatever the files are: less than 4096 bytes, none of
which is zero. -/
def Path.checkSpelling (p : Path) : Except FileFault Unit :=
  if p.text.toList.contains '\x00' then .error .nullInside
  else if 4096 ≤ p.text.utf8ByteSize then .error .tooLong
  else .ok ()

/-- Why a file could not be replaced. -/
inductive ReplaceFault where
  /-- The draft that the new bytes are written to could not be written. -/
  | draft (path : Path) (fault : FileFault)
  /-- The draft could not take the place of the file. -/
  | target (fault : FileFault)
deriving DecidableEq

/-- The operations on files. -/
class FileAccess (m : Type → Type) where
  /-- The place that a path leads to, if something is there. -/
  locate : Path → m (Option Place)
  /-- Holds if a path leads to a directory. -/
  isDir : Path → m Bool
  /-- The bytes of a file. -/
  read : Path → m (Except FileFault ByteArray)
  /-- Puts a file in the place of what a path leads to, or of nothing. The path has a name at its
  end. -/
  replace : Path → ByteArray → m (Except ReplaceFault Unit)
  /-- Removes a file. -/
  remove : Path → m (Except FileFault Unit)
  /-- Creates a directory in one that is there. -/
  createDir : Path → m (Except FileFault Unit)

namespace FileAccess

/-- The name of the draft of a file. The stamp is to make it a name that nothing else has. -/
def draftName (name : String) (stamp : Nat) : String :=
  "." ++ name ++ "." ++ toString stamp ++ ".tmp"

/-- The draft of a file, which stands beside it. -/
def draft (stamp : Nat) (p : Path) : Path := p.sibling (draftName (p.fileName?.getD "") stamp)

/-- The steps that replace a file: a draft is written, and renamed. If it cannot be renamed it is
removed; whether that works does not matter, because there is a fault to report already. -/
def replaceByDraft {m : Type → Type} [Monad m] (write : Path → m (Except FileFault Unit))
    (rename : Path → Path → m (Except FileFault Unit)) (remove : Path → m (Except FileFault Unit))
    (stamp : Nat) (p : Path) : m (Except ReplaceFault Unit) := do
  match ← write (draft stamp p) with
  | .error fault => return .error (.draft (draft stamp p) fault)
  | .ok () =>
    match ← rename (draft stamp p) p with
    | .ok () => return .ok ()
    | .error fault =>
      let _ ← remove (draft stamp p)
      return .error (.target fault)

variable {m : Type → Type} [Monad m] [FileAccess m]

/-- Holds if a path leads to something. -/
def doesExist (p : Path) : m Bool := return (← locate p).isSome

/-- Holds if a path leads to a file. -/
def isFile (p : Path) : m Bool := return (← doesExist p) && !(← isDir p)

/-- Holds if two paths lead to the same place; if one of them leads nowhere, they are compared by
their components. -/
def sameFile (p q : Path) : m Bool := do
  match ← locate p, ← locate q with
  | some a, some b => return a == b
  | _, _ => return p.sameNames q

/-- Creates the directories of some paths that are not there yet, in order. -/
def createEach : List Path → m (Except FileFault Unit)
  | [] => return .ok ()
  | p :: ps => do
    if ← isDir p then createEach ps
    else
      match ← createDir p with
      | .ok () => createEach ps
      | .error fault => return .error fault

/-- Creates a directory with all directories on the way to it. -/
def createDirs (p : Path) : m (Except FileFault Unit) :=
  match p.checkSpelling with
  | .error fault => return .error fault
  | .ok () => createEach (p.stages.map Prod.snd)

end FileAccess

end FleetConfig
