import FleetConfig.Files.Access

/-!
# File trees

A file tree is a value that holds files and directories without links. A path is followed from its
start name by name; every name but the last must lead to a directory, and `..` leads back.

## Main definitions

* `FileTree` — files and directories by place.
* `FileTree.resolve` — the place that a path means.
* The instance of `FileAccess` for computations on a file tree.
-/

namespace FleetConfig

/-- What stands at a place. -/
inductive FileTree.Entry where
  | dir
  | file (bytes : ByteArray)

/-- Entries are compared byte by byte. -/
instance : DecidableEq FileTree.Entry
  | .dir, .dir => isTrue rfl
  | .dir, .file _ => isFalse nofun
  | .file _, .dir => isFalse nofun
  | .file a, .file b =>
    if h : a.data = b.data then isTrue (by cases a; cases b; cases h; rfl)
    else isFalse fun e => h (by cases e; rfl)

/-- Files and directories. The root is a directory and has no entry. -/
structure FileTree where
  /-- What stands at which place. -/
  entries : List (Place × FileTree.Entry)
  /-- Where paths start that do not start at the root. -/
  workingDir : Place
  /-- What is put into the names of drafts. -/
  stamp : Nat := 1000

namespace FileTree

/-! ### Entries -/

/-- What stands at a place. -/
def get? (t : FileTree) (place : Place) : Option Entry :=
  if place = [] then some .dir else t.entries.lookup place

/-- Clears a place. -/
def erase (t : FileTree) (place : Place) : FileTree :=
  { t with entries := t.entries.filter fun e => e.1 != place }

/-- Puts something at a place. -/
def put (t : FileTree) (place : Place) (e : Entry) : FileTree :=
  { t with entries := (place, e) :: (t.erase place).entries }

/-! ### Paths -/

/-- The place that a name means in a directory. -/
def follow (place : Place) (name : List Char) : Place :=
  if name = [] ∨ name = ['.'] then place
  else if name = ['.', '.'] then place.dropLast
  else place ++ [String.ofList name]

/-- The longest name, in bytes. -/
def maxName : Nat := 255

/-- Follows names from a place. -/
def walk (t : FileTree) : Place → List (List Char) → Except FileFault Place
  | place, [] => .ok place
  | place, name :: names =>
    match t.get? place with
    | none => .error .missing
    | some (.file _) => .error .notDirectory
    | some .dir =>
      if maxName < (String.ofList name).utf8ByteSize then .error .tooLong
      else walk t (follow place name) names

/-- The place that a path means; nothing need be there. -/
def resolve (t : FileTree) (p : Path) : Except FileFault Place := do
  if p.text = "" then throw .missing
  p.checkSpelling
  t.walk (if p.isAbsolute then [] else t.workingDir) p.segments

/-- What a path leads to. -/
def find? (t : FileTree) (p : Path) : Option (Place × Entry) :=
  match t.resolve p with
  | .ok place => (t.get? place).map fun e => (place, e)
  | .error _ => none

/-! ### Operations -/

/-- The bytes of the file that a path leads to. -/
def read (t : FileTree) (p : Path) : Except FileFault ByteArray := do
  match t.get? (← t.resolve p) with
  | none => .error .missing
  | some .dir => .error .isDirectory
  | some (.file bytes) => .ok bytes

/-- Puts a file where a path leads to. -/
def write (t : FileTree) (p : Path) (bytes : ByteArray) : Except FileFault FileTree := do
  let place ← t.resolve p
  match t.get? place with
  | some .dir => .error .isDirectory
  | _ => .ok (t.put place (.file bytes))

/-- Puts a file where a path leads to, if a draft can be written beside it. This is what the steps
of `replaceInSteps` come to while nothing bears the name of the draft. -/
def replace (t : FileTree) (p : Path) (bytes : ByteArray) : Except ReplaceFault FileTree := do
  let draft := FileAccess.draft t.stamp p
  let _ ← (t.resolve draft).mapError (.draft draft)
  (t.write p bytes).mapError .target

/-- Removes the file that a path leads to. -/
def remove (t : FileTree) (p : Path) : Except FileFault FileTree := do
  let place ← t.resolve p
  match t.get? place with
  | none => .error .missing
  | some .dir => .error .isDirectory
  | some (.file _) => .ok (t.erase place)

/-- Puts the file that one path leads to where another path leads to. -/
def rename (t : FileTree) (source target : Path) : Except FileFault FileTree := do
  let old ← t.resolve source
  let new ← t.resolve target
  match t.get? old with
  | none => .error .missing
  | some .dir => .error .isDirectory
  | some (.file bytes) =>
    match t.get? new with
    | some .dir => .error .isDirectory
    | _ => .ok ((t.erase old).put new (.file bytes))

/-- Creates a directory where a path leads to. -/
def createDir (t : FileTree) (p : Path) : Except FileFault FileTree := do
  let place ← t.resolve p
  match t.get? place with
  | some _ => .error .present
  | none => .ok (t.put place .dir)

/-! ### Computations on a file tree -/

/-- Goes on with the changed file tree, or with the same one after a fault. -/
def update {ε : Type} (f : FileTree → Except ε FileTree) : StateM FileTree (Except ε Unit) :=
  fun t =>
    match f t with
    | .ok t' => (.ok (), t')
    | .error fault => (.error fault, t)

/-- Replaces a file through a draft, as on a disk. -/
def replaceInSteps (p : Path) (bytes : ByteArray) : StateM FileTree (Except ReplaceFault Unit) :=
  fun t =>
    FileAccess.replaceByDraft (fun draft => update (·.write draft bytes))
      (fun draft target => update (·.rename draft target)) (fun draft => update (·.remove draft))
      t.stamp p t

instance : FileAccess (StateM FileTree) where
  locate p := fun t => ((t.find? p).map Prod.fst, t)
  isDir p := fun t => ((t.find? p).any fun e => e.2 = .dir, t)
  read p := fun t => (t.read p, t)
  replace p bytes := update (·.replace p bytes)
  remove p := update (·.remove p)
  createDir p := update (·.createDir p)

end FileTree

end FleetConfig
