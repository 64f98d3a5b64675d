import FleetConfig.Proofs.Files.Reaching
import FleetConfig.Proofs.Store.Running
import Mathlib.Data.Set.Basic

/-!
# Trees that differ in the bytes of some files

Where a path leads depends on the directories alone. So a computation that reads no bytes goes the
same way on trees that differ in the bytes of files only, and the trees behind it differ in no other
files.

## Main definitions

* `FileTree.SameBut` — two trees are the same but for the bytes of files at some places.
* `FileTree.Blind` — a computation cannot tell such trees apart.

## Main results

* `FileTree.SameBut.resolve_eq`, `FileTree.SameBut.read_eq` — where paths lead, and what is read.
* `FileTree.Blind.bind` — computations that read no bytes, one after another.
* `FileTree.blind_createDirs`, `FileTree.blind_replace` — operations that read no bytes.
-/

namespace FleetConfig.FileTree

variable {D D' : Set Place} {t u : FileTree} {place q : Place} {e : Entry} {p : Path}
  {α β ε : Type}

/-- Two trees are the same but for the bytes of files at some places. -/
structure SameBut (D : Set Place) (t u : FileTree) : Prop where
  workingDir : u.workingDir = t.workingDir
  stamp : u.stamp = t.stamp
  get? : ∀ q, u.get? q = t.get? q ∨ q ∈ D ∧
    (∃ bytes, t.get? q = some (.file bytes)) ∧ ∃ bytes, u.get? q = some (.file bytes)

namespace SameBut

theorem get?_eq (h : SameBut D t u) (hq : q ∉ D) : u.get? q = t.get? q :=
  (h.get? q).resolve_right fun hfiles => hq hfiles.1

theorem mono (h : SameBut D t u) (hD : D ⊆ D') : SameBut D' t u :=
  ⟨h.workingDir, h.stamp,
    fun q => (h.get? q).imp_right fun hfiles => ⟨hD hfiles.1, hfiles.2⟩⟩

/-- A place where the same stands in both trees is no exception. -/
theorem diff (h : SameBut D t u) (hplace : u.get? place = t.get? place) :
    SameBut (D \ {place}) t u := by
  refine ⟨h.workingDir, h.stamp, fun q => ?_⟩
  by_cases hq : q = place
  · exact .inl (hq ▸ hplace)
  · exact (h.get? q).imp_right fun hfiles => ⟨⟨hfiles.1, hq⟩, hfiles.2⟩

theorem dir_iff (h : SameBut D t u) : u.get? q = some .dir ↔ t.get? q = some .dir := by
  rcases h.get? q with heq | ⟨-, ⟨bytes, hbytes⟩, bytes', hbytes'⟩
  · rw [heq]
  · rw [hbytes, hbytes']
    exact ⟨nofun, nofun⟩

theorem isSome_eq (h : SameBut D t u) : (u.get? q).isSome = (t.get? q).isSome := by
  rcases h.get? q with heq | ⟨-, ⟨bytes, hbytes⟩, bytes', hbytes'⟩
  · rw [heq]
  · rw [hbytes, hbytes']
    rfl

theorem put (h : SameBut D t u) (place : Place) (e : Entry) :
    SameBut D (t.put place e) (u.put place e) := by
  refine ⟨h.workingDir, h.stamp, fun q => ?_⟩
  by_cases hq : q = place
  · subst hq
    by_cases hroot : q = []
    · exact .inl (by rw [hroot]; rfl)
    · exact .inl ((get?_put_self hroot).trans (get?_put_self hroot).symm)
  · rw [get?_put_of_ne hq, get?_put_of_ne hq]
    exact h.get? q

/-! ### Where paths lead -/

theorem walk_eq (h : SameBut D t u) (start : Place) (names : List (List Char)) :
    u.walk start names = t.walk start names := by
  induction names generalizing start with
  | nil => rfl
  | cons name names ih =>
    rw [walk, walk]
    rcases h.get? start with heq | ⟨-, ⟨bytes, hbytes⟩, bytes', hbytes'⟩
    · rw [heq]
      simp only [ih]
    · rw [hbytes, hbytes']

/-- A path leads to the same place in both trees. -/
theorem resolve_eq (h : SameBut D t u) (p : Path) : u.resolve p = t.resolve p := by
  rw [resolve, resolve, h.workingDir]
  simp only [h.walk_eq]

theorem destination_eq (h : SameBut D t u) (p : Path) : u.destination p = t.destination p := by
  rw [destination, destination, h.workingDir]

/-- A path leads to the same in both trees, or to files whose bytes differ. -/
theorem find?_cases (h : SameBut D t u) (p : Path) :
    u.find? p = t.find? p ∨ ∃ place bytes bytes',
      t.find? p = some (place, .file bytes) ∧ u.find? p = some (place, .file bytes') := by
  simp only [find?_eq_some_iff, h.resolve_eq]
  rw [find?, find?, h.resolve_eq]
  cases t.resolve p with
  | error fault => exact .inl rfl
  | ok place =>
    rcases h.get? place with heq | ⟨-, ⟨bytes, hbytes⟩, bytes', hbytes'⟩
    · simp only [heq, true_or]
    · exact .inr ⟨place, bytes, bytes', ⟨rfl, hbytes⟩, rfl, hbytes'⟩

theorem isDir_eq (h : SameBut D t u) (p : Path) :
    ((u.find? p).any fun e => e.2 = .dir) = (t.find? p).any fun e => e.2 = .dir := by
  rcases h.find?_cases p with heq | ⟨place, bytes, bytes', ht, hu⟩
  · rw [heq]
  · rw [ht, hu]
    rfl

/-- Two paths are found the same or different in both trees. -/
theorem sameFile_eq (h : SameBut D t u) (p q : Path) : u.sameFile p q = t.sameFile p q := by
  rw [sameFile, sameFile]
  rcases h.find?_cases p with hp | ⟨place, bytes, bytes', hp, hp'⟩ <;>
    rcases h.find?_cases q with hq | ⟨place', bytes'', bytes''', hq, hq'⟩
  · rw [hp, hq]
  · rw [hp, hq, hq']
    cases t.find? p <;> rfl
  · rw [hp, hp', hq]
    cases t.find? q <;> rfl
  · rw [hp, hp', hq, hq']

/-- What is read from elsewhere is the same. -/
theorem read_eq (h : SameBut D t u) (hp : t.destination p ∉ D) : u.read p = t.read p := by
  rw [read, read, h.resolve_eq]
  cases hresolve : t.resolve p with
  | error fault => rfl
  | ok place =>
    obtain rfl := eq_destination_of_resolve hresolve
    dsimp only [bind, Except.bind]
    rw [h.get?_eq hp]

end SameBut

/-! ### Operations -/

/-- An operation fails alike on two trees, or makes trees of them that are the same but for the
bytes of files at some places. -/
inductive SameOutcome (D : Set Place) : Except ε FileTree → Except ε FileTree → Prop where
  | error (fault : ε) : SameOutcome D (.error fault) (.error fault)
  | ok {t u : FileTree} (h : SameBut D t u) : SameOutcome D (.ok t) (.ok u)

theorem SameOutcome.mapError {r r' : Except ε FileTree} (h : SameOutcome D r r') (f : ε → α) :
    SameOutcome D (r.mapError f) (r'.mapError f) := by
  cases h with
  | error fault => exact .error (f fault)
  | ok h => exact .ok h

theorem SameBut.createDir (h : SameBut D t u) (p : Path) :
    SameOutcome D (t.createDir p) (u.createDir p) := by
  rw [FileTree.createDir, FileTree.createDir, h.resolve_eq]
  cases t.resolve p with
  | error fault => exact .error fault
  | ok place =>
    dsimp only [bind, Except.bind]
    have hsome := h.isSome_eq (q := place)
    cases ht : t.get? place <;> cases hu : u.get? place <;> rw [ht, hu] at hsome
    · exact .ok (h.put place .dir)
    · cases hsome
    · cases hsome
    · exact .error FileFault.present

theorem SameBut.write (h : SameBut D t u) (p : Path) (bytes : ByteArray) :
    SameOutcome D (t.write p bytes) (u.write p bytes) := by
  rw [FileTree.write, FileTree.write, h.resolve_eq]
  cases t.resolve p with
  | error fault => exact .error fault
  | ok place =>
    dsimp only [bind, Except.bind]
    by_cases hdir : t.get? place = some .dir
    · rw [hdir, h.dir_iff.2 hdir]
      exact .error FileFault.isDirectory
    · split
      · contradiction
      · split
        · exact absurd (h.dir_iff.1 ‹_›) hdir
        · exact .ok (h.put place (.file bytes))

theorem SameBut.replace (h : SameBut D t u) (p : Path) (bytes : ByteArray) :
    SameOutcome D (t.replace p bytes) (u.replace p bytes) := by
  rw [FileTree.replace, FileTree.replace, h.stamp]
  simp only [h.resolve_eq]
  cases t.resolve (FileAccess.draft t.stamp p) with
  | error fault => exact .error (ReplaceFault.draft _ fault)
  | ok draft => exact (h.write p bytes).mapError ReplaceFault.target

/-! ### Computations -/

/-- A computation gives the same result on trees that differ in the bytes of some files only, and
leaves such trees behind. -/
def Blind (x : StateM FileTree α) : Prop :=
  ∀ D t u, SameBut D t u → (x u).1 = (x t).1 ∧ SameBut D (x t).2 (x u).2

namespace Blind

protected theorem pure (a : α) : Blind (pure a) := fun _ _ _ h => ⟨rfl, h⟩

protected theorem bind {x : StateM FileTree α} {f : α → StateM FileTree β} (hx : Blind x)
    (hf : ∀ a, Blind (f a)) : Blind (x >>= f) := by
  intro D t u h
  obtain ⟨hresult, hbehind⟩ := hx D t u h
  rw [Action.bind_apply, Action.bind_apply, hresult]
  exact hf _ D _ _ hbehind

theorem update {f : FileTree → Except ε FileTree}
    (hf : ∀ D t u, SameBut D t u → SameOutcome D (f t) (f u)) : Blind (update f) := by
  intro D t u h
  rw [FileTree.update, FileTree.update]
  cases ht : f t <;> cases hu : f u <;> have houtcome := hf D t u h <;> rw [ht, hu] at houtcome
  · cases houtcome
    exact ⟨rfl, h⟩
  · cases houtcome
  · cases houtcome
  · cases houtcome with
    | ok hbehind => exact ⟨rfl, hbehind⟩

end Blind

theorem blind_isDir (p : Path) : Blind (FileAccess.isDir p : StateM FileTree Bool) :=
  fun _ _ _ h => ⟨h.isDir_eq p, h⟩

theorem blind_locate (p : Path) :
    Blind (FileAccess.locate p : StateM FileTree (Option Place)) := by
  refine fun _ t u h => ⟨?_, h⟩
  show (u.find? p).map Prod.fst = (t.find? p).map Prod.fst
  rcases h.find?_cases p with heq | ⟨place, bytes, bytes', ht, hu⟩
  · rw [heq]
  · rw [ht, hu]
    rfl

theorem blind_isFile (p : Path) : Blind (FileAccess.isFile p : StateM FileTree Bool) :=
  .bind (.bind (blind_locate p) fun _ => .pure _) fun _ => .bind (blind_isDir p) fun _ => .pure _

theorem blind_createDir (p : Path) : Blind (FileAccess.createDir p : StateM FileTree _) :=
  .update fun _ _ _ h => h.createDir p

theorem blind_replace (p : Path) (bytes : ByteArray) :
    Blind (FileAccess.replace p bytes : StateM FileTree _) :=
  .update fun _ _ _ h => h.replace p bytes

theorem blind_createEach (ps : List Path) :
    Blind (FileAccess.createEach ps : StateM FileTree _) := by
  induction ps with
  | nil => exact .pure _
  | cons p ps ih =>
    refine (blind_isDir p).bind fun isThere => ?_
    cases isThere
    · refine (blind_createDir p).bind fun r => ?_
      cases r
      · exact .pure _
      · exact ih
    · exact ih

theorem blind_createDirs (p : Path) : Blind (FileAccess.createDirs p : StateM FileTree _) := by
  rw [FileAccess.createDirs]
  cases p.checkSpelling
  · exact .pure _
  · exact blind_createEach _

end FleetConfig.FileTree
