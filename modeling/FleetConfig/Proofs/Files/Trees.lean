import FleetConfig.Files.Tree
import FleetConfig.Proofs.Results

/-!
# What operations on file trees change

The place of a path depends on the names in it alone, and what is put there is found under the path
again. Creating directories leaves every file as it is.

## Main definitions

* `FileTree.destination` — the place that a path names, whatever is there.
* `FileTree.SameFiles` — two trees with the same files, byte by byte.
* `FileTree.Grown` — one tree is another with more directories.
* `FileTree.GrownBesides` — the same, but for what stands at one place.

## Main results

* `FileTree.find?_put` — what is put at the place of a path is found under the path.
* `FileTree.eq_put_of_replace` — what is replaced is at the place that the path names.
* `FileTree.Grown.resolve_eq` — with more directories, a path that leads somewhere leads there
  still.
-/

namespace FleetConfig.FileTree

variable {t t' t'' : FileTree} {place q : Place} {e : Entry}

/-! ### Entries -/

theorem get?_put_self (h : place ≠ []) : (t.put place e).get? place = some e := by
  rw [get?, if_neg h, put, List.lookup_cons_self]

private theorem lookup_filter_ne {es : List (Place × Entry)} (h : q ≠ place) :
    (es.filter fun x => x.1 != place).lookup q = es.lookup q := by
  induction es with
  | nil => rfl
  | cons x xs ih =>
    obtain ⟨place', e⟩ := x
    by_cases hx : place' = place
    · have hq : (q == place') = false := beq_eq_false_iff_ne.2 (hx ▸ h)
      rw [List.filter_cons_of_neg (by simp [hx]), ih, List.lookup_cons, hq]
    · rw [List.filter_cons_of_pos (by simpa using hx), List.lookup_cons, List.lookup_cons, ih]

theorem get?_put_of_ne (h : q ≠ place) : (t.put place e).get? q = t.get? q := by
  rw [get?, get?]
  by_cases hq : q = []
  · rw [if_pos hq, if_pos hq]
  · rw [if_neg hq, if_neg hq, put, erase, List.lookup_cons, beq_eq_false_iff_ne.2 h]
    exact lookup_filter_ne h

theorem get?_erase_self (h : place ≠ []) : (t.erase place).get? place = none := by
  rw [get?, if_neg h, List.lookup_eq_none_iff]
  intro x hx
  exact bne_iff_ne.2 (bne_iff_ne.1 (List.mem_filter.1 hx).2).symm

theorem get?_erase_of_ne (h : q ≠ place) : (t.erase place).get? q = t.get? q := by
  rw [get?, get?]
  by_cases hq : q = []
  · rw [if_pos hq, if_pos hq]
  · rw [if_neg hq, if_neg hq]
    exact lookup_filter_ne h

/-! ### Paths -/

/-- The place that a path names, whatever is there. -/
def destination (t : FileTree) (p : Path) : Place :=
  p.segments.foldl follow (if p.isAbsolute then [] else t.workingDir)

theorem walk_eq_foldl {start : Place} {names : List (List Char)}
    (h : t.walk start names = .ok place) : place = names.foldl follow start := by
  induction names generalizing start with
  | nil =>
    cases h
    rfl
  | cons name names ih =>
    rw [walk] at h
    split at h
    · cases h
    · cases h
    · split at h
      · cases h
      · exact ih h

/-- Only the directories on the way matter. -/
theorem walk_of_dirs (hdirs : ∀ q, t.get? q = some .dir → t'.get? q = some .dir) {start : Place}
    {names : List (List Char)} (h : t.walk start names = .ok place) :
    t'.walk start names = .ok place := by
  induction names generalizing start with
  | nil => exact h
  | cons name names ih =>
    rw [walk] at h ⊢
    split at h
    · cases h
    · cases h
    · rename_i hdir
      rw [hdirs start hdir]
      split at h
      · cases h
      · rename_i hname
        simp only [if_neg hname]
        exact ih h

theorem resolve_eq_ok_iff {p : Path} :
    t.resolve p = .ok place ↔ p.text ≠ "" ∧ p.checkSpelling = .ok () ∧
      t.walk (if p.isAbsolute then [] else t.workingDir) p.segments = .ok place := by
  rw [resolve]
  by_cases hempty : p.text = ""
  · rw [if_pos hempty]
    exact ⟨nofun, fun h => absurd hempty h.1⟩
  · rw [if_neg hempty]
    cases hspelling : p.checkSpelling with
    | error fault => exact ⟨nofun, nofun⟩
    | ok u => exact ⟨fun h => ⟨hempty, rfl, h⟩, fun h => h.2.2⟩

theorem eq_destination_of_resolve {p : Path} (h : t.resolve p = .ok place) :
    place = t.destination p :=
  walk_eq_foldl (resolve_eq_ok_iff.1 h).2.2

theorem resolve_of_dirs (hdirs : ∀ q, t.get? q = some .dir → t'.get? q = some .dir)
    (hworking : t'.workingDir = t.workingDir) {p : Path} (h : t.resolve p = .ok place) :
    t'.resolve p = .ok place := by
  obtain ⟨hempty, hspelling, hwalk⟩ := resolve_eq_ok_iff.1 h
  exact resolve_eq_ok_iff.2 ⟨hempty, hspelling, hworking ▸ walk_of_dirs hdirs hwalk⟩

/-! ### More directories -/

/-- Two trees hold the same files, byte by byte. -/
def SameFiles (t t' : FileTree) : Prop :=
  ∀ place bytes, t'.get? place = some (.file bytes) ↔ t.get? place = some (.file bytes)

/-- One tree is another with more directories where nothing was. -/
structure Grown (t t' : FileTree) : Prop where
  workingDir : t'.workingDir = t.workingDir
  stamp : t'.stamp = t.stamp
  get? : ∀ place, t'.get? place = t.get? place ∨
    t.get? place = none ∧ t'.get? place = some .dir

private theorem grows_trans {x y z : Option Entry} (h : y = x ∨ x = none ∧ y = some .dir)
    (h' : z = y ∨ y = none ∧ z = some .dir) : z = x ∨ x = none ∧ z = some .dir := by
  rcases h with rfl | ⟨rfl, rfl⟩
  · exact h'
  · exact .inr ⟨rfl, h'.resolve_right fun hnone => nomatch hnone.1⟩

private theorem file_iff_of_grows {x y : Option Entry} (h : y = x ∨ x = none ∧ y = some .dir)
    (bytes : ByteArray) : y = some (.file bytes) ↔ x = some (.file bytes) := by
  rcases h with rfl | ⟨rfl, rfl⟩
  · exact .rfl
  · exact ⟨nofun, nofun⟩

namespace Grown

theorem refl (t : FileTree) : Grown t t := ⟨rfl, rfl, fun _ => .inl rfl⟩

theorem trans (h : Grown t t') (h' : Grown t' t'') : Grown t t'' :=
  ⟨h'.workingDir.trans h.workingDir, h'.stamp.trans h.stamp,
    fun q => grows_trans (h.get? q) (h'.get? q)⟩

/-- New directories are no files, and stand where no file was. -/
theorem sameFiles (h : Grown t t') : SameFiles t t' :=
  fun q bytes => file_iff_of_grows (h.get? q) bytes

theorem get?_of_some (h : Grown t t') (he : t.get? place = some e) : t'.get? place = some e := by
  rcases h.get? place with heq | ⟨hnone, -⟩
  · exact heq.trans he
  · rw [hnone] at he
    cases he

/-- A path that leads somewhere leads there still. -/
theorem resolve_eq (h : Grown t t') {p : Path} (hp : t.resolve p = .ok place) :
    t'.resolve p = .ok place :=
  resolve_of_dirs (fun _ hq => h.get?_of_some hq) h.workingDir hp

end Grown

theorem grown_put (h : t.get? place = none) : Grown t (t.put place .dir) := by
  refine ⟨rfl, rfl, fun q => ?_⟩
  by_cases hq : q = place
  · have hplace : place ≠ [] := by
      rintro rfl
      cases h
    rw [hq]
    exact .inr ⟨h, get?_put_self hplace⟩
  · exact .inl (get?_put_of_ne hq)

/-- Besides what stands at one place, a tree is another with more directories where nothing was. -/
structure GrownBesides (place : Place) (t t' : FileTree) : Prop where
  workingDir : t'.workingDir = t.workingDir
  stamp : t'.stamp = t.stamp
  get? : ∀ q ≠ place, t'.get? q = t.get? q ∨ t.get? q = none ∧ t'.get? q = some .dir

namespace GrownBesides

theorem trans (h : GrownBesides place t t') (h' : GrownBesides place t' t'') :
    GrownBesides place t t'' :=
  ⟨h'.workingDir.trans h.workingDir, h'.stamp.trans h.stamp,
    fun q hq => grows_trans (h.get? q hq) (h'.get? q hq)⟩

theorem put : GrownBesides place t (t.put place e) :=
  ⟨rfl, rfl, fun _ hq => .inl (get?_put_of_ne hq)⟩

theorem erase : GrownBesides place t (t.erase place) :=
  ⟨rfl, rfl, fun _ hq => .inl (get?_erase_of_ne hq)⟩

/-- All files elsewhere are as they were. -/
theorem file_iff (h : GrownBesides place t t') (hq : q ≠ place) (bytes : ByteArray) :
    t'.get? q = some (.file bytes) ↔ t.get? q = some (.file bytes) :=
  file_iff_of_grows (h.get? q hq) bytes

/-- If that place is as it was, then so is all but for directories. -/
theorem grown (h : GrownBesides place t t') (hplace : t'.get? place = t.get? place) :
    Grown t t' := by
  refine ⟨h.workingDir, h.stamp, fun q => ?_⟩
  by_cases hq : q = place
  · exact .inl (hq ▸ hplace)
  · exact h.get? q hq

end GrownBesides

theorem Grown.besides (h : Grown t t') (place : Place) : GrownBesides place t t' :=
  ⟨h.workingDir, h.stamp, fun q _ => h.get? q⟩

theorem Grown.destination_eq (h : Grown t t') (p : Path) : t'.destination p = t.destination p := by
  rw [destination, destination, h.workingDir]

/-! ### Operations -/

/-- Directories stay when something is put where no directory is. -/
theorem get?_put_of_dir (hplace : t.get? place ≠ some .dir) (hq : t.get? q = some .dir) :
    (t.put place e).get? q = some .dir := by
  rw [get?_put_of_ne, hq]
  rintro rfl
  exact hplace hq

theorem grown_of_createDir {p : Path} (h : t.createDir p = .ok t') : Grown t t' := by
  obtain ⟨place, -, h⟩ := bind_eq_ok.1 h
  split at h
  · cases h
  · rename_i hnone
    cases h
    exact grown_put hnone

/-- What is replaced is at the place that the path leads to, and is no directory. -/
theorem eq_put_of_replace {p : Path} {bytes : ByteArray} (h : t.replace p bytes = .ok t') :
    ∃ place, t.resolve p = .ok place ∧ t.get? place ≠ some .dir ∧
      t' = t.put place (.file bytes) := by
  obtain ⟨draft, -, h⟩ := bind_eq_ok.1 h
  obtain ⟨place, hplace, h⟩ := bind_eq_ok.1 (mapError_eq_ok.1 h)
  refine ⟨place, hplace, ?_⟩
  split at h
  · cases h
  · rename_i hdir
    cases h
    exact ⟨fun heq => hdir heq, rfl⟩

/-- A file is replaced where a path leads to, unless that is a directory, if its draft has a
place. -/
theorem replace_eq_ok {p : Path} {bytes : ByteArray}
    (hdraft : t.resolve (FileAccess.draft t.stamp p) = .ok q) (hplace : t.resolve p = .ok place)
    (hdir : t.get? place ≠ some .dir) :
    t.replace p bytes = .ok (t.put place (.file bytes)) := by
  refine bind_eq_ok.2 ⟨q, mapError_eq_ok.2 hdraft, mapError_eq_ok.2 ?_⟩
  refine bind_eq_ok.2 ⟨place, hplace, ?_⟩
  split
  · contradiction
  · rfl

/-- What has been replaced can be replaced again while the directories are there. -/
theorem replace_again {p : Path} {bytes bytes' : ByteArray} (h : t.replace p bytes = .ok t')
    (hdirs : ∀ q, t.get? q = some .dir → t''.get? q = some .dir)
    (hworking : t''.workingDir = t.workingDir) (hstamp : t''.stamp = t.stamp)
    (hplace : t''.get? (t.destination p) ≠ some .dir) :
    t''.replace p bytes' = .ok (t''.put (t.destination p) (.file bytes')) := by
  obtain ⟨draft, hdraft, h⟩ := bind_eq_ok.1 h
  obtain ⟨place, hresolve, -⟩ := bind_eq_ok.1 (mapError_eq_ok.1 h)
  rw [← eq_destination_of_resolve hresolve] at hplace ⊢
  have hdraft' := resolve_of_dirs hdirs hworking (mapError_eq_ok.1 hdraft)
  exact replace_eq_ok (hstamp ▸ hdraft') (resolve_of_dirs hdirs hworking hresolve) hplace

theorem remove_eq_ok {p : Path} {bytes : ByteArray} (hp : t.resolve p = .ok place)
    (hplace : t.get? place = some (.file bytes)) : t.remove p = .ok (t.erase place) := by
  refine bind_eq_ok.2 ⟨place, hp, ?_⟩
  rw [hplace]

/-- What is put at the end of a path is found there. -/
theorem find?_put {p : Path} (hp : t.resolve p = .ok place) (hdir : t.get? place ≠ some .dir) :
    (t.put place e).find? p = some (place, e) := by
  have hplace : place ≠ [] := by
    rintro rfl
    exact hdir rfl
  rw [find?, resolve_of_dirs (fun _ => get?_put_of_dir hdir) rfl hp]
  show ((t.put place e).get? place).map _ = _
  rw [get?_put_self hplace, Option.map_some]

theorem find?_eq_some_iff {p : Path} :
    t.find? p = some (place, e) ↔ t.resolve p = .ok place ∧ t.get? place = some e := by
  rw [find?]
  cases t.resolve p with
  | error fault => exact ⟨nofun, nofun⟩
  | ok place' =>
    simp only [Option.map_eq_some_iff, Prod.mk.injEq, Except.ok.injEq]
    constructor
    · rintro ⟨e', he, rfl, rfl⟩
      exact ⟨rfl, he⟩
    · rintro ⟨rfl, he⟩
      exact ⟨e, he, rfl, rfl⟩

/-- A path is read if it leads to a file. -/
theorem read_eq_ok_iff {p : Path} {bytes : ByteArray} :
    t.read p = .ok bytes ↔ ∃ place, t.find? p = some (place, .file bytes) := by
  simp only [find?_eq_some_iff]
  constructor
  · intro h
    obtain ⟨place, hplace, h⟩ := bind_eq_ok.1 h
    refine ⟨place, hplace, ?_⟩
    split at h
    · cases h
    · cases h
    · rename_i hget
      cases h
      exact hget
  · rintro ⟨place, hplace, hget⟩
    refine bind_eq_ok.2 ⟨place, hplace, ?_⟩
    rw [hget]

/-- Paths to one file are read alike. -/
theorem read_eq_of_destination_eq {p q : Path} {bytes bytes' : ByteArray}
    (h : t.destination p = t.destination q) (hp : t.read p = .ok bytes)
    (hq : t.read q = .ok bytes') : bytes = bytes' := by
  obtain ⟨_, hp⟩ := read_eq_ok_iff.1 hp
  obtain ⟨_, hq⟩ := read_eq_ok_iff.1 hq
  obtain ⟨hresolve, hget⟩ := find?_eq_some_iff.1 hp
  obtain ⟨hresolve', hget'⟩ := find?_eq_some_iff.1 hq
  rw [eq_destination_of_resolve hresolve, h, ← eq_destination_of_resolve hresolve', hget'] at hget
  cases hget
  rfl

end FleetConfig.FileTree
