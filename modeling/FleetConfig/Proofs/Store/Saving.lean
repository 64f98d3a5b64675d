import FleetConfig.Proofs.Document.RoundTrip
import FleetConfig.Proofs.Files.Trees
import FleetConfig.Proofs.Store.Running
import FleetConfig.Proofs.Text.Encoding
import FleetConfig.Store

/-!
# Documents in the files of a tree

Loading changes no file. Saving puts the text of the pruned document at the place that the path
names; besides that it only brings about directories, and it does no more than that when it fails.

## Main definitions

* `Store.Writes` — the trees before and after bytes have been written to a path.
* `Store.Writable` — bytes can be written to a path.
* `Store.treeOf` — a tree whose only file is that of a document.

## Main results

* `Store.readsOnly_load` — loading leaves the tree as it is.
* `Store.runOn_save_eq_ok`, `Store.runOn_save_eq_error` — saving writes the document, or fails and
  leaves all files as they are.
* `Store.load_of_writes` — what is saved is loaded again.
-/

namespace FleetConfig.Store

open FleetConfig.Action (ReadsOnly)
open FileTree (SameFiles Grown GrownBesides)

variable {δ : Type} [Document δ] {t t' : FileTree} {p : Path}

/-! ### Loading -/

theorem readsOnly_load : ReadsOnly (load p : Action _ δ) := by
  refine .bind (.liftM fun _ => rfl) fun isThere => ?_
  cases isThere
  · exact .pure _
  refine .bind (.within (.bind (.lift fun _ => rfl) fun bytes => ?_) _) fun s => .within ?_ _
  · cases String.fromUTF8? bytes
    · exact .throw _
    · exact .pure _
  · rw [parse]
    cases Document.parse (δ := δ) s
    · exact .throw _
    · exact .pure _

theorem runOn_doesExist :
    (liftM (FileAccess.doesExist p : StateM FileTree Bool) :
      Action (StateM FileTree) Bool).runOn t = (.ok (t.find? p).isSome, t) := by
  show (Except.ok (((t.find? p).map Prod.fst).isSome), t) = _
  rw [Option.isSome_map]

theorem runOn_readText_eq_ok {s : String} :
    (readText p).runOn t = (.ok s, t') ↔ t' = t ∧ t.read p = .ok s.toUTF8 := by
  rw [readText, Action.runOn_bind_eq_ok]
  constructor
  · rintro ⟨bytes, t₁, hread, h⟩
    obtain ⟨hbytes, rfl⟩ := Prod.mk.inj (Action.runOn_lift_eq_ok.1 hread)
    split at h
    · rename_i hs
      cases h
      exact ⟨rfl, Text.fromUTF8?_eq_some_iff.1 hs ▸ hbytes⟩
    · cases h
  · rintro ⟨rfl, hread⟩
    refine ⟨s.toUTF8, t', Action.runOn_lift_eq_ok.2 (congrArg (·, t') hread), ?_⟩
    rw [Text.fromUTF8?_eq_some_iff.2 rfl]
    rfl

theorem runOn_parse_eq_ok {s : String} {d : δ} :
    (parse s).runOn t = (.ok d, t') ↔ t' = t ∧ Document.parse s = .ok d := by
  rw [parse]
  cases Document.parse (δ := δ) s with
  | error report => exact ⟨nofun, nofun⟩
  | ok d' =>
    rw [Action.runOn_pure, Prod.mk.injEq, Except.ok.injEq, Except.ok.injEq, and_comm, @eq_comm _ t]

/-- A document is loaded from the text in its file; a missing file stands for an empty one. -/
theorem runOn_load_eq_ok {d : δ} :
    (load p).runOn t = (.ok d, t') ↔ t' = t ∧
      (t.find? p = none ∧ d = Document.empty ∨
        ∃ s : String, t.read p = .ok s.toUTF8 ∧ Document.parse s = .ok d) := by
  rw [load, Action.runOn_bind, runOn_doesExist]
  cases hfind : t.find? p with
  | none =>
    have hread : ∀ s : String, t.read p ≠ .ok s.toUTF8 := by
      intro s hs
      obtain ⟨place, hplace⟩ := FileTree.read_eq_ok_iff.1 hs
      rw [hfind] at hplace
      cases hplace
    constructor
    · intro h
      cases h
      exact ⟨rfl, .inl ⟨rfl, rfl⟩⟩
    · rintro ⟨rfl, ⟨-, rfl⟩ | ⟨s, hs, -⟩⟩
      · rfl
      · exact absurd hs (hread s)
  | some e =>
    simp only [Option.isSome_some, if_true, Action.runOn_bind_eq_ok, Action.runOn_within_eq_ok,
      runOn_readText_eq_ok, runOn_parse_eq_ok]
    constructor
    · rintro ⟨s, _, ⟨rfl, hs⟩, rfl, hd⟩
      exact ⟨rfl, .inr ⟨s, hs, hd⟩⟩
    · rintro ⟨rfl, ⟨hnone, -⟩ | ⟨s, hs, hd⟩⟩
      · cases hnone
      · exact ⟨s, t', ⟨rfl, hs⟩, rfl, hd⟩

/-! ### Saving -/

theorem isDir_iff : ((t.find? p).any fun e => e.2 = .dir) = true ↔
    ∃ place, t.find? p = some (place, .dir) := by
  simp only [Option.any_eq_true, decide_eq_true_eq, Prod.exists, exists_eq_right]

/-- A directory that is there is not created. -/
theorem createEach_cons (ps : List Path) :
    (FileAccess.createEach (p :: ps) : StateM FileTree _) t =
      if (t.find? p).any fun e => e.2 = .dir then (FileAccess.createEach ps : StateM FileTree _) t
      else match t.createDir p with
        | .ok t' => (FileAccess.createEach ps : StateM FileTree _) t'
        | .error fault => (.error fault, t) := by
  rw [FileAccess.createEach, Action.bind_apply]
  show (if ((t.find? p).any fun e => e.2 = .dir) = true then
    (FileAccess.createEach ps : StateM FileTree _) else _) t = _
  split
  · rfl
  · have hcreate : (FileAccess.createDir p : StateM FileTree (Except FileFault Unit)) t =
        FileTree.update (·.createDir p) t := rfl
    rw [Action.bind_apply, hcreate, FileTree.update]
    cases t.createDir p <;> rfl

theorem grown_createEach (ps : List Path) (t : FileTree) :
    Grown t ((FileAccess.createEach ps : StateM FileTree _) t).2 := by
  induction ps generalizing t with
  | nil => exact .refl t
  | cons p ps ih =>
    rw [createEach_cons]
    split
    · exact ih t
    · split
      · rename_i hdir
        exact (FileTree.grown_of_createDir hdir).trans (ih _)
      · exact .refl t

theorem grown_createDirs (p : Path) (t : FileTree) :
    Grown t ((FileAccess.createDirs p : StateM FileTree _) t).2 := by
  rw [FileAccess.createDirs]
  cases p.checkSpelling with
  | error fault => exact .refl t
  | ok u => exact grown_createEach _ t

theorem grown_createParent (what : String) (p : Path) (t : FileTree) :
    Grown t ((createParent what p).runOn t).2 := by
  rw [createParent]
  split
  · exact .refl t
  · rw [Action.runOn_within, Action.runOn_lift]
    exact grown_createDirs _ t

theorem runOn_createParent {what : String} {dir : Path} (h : p.parent? = some dir) :
    (createParent what p).runOn t =
      (((FileAccess.createDirs dir : StateM FileTree _) t).1.mapError fun fault =>
          { contexts := [s!"Failed to create {what}: {dir.text}"], cause := .files fault },
        ((FileAccess.createDirs dir : StateM FileTree _) t).2) := by
  rw [createParent, h]
  show (Action.within _ (Action.lift _ (FileAccess.createDirs dir))).runOn t = _
  rw [Action.runOn_within, Action.runOn_lift]
  cases ((FileAccess.createDirs dir : StateM FileTree _) t).1 <;> rfl

/-- Besides new directories, the only change is that some bytes are in the file of a path. -/
def Writes (p : Path) (bytes : ByteArray) (t t' : FileTree) : Prop :=
  ∃ t₁ place, Grown t t₁ ∧ t₁.resolve p = .ok place ∧ t₁.get? place ≠ some .dir ∧
    t' = t₁.put place (.file bytes)

theorem Writes.of_grown {bytes : ByteArray} {t₀ : FileTree} (h : Writes p bytes t t')
    (hgrown : Grown t₀ t) : Writes p bytes t₀ t' := by
  obtain ⟨t₁, place, hgrown', h⟩ := h
  exact ⟨t₁, place, hgrown.trans hgrown', h⟩

theorem runOn_writeFile (bytes : ByteArray) : (writeFile p bytes).runOn t =
    if p.fileName?.isNone then (.error { cause := .badPath p }, t)
    else (replaced p (FileTree.update (·.replace p bytes) t).1).runOn
      (FileTree.update (·.replace p bytes) t).2 := by
  rw [writeFile]
  cases p.fileName?.isNone <;> rfl

theorem readsOnly_replaced (r : Except ReplaceFault Unit) : ReadsOnly (replaced p r) := by
  match r with
  | .ok () => exact .pure ()
  | .error (.draft path fault) => exact .throw _
  | .error (.target fault) => exact .throw _

theorem runOn_writeFile_eq_ok_iff {bytes : ByteArray} :
    (writeFile p bytes).runOn t = (.ok (), t') ↔
      p.fileName?.isNone = false ∧ t.replace p bytes = .ok t' := by
  rw [runOn_writeFile, FileTree.update]
  cases p.fileName?.isNone with
  | true => exact ⟨nofun, nofun⟩
  | false =>
    rw [if_neg Bool.false_ne_true]
    cases t.replace p bytes with
    | error fault => cases fault <;> exact ⟨nofun, nofun⟩
    | ok t₁ =>
      show (Except.ok (), t₁) = (.ok (), t') ↔ _
      rw [Prod.mk.injEq, Except.ok.injEq t₁]
      exact ⟨fun h => ⟨rfl, h.2⟩, fun h => ⟨rfl, h.2⟩⟩

/-- When the bytes cannot be put where the path leads to, nothing is changed. -/
theorem runOn_writeFile_eq_error {bytes : ByteArray} {e : Failure}
    (h : (writeFile p bytes).runOn t = (.error e, t')) : t' = t := by
  rw [runOn_writeFile, FileTree.update] at h
  split at h
  · cases h
    rfl
  · cases hreplace : t.replace p bytes with
    | ok t₁ =>
      rw [hreplace] at h
      cases h
    | error fault =>
      rw [hreplace] at h
      exact (readsOnly_replaced _).eq_of_runOn h

theorem runOn_writeFile_eq_ok {bytes : ByteArray}
    (h : (writeFile p bytes).runOn t = (.ok (), t')) : Writes p bytes t t' := by
  obtain ⟨place, hplace, hdir, rfl⟩ :=
    FileTree.eq_put_of_replace (runOn_writeFile_eq_ok_iff.1 h).2
  exact ⟨t, place, .refl t, hplace, hdir, rfl⟩

/-- When the directories have been made, at most directories are new, and what comes next begins. -/
theorem runOn_createParent_bind {what : String} {x : Action (StateM FileTree) Unit}
    {r : Except Failure Unit} (h : (createParent what p >>= fun _ => x).runOn t = (r, t')) :
    ∃ t₁, Grown t t₁ ∧ ((∃ e, r = .error e) ∧ t' = t₁ ∨ x.runOn t₁ = (r, t')) := by
  have hgrown := grown_createParent what p t
  rw [Action.runOn_bind] at h
  rcases hparent : (createParent what p).runOn t with ⟨e | _, t₁⟩
  · rw [hparent] at h hgrown
    cases h
    exact ⟨t', hgrown, .inl ⟨⟨e, rfl⟩, rfl⟩⟩
  · rw [hparent] at h hgrown
    exact ⟨t₁, hgrown, .inr h⟩

/-- A file can be written to a path: when its directories have been made, the path leads to a place
where the file is put. -/
structure Writable (p : Path) (t t₀ : FileTree) (place : Place) : Prop where
  name : p.fileName?.isNone = false
  dirs : ∃ dir, p.parent? = some dir ∧
    (FileAccess.createDirs dir : StateM FileTree _) t = (.ok (), t₀)
  replace : ∀ bytes, t₀.replace p bytes = .ok (t₀.put place (.file bytes))

namespace Writable

variable {t₀ : FileTree} {place : Place}

theorem of_resolve (stamp : Nat) {q : Place} (hname : p.fileName?.isNone = false)
    (hdirs : ∃ dir, p.parent? = some dir ∧
      (FileAccess.createDirs dir : StateM FileTree _) t = (.ok (), t₀))
    (hstamp : t₀.stamp = stamp) (hdraft : t₀.resolve (FileAccess.draft stamp p) = .ok q)
    (hplace : t₀.resolve p = .ok place) (hdir : t₀.get? place ≠ some .dir) :
    Writable p t t₀ place :=
  ⟨hname, hdirs, fun _ => FileTree.replace_eq_ok (hstamp ▸ hdraft) hplace hdir⟩

theorem createParent (h : Writable p t t₀ place) (what : String) :
    (Store.createParent what p).runOn t = (.ok (), t₀) := by
  obtain ⟨dir, hparent, hdirs⟩ := h.dirs
  rw [runOn_createParent hparent, hdirs]
  rfl

theorem writeFile (h : Writable p t t₀ place) (bytes : ByteArray) :
    (Store.writeFile p bytes).runOn t₀ = (.ok (), t₀.put place (.file bytes)) :=
  runOn_writeFile_eq_ok_iff.2 ⟨h.name, h.replace bytes⟩

theorem save (h : Writable p t t₀ place) (d : δ) : (Store.save p d).runOn t =
    (.ok (), t₀.put place (.file (Document.print (Document.prune d)).toUTF8)) := by
  rw [Store.save, Action.runOn_bind_of_ok (h.createParent "config directory")]
  exact h.writeFile _

end Writable

/-- Saving makes the directories and then writes the text of the pruned document. -/
theorem exists_grown_of_save {d : δ} (h : (save p d).runOn t = (.ok (), t')) :
    ∃ t₁, Grown t t₁ ∧
      (writeFile p (Document.print (Document.prune d)).toUTF8).runOn t₁ = (.ok (), t') := by
  obtain ⟨t₁, hgrown, ⟨⟨_, heq⟩, -⟩ | hwrite⟩ := runOn_createParent_bind h
  · cases heq
  · exact ⟨t₁, hgrown, hwrite⟩

/-- Saving writes the text of the pruned document. -/
theorem runOn_save_eq_ok {d : δ} (h : (save p d).runOn t = (.ok (), t')) :
    Writes p (Document.print (Document.prune d)).toUTF8 t t' := by
  obtain ⟨t₁, hgrown, hwrite⟩ := exists_grown_of_save h
  exact (runOn_writeFile_eq_ok hwrite).of_grown hgrown

/-- When saving fails, at most directories are new. -/
theorem runOn_save_eq_error {d : δ} {e : Failure} (h : (save p d).runOn t = (.error e, t')) :
    Grown t t' := by
  obtain ⟨t₁, hgrown, ⟨-, rfl⟩ | hwrite⟩ := runOn_createParent_bind h
  · exact hgrown
  · rwa [runOn_writeFile_eq_error hwrite]

/-! ### What is written -/

namespace Writes

variable {bytes : ByteArray}

/-- The bytes are in the file of the path. -/
theorem read_eq (h : Writes p bytes t t') : t'.read p = .ok bytes := by
  obtain ⟨t₁, place, -, hplace, hdir, rfl⟩ := h
  exact FileTree.read_eq_ok_iff.2 ⟨place, FileTree.find?_put hplace hdir⟩

/-- They are at the place that the path names. -/
theorem get?_eq (h : Writes p bytes t t') : t'.get? (t.destination p) = some (.file bytes) := by
  obtain ⟨t₁, place, hgrown, hplace, hdir, rfl⟩ := h
  rw [← hgrown.destination_eq, ← FileTree.eq_destination_of_resolve hplace]
  refine FileTree.get?_put_self ?_
  rintro rfl
  exact hdir rfl

/-- Elsewhere, at most directories are new. -/
theorem besides (h : Writes p bytes t t') : GrownBesides (t.destination p) t t' := by
  obtain ⟨t₁, place, hgrown, hplace, -, rfl⟩ := h
  rw [← hgrown.destination_eq, ← FileTree.eq_destination_of_resolve hplace]
  exact (hgrown.besides place).trans .put

theorem destination_eq (h : Writes p bytes t t') (q : Path) :
    t'.destination q = t.destination q := by
  rw [FileTree.destination, FileTree.destination, h.besides.workingDir]

/-- Directories stay. -/
theorem get?_of_dir (h : Writes p bytes t t') {place : Place} (hplace : t.get? place = some .dir) :
    t'.get? place = some .dir := by
  obtain ⟨t₁, _, hgrown, -, hdir, rfl⟩ := h
  exact FileTree.get?_put_of_dir hdir (hgrown.get?_of_some hplace)

/-- A path that leads somewhere leads there still. -/
theorem resolve_eq (h : Writes p bytes t t') {q : Path} {place : Place}
    (hq : t.resolve q = .ok place) : t'.resolve q = .ok place :=
  FileTree.resolve_of_dirs (fun _ => h.get?_of_dir) h.besides.workingDir hq

/-- What is read from another place is read as before. -/
theorem read_of_ne (h : Writes p bytes t t') {q : Path} {bytes' : ByteArray}
    (hne : t.destination q ≠ t.destination p) (hread : t.read q = .ok bytes') :
    t'.read q = .ok bytes' := by
  obtain ⟨place, hfind⟩ := FileTree.read_eq_ok_iff.1 hread
  obtain ⟨hresolve, hget⟩ := FileTree.find?_eq_some_iff.1 hfind
  have hplace : place ≠ t.destination p := FileTree.eq_destination_of_resolve hresolve ▸ hne
  have hget' : t'.get? place = some (.file bytes') := (h.besides.file_iff hplace bytes').2 hget
  have hfind' := FileTree.find?_eq_some_iff.2 ⟨h.resolve_eq hresolve, hget'⟩
  exact FileTree.read_eq_ok_iff.2 ⟨place, hfind'⟩

/-- What is read from a place can be read from it still. -/
theorem exists_read (h : Writes p bytes t t') {q : Path} {bytes' : ByteArray}
    (hread : t.read q = .ok bytes') : ∃ bytes'', t'.read q = .ok bytes'' := by
  by_cases hq : t.destination q = t.destination p
  · obtain ⟨place, hfind⟩ := FileTree.read_eq_ok_iff.1 hread
    obtain ⟨hresolve, -⟩ := FileTree.find?_eq_some_iff.1 hfind
    have hresolve' := h.resolve_eq hresolve
    rw [FileTree.eq_destination_of_resolve hresolve, hq] at hresolve'
    have hfind' := FileTree.find?_eq_some_iff.2 ⟨hresolve', h.get?_eq⟩
    exact ⟨bytes, FileTree.read_eq_ok_iff.2 ⟨_, hfind'⟩⟩
  · exact ⟨bytes', h.read_of_ne hq hread⟩

/-- All other files are as they were. -/
theorem other_files (h : Writes p bytes t t') :
    ∃ place, t'.find? p = some (place, .file bytes) ∧ place = t.destination p ∧
      ∀ q ≠ place, ∀ bytes', t'.get? q = some (.file bytes') ↔ t.get? q = some (.file bytes') := by
  obtain ⟨place, hplace⟩ := FileTree.read_eq_ok_iff.1 h.read_eq
  have hdestination : place = t.destination p := by
    rw [FileTree.eq_destination_of_resolve (FileTree.find?_eq_some_iff.1 hplace).1,
      h.destination_eq]
  refine ⟨place, hplace, hdestination, fun q hq bytes' => ?_⟩
  exact h.besides.file_iff (hdestination ▸ hq) bytes'

end Writes

/-- What has been written can be written again, while the directories are there. -/
theorem runOn_writeFile_again {bytes : ByteArray} {t₀ t₁ t₂ : FileTree}
    (hwrite : (writeFile p bytes).runOn t₀ = (.ok (), t₁)) (hgrown : Grown t₁ t₂)
    (bytes' : ByteArray) :
    (writeFile p bytes').runOn t₂ = (.ok (), t₂.put (t₀.destination p) (.file bytes')) := by
  obtain ⟨hname, hreplace⟩ := runOn_writeFile_eq_ok_iff.1 hwrite
  have hwrites := runOn_writeFile_eq_ok hwrite
  have hfile : t₂.get? (t₀.destination p) = some (.file bytes) :=
    hgrown.get?_of_some hwrites.get?_eq
  refine runOn_writeFile_eq_ok_iff.2 ⟨hname, FileTree.replace_again hreplace ?_ ?_ ?_ ?_⟩
  · obtain ⟨place, -, hdir, rfl⟩ := FileTree.eq_put_of_replace hreplace
    exact fun q hq => hgrown.get?_of_some (FileTree.get?_put_of_dir hdir hq)
  · exact hgrown.workingDir.trans hwrites.besides.workingDir
  · exact hgrown.stamp.trans hwrites.besides.stamp
  · rw [hfile]
    exact nofun

/-- The text of a document is loaded as the document. -/
theorem load_of_read [Document.Lawful δ] {d : δ} (h : t.read p = .ok (Document.print d).toUTF8)
    (hrange : Document.Lawful.InRange d) : (load p).runOn t = (.ok d, t) :=
  runOn_load_eq_ok.2 ⟨rfl, .inr ⟨Document.print d, h, Document.Lawful.parse_print d hrange⟩⟩

/-- What is saved is loaded again. -/
theorem load_of_writes [Document.Lawful δ] {d : δ} (h : Writes p (Document.print d).toUTF8 t t')
    (hrange : Document.Lawful.InRange d) : (load p).runOn t' = (.ok d, t') :=
  load_of_read h.read_eq hrange

/-! ### Trees with one file -/

/-- A tree whose only file is that of a document. -/
def treeOf (d : δ) : FileTree where
  entries := [(["c.toml"], .file (Document.print d).toUTF8)]
  workingDir := []

theorem load_treeOf [Document.Lawful δ] {d : δ} (hrange : Document.Lawful.InRange d) :
    (load ⟨"c.toml"⟩).runOn (treeOf d) = (.ok d, treeOf d) :=
  load_of_read rfl hrange

theorem writable_treeOf (d : δ) : Writable ⟨"c.toml"⟩ (treeOf d) (treeOf d) ["c.toml"] :=
  .of_resolve 1000 rfl ⟨⟨""⟩, rfl, rfl⟩ rfl rfl rfl nofun

end FleetConfig.Store
