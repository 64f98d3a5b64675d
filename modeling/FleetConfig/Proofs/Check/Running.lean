import FleetConfig.Check
import FleetConfig.Proofs.Contract.Gathering
import FleetConfig.Proofs.Plugin.Validity
import FleetConfig.Proofs.Store.Comparing
import FleetConfig.Proofs.Store.Saving

/-!
# Running checks

All checks that are asked for are run, and the error that reports what they find is split into its
leaves on the way. None of them is lost: a contract is let through exactly if each check passes.
Checks change no file, and they read none: it matters which directories and files are there, but not
what is in them.

## Main definitions

* `Check.Passes` — a check finds nothing wrong.
* `Catalogue.HasPrograms` — the program of each plugin is where the catalogue says.
* `Check.checked` — what is done with a contract when it has been loaded and narrowed.

## Main results

* `Check.passes_schema_iff`, `Check.passes_programs_iff` — what the checks of plugins look for.
* `Check.readsOnly_loadContract` — checks change nothing.
* `Check.runOn_checked_eq_ok` — a contract is let through if it passes all checks.
* `Check.blind_checked` — what is in the files does not matter.
-/

namespace FleetConfig

open FleetConfig.Action (ReadsOnly)
open Plugin (Category)

variable {t t' : FileTree} {k k' : Contract} {cat : Catalogue} {c : Check} {checks : List Check}

/-! ### Programs -/

/-- A path leads to a directory. -/
def FileTree.IsDir (t : FileTree) (p : Path) : Prop := ∃ place, t.find? p = some (place, .dir)

/-- A path leads to a file. -/
def FileTree.IsFile (t : FileTree) (p : Path) : Prop :=
  ∃ place bytes, t.find? p = some (place, .file bytes)

theorem FileTree.isFile_iff {p : Path} :
    ((FileAccess.isFile p : StateM FileTree Bool) t).1 = true ↔ t.IsFile p := by
  show (((t.find? p).map Prod.fst).isSome && !(t.find? p).any fun e => e.2 = .dir) = true ↔ _
  rw [IsFile]
  rcases t.find? p with _ | ⟨place, _ | bytes⟩
  · exact ⟨nofun, nofun⟩
  · exact ⟨nofun, nofun⟩
  · exact ⟨fun _ => ⟨place, bytes, rfl⟩, fun _ => rfl⟩

/-- The program of each plugin is a file of its name in the directory of the programs. Without
plugins there need be no directory. -/
def Catalogue.HasPrograms (t : FileTree) : Catalogue → Prop :=
  Catalogue.Each fun dir ps => ∀ p ∈ ps, ∃ d ∈ dir,
    Text.isBlankText d = false ∧ t.IsDir ⟨d⟩ ∧ t.IsFile (Path.join ⟨d⟩ p.name)

namespace Check

/-- A plugin of a category is one of all plugins under that category. -/
theorem mem_allPlugins_iff {e : Category × Plugin} :
    e ∈ allPlugins cat ↔ e.2 ∈ cat.plugins e.1 := by
  rw [allPlugins, List.mem_flatMap]
  constructor
  · rintro ⟨e', he', he⟩
    obtain ⟨p, hp, rfl⟩ := List.mem_map.1 he
    obtain ⟨c, -, rfl⟩ := List.mem_map.1 (List.mem_filter.1 he').1
    exact hp
  · intro he
    refine ⟨(e.1, cat.plugins e.1), List.mem_filter.2 ⟨List.mem_map.2 ⟨e.1, e.1.mem_all, rfl⟩, ?_⟩,
      List.mem_map.2 ⟨e.2, he, rfl⟩⟩
    cases hps : cat.plugins e.1 with
    | nil => exact absurd (hps ▸ he) List.not_mem_nil
    | cons => rfl

theorem readsOnly_withoutProgram (dir : Path) (es : List (Category × Plugin)) (t : FileTree) :
    ((withoutProgram dir es : StateM FileTree _) t).2 = t := by
  induction es with
  | nil => rfl
  | cons e es ih =>
    show ((withoutProgram dir es : StateM FileTree _) t).2 = t
    exact ih

theorem withoutProgram_eq_nil_iff {dir : Path} {es : List (Category × Plugin)} :
    ((withoutProgram dir es : StateM FileTree _) t).1 = [] ↔
      ∀ e ∈ es, t.IsFile (dir.join e.2.name) := by
  induction es with
  | nil => exact ⟨fun _ => nofun, fun _ => rfl⟩
  | cons e es ih =>
    show (if ((FileAccess.isFile (dir.join e.2.name) : StateM FileTree Bool) t).1 = true
      then ((withoutProgram dir es : StateM FileTree _) t).1
      else e :: ((withoutProgram dir es : StateM FileTree _) t).1) = [] ↔ _
    rw [List.forall_mem_cons, ← FileTree.isFile_iff, ← ih]
    split
    · rename_i hfile
      exact (and_iff_right hfile).symm
    · rename_i hfile
      exact ⟨nofun, fun h => absurd h.1 hfile⟩

theorem readsOnly_checkPrograms (cat : Catalogue) (t : FileTree) :
    ((checkPrograms cat : StateM FileTree _) t).2 = t := by
  rw [checkPrograms]
  split
  · rfl
  · cases cat.dir.filter (!Text.isBlankText ·) with
    | none => rfl
    | some dir =>
      show ((if ((t.find? ⟨dir⟩).any fun e => e.2 = .dir) = true then _ else _ :
        StateM FileTree _) t).2 = t
      split
      · exact readsOnly_withoutProgram ⟨dir⟩ _ t
      · rfl

/-- What the check of a catalogue's programs comes to on a tree. -/
inductive Search (t : FileTree) (cat : Catalogue) : Except ConfigError Unit → Prop where
  /-- Nothing is looked for. -/
  | noPlugins (h : ∀ c, cat.plugins c = []) : Search t cat (.ok ())
  /-- A plugin is there, and no directory is named. -/
  | noDir {c p} (hp : p ∈ cat.plugins c) (h : ∀ d ∈ cat.dir, Text.isBlankText d = true) :
    Search t cat (.error (.missingArgument "plugins.dir (required to locate plugin binaries)"))
  /-- A plugin is there, and what is named is no directory. -/
  | notADir {c p d} (hp : p ∈ cat.plugins c) (hd : d ∈ cat.dir) (h : ¬t.IsDir ⟨d⟩) :
    Search t cat (.error (.invalidValue "plugins.dir" s!"'{d}' is not an existing directory"))
  /-- The programs are looked for in a directory. -/
  | searched {d} (hd : d ∈ cat.dir) (hblank : Text.isBlankText d = false) (h : t.IsDir ⟨d⟩) :
    Search t cat (ConfigError.collect
      (((withoutProgram ⟨d⟩ (allPlugins cat) : StateM FileTree _) t).1.map (programMissing d)))

theorem search_checkPrograms (cat : Catalogue) (t : FileTree) :
    Search t cat ((checkPrograms cat : StateM FileTree _) t).1 := by
  rw [checkPrograms]
  split
  · rename_i hnone
    exact .noPlugins (Catalogue.distinctCount_eq_zero_iff.1 hnone)
  · rename_i hsome
    obtain ⟨c, hc⟩ := not_forall.1 (mt Catalogue.distinctCount_eq_zero_iff.2 hsome)
    obtain ⟨p, hp⟩ := List.exists_mem_of_ne_nil _ hc
    cases hdir : cat.dir.filter (!Text.isBlankText ·) with
    | none =>
      refine .noDir hp fun d hd => ?_
      simpa using Option.filter_eq_none_iff.1 hdir d hd
    | some d =>
      obtain ⟨hd, hblank⟩ := Option.filter_eq_some_iff.1 hdir
      show Search t cat ((if ((t.find? ⟨d⟩).any fun e => e.2 = .dir) = true then _ else _ :
        StateM FileTree _) t).1
      split
      · rename_i hisDir
        exact .searched hd (by simpa using hblank) (Store.isDir_iff.1 hisDir)
      · rename_i hisDir
        exact .notADir hp hd (mt Store.isDir_iff.2 hisDir)

/-- The programs are there exactly if the search finds nothing missing. -/
theorem checkPrograms_eq_ok_iff :
    ((checkPrograms cat : StateM FileTree _) t).1 = .ok () ↔ cat.HasPrograms t := by
  have hsearch := search_checkPrograms cat t
  generalize ((checkPrograms cat : StateM FileTree _) t).1 = r at hsearch ⊢
  cases hsearch with
  | noPlugins h => exact iff_of_true rfl fun c p hp => absurd (h c ▸ hp) List.not_mem_nil
  | noDir hp h =>
    refine iff_of_false nofun fun hprograms => ?_
    obtain ⟨d, hd, hblank, -⟩ := hprograms _ _ hp
    cases (h d hd).symm.trans hblank
  | notADir hp hd h =>
    refine iff_of_false nofun fun hprograms => h ?_
    obtain ⟨d, hd', -, hdir, -⟩ := hprograms _ _ hp
    cases Option.mem_unique hd hd'
    exact hdir
  | searched hd hblank h =>
    rw [ConfigError.collect_map_eq_ok_iff, withoutProgram_eq_nil_iff]
    constructor
    · intro hfiles c p hp
      exact ⟨_, hd, hblank, h, hfiles (c, p) (mem_allPlugins_iff.2 hp)⟩
    · intro hprograms e he
      obtain ⟨d, hd', -, -, hfile⟩ := hprograms e.1 e.2 (mem_allPlugins_iff.1 he)
      cases Option.mem_unique hd hd'
      exact hfile

/-! ### Checks that pass -/

/-- A check finds nothing wrong. -/
def Passes (t : FileTree) (k : Contract) (c : Check) : Prop :=
  ((c.run k : StateM FileTree _) t).1 = .ok ()

theorem passes_schema_iff : Passes t k .schema ↔ k.Valid := Contract.validate_eq_ok_iff

theorem passes_programs_iff : Passes t k .programs ↔ k.catalogue.HasPrograms t := by
  rw [Passes, run, programsOf, Contract.catalogue]
  cases k.plugins with
  | none =>
    refine iff_of_true rfl fun c p hp => ?_
    cases hp
  | some cat => exact checkPrograms_eq_ok_iff

theorem readsOnly_run (k : Contract) (c : Check) (t : FileTree) :
    ((c.run k : StateM FileTree _) t).2 = t := by
  cases c with
  | schema => rfl
  | daemon => rfl
  | programs =>
    rw [run, programsOf]
    cases k.plugins with
    | none => rfl
    | some cat => exact readsOnly_checkPrograms cat t

theorem checkPrograms_eq_ok_of_leaves
    (h : ConfigError.leavesOfResult ((checkPrograms cat : StateM FileTree _) t).1 = []) :
    ((checkPrograms cat : StateM FileTree _) t).1 = .ok () := by
  have hsearch := search_checkPrograms cat t
  generalize ((checkPrograms cat : StateM FileTree _) t).1 = r at hsearch h ⊢
  cases hsearch with
  | noPlugins => rfl
  | noDir => cases h
  | notADir => cases h
  | searched => exact eq_ok_of_leavesOfResult_collect (fun _ => rfl) h

/-- The error of a check that fails has leaves. -/
theorem leavesOfResult_run_eq_nil_iff :
    ConfigError.leavesOfResult ((c.run k : StateM FileTree _) t).1 = [] ↔ Passes t k c := by
  refine ⟨fun h => ?_, fun h => by rw [h]; rfl⟩
  -- A composite of nothing would be a failure without leaves; no check fails with one.
  cases c with
  | schema => exact eq_ok_of_leavesOfResult_collect Contract.isLeaf_toError h
  | daemon =>
    rw [Passes, run] at *
    cases hd : k.daemon with
    | none => rfl
    | some d =>
      rw [hd] at h
      exact eq_ok_of_leavesOfResult_collect Daemon.isLeaf_toError h
  | programs =>
    rw [Passes, run, programsOf] at *
    cases hcat : k.plugins with
    | none => rfl
    | some cat =>
      rw [hcat] at h
      exact checkPrograms_eq_ok_of_leaves h

/-! ### All checks of a contract -/

theorem readsOnly_findings (k : Contract) (checks : List Check) (t : FileTree) :
    ((findings k checks : StateM FileTree _) t).2 = t := by
  induction checks generalizing t with
  | nil => rfl
  | cons c cs ih =>
    show ((findings k cs : StateM FileTree _) ((c.run k : StateM FileTree _) t).2).2 = t
    rw [readsOnly_run]
    exact ih t

theorem findings_eq_nil_iff :
    ((findings k checks : StateM FileTree _) t).1 = [] ↔ ∀ c ∈ checks, Passes t k c := by
  induction checks with
  | nil => exact ⟨fun _ => nofun, fun _ => rfl⟩
  | cons c cs ih =>
    show ConfigError.leavesOfResult ((c.run k : StateM FileTree _) t).1 ++
      ((findings k cs : StateM FileTree _) ((c.run k : StateM FileTree _) t).2).1 = [] ↔ _
    rw [readsOnly_run, List.append_eq_nil_iff, List.forall_mem_cons, ih,
      leavesOfResult_run_eq_nil_iff]

theorem readsOnly_loadContract (p : Path) (narrow : Contract → Contract) (checks : List Check) :
    ReadsOnly (loadContract p narrow checks) :=
  .bind Store.readsOnly_load fun _ => .bind (.liftM (readsOnly_findings _ _)) fun _ =>
    .bind (.ofExcept _) fun _ => .pure _

/-- A contract that was loaded and narrowed is given out if the checks find nothing. -/
def checked (k : Contract) (checks : List Check) : Action (StateM FileTree) Contract := do
  let errors ← liftM (findings k (distinct checks) : StateM FileTree _)
  Action.ofExcept (ConfigError.collect errors)
  return k

theorem loadContract_eq_bind (p : Path) (narrow : Contract → Contract) (checks : List Check) :
    loadContract p narrow checks = Store.load p >>= fun k => checked (narrow k) checks :=
  rfl

/-- A contract is let through if it passes all checks, and nothing changes. -/
theorem runOn_checked_eq_ok : (checked k checks).runOn t = (.ok k', t') ↔
    t' = t ∧ k' = k ∧ ∀ c ∈ checks, Passes t k c := by
  have hnil : ((findings k (distinct checks) : StateM FileTree _) t).1 = [] ↔
      ∀ c ∈ checks, Passes t k c := by
    simp only [findings_eq_nil_iff, distinct, List.mem_eraseDups]
  rw [checked, Action.runOn_bind_of_ok (Action.runOn_liftM _ t), readsOnly_findings, ← hnil]
  generalize ((findings k (distinct checks) : StateM FileTree _) t).1 = errors
  cases errors with
  | nil =>
    show (Except.ok k, t) = (.ok k', t') ↔ _
    rw [Prod.mk.injEq, Except.ok.injEq, and_iff_left rfl, and_comm, @eq_comm _ k, @eq_comm _ t]
  | cons => exact ⟨nofun, fun h => nomatch h.2.2⟩

/-! ### What is in the files -/

theorem blind_withoutProgram (dir : Path) (es : List (Category × Plugin)) :
    FileTree.Blind (withoutProgram dir es) := by
  induction es with
  | nil => exact .pure _
  | cons e es ih => exact .bind (FileTree.blind_isFile _) fun _ => .bind ih fun _ => .pure _

theorem blind_checkPrograms (cat : Catalogue) : FileTree.Blind (checkPrograms cat) := by
  rw [checkPrograms]
  split
  · exact .pure _
  · cases cat.dir.filter (!Text.isBlankText ·) with
    | none => exact .pure _
    | some dir =>
      refine .bind (FileTree.blind_isDir _) fun isThere => ?_
      cases isThere
      · exact .pure _
      · exact .bind (blind_withoutProgram _ _) fun _ => .pure _

theorem blind_run (k : Contract) (c : Check) : FileTree.Blind (c.run k) := by
  cases c with
  | schema => exact .pure _
  | daemon => exact .pure _
  | programs =>
    rw [run, programsOf]
    cases k.plugins with
    | none => exact .pure _
    | some cat => exact blind_checkPrograms cat

theorem blind_findings (k : Contract) (checks : List Check) :
    FileTree.Blind (findings k checks) := by
  induction checks with
  | nil => exact .pure _
  | cons c cs ih => exact .bind (blind_run k c) fun _ => .bind ih fun _ => .pure _

/-- Checks give the same result on trees that differ in the bytes of files only. -/
theorem blind_checked (k : Contract) (checks : List Check) : (checked k checks).Blind :=
  .bind (.liftM (blind_findings _ _)) fun _ => .bind (.ofExcept _) fun _ => .pure _

end Check

end FleetConfig
