import FleetConfig.Proofs.Exporting.Running

/-!
# Exports that fail

An export that fails brings no new file about and leaves every file as it was, save perhaps the one
at the place of the portable context. That file is lost when it could not be read before the export
because a directory on the way was missing: the export made the directory, wrote over the file, and
took for new what it had to take back.

## Main results

* `Exporting.restore_apply` — putting back what was written over does not fail.
* `Exporting.failed_export_keeps_files` — what a failed export leaves behind.
* `Exporting.sameFiles_of_forward` — a failed export to a path without `..` changes no file.
* `Exporting.detour_loses_file` — a failed export that loses a file.
-/

namespace FleetConfig.Exporting

open FileTree (Grown GrownBesides SameFiles)
open Store (Writable writeFile)

variable {locs : Locations} {r : Request} {t t' t₀ t₁ t₂ : FileTree} {p : Path}
  {bytes previous : ByteArray} {place : Place} {e : Failure}

/-! ### Putting back -/

/-- What has been written can be removed. -/
theorem remove_again (hwrite : (writeFile p bytes).runOn t₀ = (.ok (), t₁))
    (hgrown : Grown t₁ t₂) : t₂.remove p = .ok (t₂.erase (t₀.destination p)) := by
  have hwrites := Store.runOn_writeFile_eq_ok hwrite
  obtain ⟨place, hplace⟩ := FileTree.read_eq_ok_iff.1 hwrites.read_eq
  obtain ⟨hresolve, -⟩ := FileTree.find?_eq_some_iff.1 hplace
  have hdestination : place = t₀.destination p := by
    rw [FileTree.eq_destination_of_resolve hresolve, hwrites.destination_eq]
  subst hdestination
  exact FileTree.remove_eq_ok (hgrown.resolve_eq hresolve) (hgrown.get?_of_some hwrites.get?_eq)

/-- A file that was there before is put back, and one that was not is removed. -/
theorem restore_apply (hwrite : (writeFile p bytes).runOn t₀ = (.ok (), t₁))
    (hgrown : Grown t₁ t₂) (before : Except FileFault ByteArray) :
    ((restore p before : StateM FileTree Unit) t₂).2 =
      match before with
      | .ok previous => t₂.put (t₀.destination p) (.file previous)
      | .error _ => t₂.erase (t₀.destination p) := by
  cases before with
  | ok previous => exact congrArg Prod.snd (Store.runOn_writeFile_again hwrite hgrown previous)
  | error fault =>
    show (FileTree.update (·.remove p) t₂).2 = _
    rw [FileTree.update, remove_again hwrite hgrown]

/-- Where a file is put back with the bytes that it had, at most directories are new. -/
theorem grown_put_of_read (hbesides : GrownBesides (t.destination p) t t₂)
    (hroot : t.destination p ≠ []) (hread : t.read p = .ok previous) :
    Grown t (t₂.put (t.destination p) (.file previous)) := by
  obtain ⟨place, hfind⟩ := FileTree.read_eq_ok_iff.1 hread
  obtain ⟨hresolve, hget⟩ := FileTree.find?_eq_some_iff.1 hfind
  obtain rfl := FileTree.eq_destination_of_resolve hresolve
  exact (hbesides.trans .put).grown ((FileTree.get?_put_self hroot).trans hget.symm)

/-- After a file has been written over and put back, at most directories are new, unless the path
made a detour. -/
theorem grown_of_restore (hgrown₀ : Grown t t₀)
    (hwrite : (writeFile p bytes).runOn t₀ = (.ok (), t₁)) (hgrown : Grown t₁ t₂)
    (h : t' = ((restore p (t.read p) : StateM FileTree Unit) t₂).2) :
    Grown t t' ∨ t.Detours p ∧ GrownBesides (t.destination p) t t' ∧
      t'.get? (t.destination p) = none := by
  have hwrites := Store.runOn_writeFile_eq_ok hwrite
  obtain ⟨place, hplace, hdir, -⟩ :=
    FileTree.eq_put_of_replace (Store.runOn_writeFile_eq_ok_iff.1 hwrite).2
  have hroot : place ≠ [] := by
    rintro rfl
    exact hdir rfl
  have hunread : ∀ bytes fault, t.get? place = some (.file bytes) → t.read p = .error fault →
      t.Detours p := fun _ _ => FileTree.detours_of_read_eq_error hgrown₀ hplace
  rw [restore_apply hwrite hgrown, ← FileTree.eq_destination_of_resolve hplace] at h
  obtain rfl := FileTree.eq_destination_of_resolve hplace
  have hbesides := ((hgrown₀.besides _).trans hwrites.besides).trans (hgrown.besides _)
  rw [hgrown₀.destination_eq] at h hdir hroot hbesides hunread
  cases hread : t.read p with
  | ok previous =>
    rw [hread] at h
    subst h
    exact .inl (grown_put_of_read hbesides hroot hread)
  | error fault =>
    rw [hread] at h
    subst h
    have hgone := FileTree.get?_erase_self (t := t₂) hroot
    have hbesides := hbesides.trans (.erase (t := t₂))
    rcases hget : t.get? (t.destination p) with _ | ⟨_ | bytes'⟩
    · exact .inl (hbesides.grown (hgone.trans hget.symm))
    · exact absurd (hgrown₀.get?_of_some hget) hdir
    · exact .inr ⟨hunread bytes' fault hget hread, hbesides, hgone⟩

/-! ### Failing -/

/-- When an export fails, at most directories are new; or the path of the portable context made a
detour, and the file at its end is gone. -/
theorem runOn_run_eq_error (h : (run locs r).runOn t = (.error e, t')) :
    Grown t t' ∨ t.Detours r.contextOutput ∧
      GrownBesides (t.destination r.contextOutput) t t' ∧
      t'.get? (t.destination r.contextOutput) = none := by
  rcases runOn_run_cases locs r t with ⟨_, hrefused⟩ | ⟨k, a, rendered, hready⟩
  · cases hrefused.symm.trans h
    exact .inl (.refl t)
  · rw [hready.runOn_run] at h
    rcases hwrite : (writeBoth r a.context rendered).runOn t with ⟨e' | ⟨⟩, t''⟩ <;>
      rw [hwrite] at h <;> cases h
    rcases runOn_writeBoth_eq_error hwrite with ⟨_, hsave⟩ | ⟨t₁, t₂, hsave, hcontract, hrestore⟩
    · exact .inl (Store.runOn_save_eq_error hsave)
    · obtain ⟨t₀, hgrown₀, hwritten⟩ := Store.exists_grown_of_save hsave
      exact grown_of_restore hgrown₀ hwritten (grown_of_writeContract hcontract) hrestore

/-- When an export fails, no file is new, and no file elsewhere than at the place of the portable
context is changed. If the path of the portable context makes no detour, every file is as it was,
and at most directories are new. -/
theorem failed_export_keeps_files (locs : Locations) (r : Request) (t t' : FileTree) (e : Failure)
    (h : (run locs r).runOn t = (.error e, t')) :
    (¬t.Detours r.contextOutput → Grown t t' ∧ SameFiles t t') ∧
      (∀ place bytes, t'.get? place = some (.file bytes) → t.get? place = some (.file bytes)) ∧
      ∀ place ≠ t.destination r.contextOutput, ∀ bytes,
        t'.get? place = some (.file bytes) ↔ t.get? place = some (.file bytes) := by
  rcases runOn_run_eq_error h with hgrown | ⟨hdetours, hbesides, hgone⟩
  · exact ⟨fun _ => ⟨hgrown, hgrown.sameFiles⟩, fun place bytes => (hgrown.sameFiles _ _).1,
      fun place _ bytes => hgrown.sameFiles _ _⟩
  · refine ⟨fun hdirect => absurd hdetours hdirect, fun place bytes hfile => ?_,
      fun place hplace bytes => hbesides.file_iff hplace bytes⟩
    by_cases hplace : place = t.destination r.contextOutput
    · rw [hplace, hgone] at hfile
      cases hfile
    · exact (hbesides.file_iff hplace bytes).1 hfile

/-- When the path of the portable context does not go back, a failed export changes no file. -/
theorem sameFiles_of_forward (hdirs : t.InDirs) (hworking : t.get? t.workingDir = some .dir)
    (hforward : ∀ name ∈ r.contextOutput.segments, name ≠ ['.', '.'])
    (h : (run locs r).runOn t = (.error e, t')) : SameFiles t t' := by
  rcases runOn_run_eq_error h with hgrown | ⟨hdetours, -⟩
  · exact hgrown.sameFiles
  · exact absurd hdetours (FileTree.not_detours hdirs hworking hforward)

/-! ### A file that stands where a directory should be -/

/-- A portable context is taken back if the directory of the environment contract cannot be made. -/
theorem Ready.runOn_run_takenBack {dir : Path} {fault : FileFault} {k : Contract}
    {a : Export.Artifacts} {rendered : String} (h : Ready locs r t k a rendered)
    (hsave : (Store.save r.contextOutput a.context).runOn t = (.ok (), t₁))
    (hparent : r.contractOutput.parent? = some dir)
    (hdirs : (FileAccess.createDirs dir : StateM FileTree _) t₁ = (.error fault, t₂)) :
    ∃ e, (run locs r).runOn t = (.error e,
      ((restore r.contextOutput (t.read r.contextOutput) : StateM FileTree Unit) t₂).2) := by
  obtain ⟨e, hcontract⟩ : ∃ e,
      (writeContract r.contractOutput rendered).runOn t₁ = (.error e, t₂) := by
    rw [writeContract, Action.runOn_bind, Store.runOn_createParent hparent, hdirs]
    exact ⟨_, rfl⟩
  refine ⟨e, ?_⟩
  rw [h.runOn_run, runOn_writeBoth, hsave]
  dsimp only
  rw [hcontract]
  rfl

/-- The contract, a file to be kept, and a file that stands where a directory should be. -/
def blockedTree (contract : ByteArray) : FileTree where
  entries := [(["c.toml"], .file contract), (["kept"], .file "1".toUTF8),
    (["blocked"], .file ⟨#[]⟩)]
  workingDir := []

/-- The portable context takes the place of a file that is there, and is taken back. -/
theorem failed_export_keeps_files_kept :
    ∃ e t', (run ⟨⟨"c.toml"⟩, ⟨"x.toml"⟩⟩ ⟨⟨"kept"⟩, ⟨"blocked/.env"⟩, .dotenv⟩).runOn
        (blockedTree contractText.toUTF8) = (.error e, t') ∧
      t'.get? ["kept"] = some (.file "1".toUTF8) := by
  have hready := ready_contractText (t := blockedTree contractText.toUTF8) (p := ⟨"kept"⟩)
    (q := ⟨"blocked/.env"⟩) rfl rfl rfl rfl rfl
  have hwritable : ∀ b, Writable ⟨"kept"⟩ (blockedTree b) (blockedTree b) ["kept"] :=
    fun b => .of_resolve 1000 rfl ⟨⟨""⟩, rfl, rfl⟩ rfl rfl rfl nofun
  have hblocked : ∀ b b' : ByteArray, (FileAccess.createDirs ⟨"blocked"⟩ : StateM FileTree _)
      ((blockedTree b).put ["kept"] (.file b')) =
        (.error .present, (blockedTree b).put ["kept"] (.file b')) := fun b b' => rfl
  obtain ⟨e, he⟩ := hready.runOn_run_takenBack ((hwritable _).save _) rfl (hblocked _ _)
  have hdirect : ¬(blockedTree contractText.toUTF8).Detours ⟨"kept"⟩ := fun h =>
    nomatch (show Except.ok ["kept"] = Except.error _ from h.1)
  have hkept := ((failed_export_keeps_files _ _ _ _ _ he).1 hdirect).2
  exact ⟨e, _, he, (hkept ["kept"] _).2 rfl⟩

/-- The same file is lost if the path to it goes through a directory that is not there yet. -/
theorem detour_loses_file :
    ∃ e t', (run ⟨⟨"c.toml"⟩, ⟨"x.toml"⟩⟩ ⟨⟨"new/../kept"⟩, ⟨"blocked/.env"⟩, .dotenv⟩).runOn
        (blockedTree contractText.toUTF8) = (.error e, t') ∧
      (blockedTree contractText.toUTF8).get? ["kept"] = some (.file "1".toUTF8) ∧
      t'.get? ["kept"] = none := by
  have hready := ready_contractText (t := blockedTree contractText.toUTF8) (p := ⟨"new/../kept"⟩)
    (q := ⟨"blocked/.env"⟩) rfl rfl rfl rfl rfl
  have hwritable : ∀ b, Writable ⟨"new/../kept"⟩ (blockedTree b) ((blockedTree b).put ["new"] .dir)
      ["kept"] := fun b => .of_resolve 1000 rfl ⟨⟨"new/.."⟩, rfl, rfl⟩ rfl rfl rfl nofun
  have hblocked : ∀ b b' : ByteArray, (FileAccess.createDirs ⟨"blocked"⟩ : StateM FileTree _)
      (((blockedTree b).put ["new"] .dir).put ["kept"] (.file b')) =
        (.error .present, ((blockedTree b).put ["new"] .dir).put ["kept"] (.file b')) :=
    fun b b' => rfl
  have hgone : ∀ b b' : ByteArray, ((restore ⟨"new/../kept"⟩
      ((blockedTree b).read ⟨"new/../kept"⟩) : StateM FileTree Unit)
        (((blockedTree b).put ["new"] .dir).put ["kept"] (.file b'))).2.get? ["kept"] = none :=
    fun b b' => rfl
  obtain ⟨e, he⟩ := hready.runOn_run_takenBack ((hwritable _).save _) rfl (hblocked _ _)
  exact ⟨e, _, he, rfl, hgone _ _⟩

end FleetConfig.Exporting
