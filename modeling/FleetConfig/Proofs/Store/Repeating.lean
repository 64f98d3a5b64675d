import FleetConfig.Proofs.Store.Succeeding

/-!
# Edits that are made again

Where a document has been saved, the directories are there and another one can be saved. What an
edit has made is loaded again, up to pruning, when the edit is made a second time. If the change
then makes nothing new, the second edit succeeds and writes nothing.

## Main definitions

* `Store.Settled` — of a document, a change makes nothing new.

## Main results

* `Store.exists_save_again`, `Store.exists_runOn_modify_again` — what can be saved once can be saved
  again.
* `Store.Modified.runOn_again` — a modification that is made again.
* `Store.Edits.runOn_again` — an edit that is made again.
-/

namespace FleetConfig.Store

open FileTree (Grown)

variable {δ α β : Type} [Document δ] {p : Path} {f : δ → Except ConfigError (β × δ)} {b b' : β}
  {d d' d₁ d₂ : δ} {t t' t₀ t₁ : FileTree} {Quiet : β → Prop}

/-! ### Directories that are there -/

theorem find?_of_createDir (h : t.createDir p = .ok t') :
    ∃ place, t'.find? p = some (place, .dir) := by
  obtain ⟨place, hplace, h⟩ := bind_eq_ok.1 h
  split at h
  · cases h
  · rename_i hnone
    cases h
    exact ⟨place, FileTree.find?_put hplace (by rw [hnone]; exact nofun)⟩

/-- A path that leads to a directory leads there while all directories stay. -/
theorem find?_of_dirs (hdirs : ∀ q, t.get? q = some .dir → t'.get? q = some .dir)
    (hworking : t'.workingDir = t.workingDir) (h : ∃ place, t.find? p = some (place, .dir)) :
    ∃ place, t'.find? p = some (place, .dir) := by
  obtain ⟨place, hfind⟩ := h
  obtain ⟨hresolve, hget⟩ := FileTree.find?_eq_some_iff.1 hfind
  have hresolve' := FileTree.resolve_of_dirs hdirs hworking hresolve
  exact ⟨place, FileTree.find?_eq_some_iff.2 ⟨hresolve', hdirs place hget⟩⟩

/-- Directories that have been created are there. -/
theorem find?_of_createEach {ps : List Path}
    (h : (FileAccess.createEach ps : StateM FileTree _) t = (.ok (), t')) :
    ∀ p ∈ ps, ∃ place, t'.find? p = some (place, .dir) := by
  induction ps generalizing t with
  | nil => exact nofun
  | cons p ps ih =>
    have hkept : ∀ t₁, (FileAccess.createEach ps : StateM FileTree _) t₁ = (.ok (), t') →
        (∃ place, t₁.find? p = some (place, .dir)) → ∃ place, t'.find? p = some (place, .dir) := by
      intro t₁ h₁ hp
      have hgrown := grown_createEach ps t₁
      rw [h₁] at hgrown
      exact find?_of_dirs (fun _ => hgrown.get?_of_some) hgrown.workingDir hp
    rw [createEach_cons] at h
    split at h
    · rename_i hdir
      exact List.forall_mem_cons.2 ⟨hkept t h (isDir_iff.1 hdir), ih h⟩
    · split at h
      · rename_i t₁ hcreate
        exact List.forall_mem_cons.2 ⟨hkept t₁ h (find?_of_createDir hcreate), ih h⟩
      · cases h

/-- Directories that are there need not be created. -/
theorem createEach_of_find? {ps : List Path}
    (h : ∀ p ∈ ps, ∃ place, t.find? p = some (place, .dir)) :
    (FileAccess.createEach ps : StateM FileTree _) t = (.ok (), t) := by
  induction ps with
  | nil => rfl
  | cons p ps ih =>
    obtain ⟨hp, hps⟩ := List.forall_mem_cons.1 h
    rw [createEach_cons, if_pos (isDir_iff.2 hp), ih hps]

/-- When the directories of a file have been made, nothing is left to be made while they stay. -/
theorem runOn_createParent_again {what : String}
    (h : (createParent what p).runOn t = (.ok (), t₀))
    (hdirs : ∀ q, t₀.get? q = some .dir → t'.get? q = some .dir)
    (hworking : t'.workingDir = t₀.workingDir) :
    (createParent what p).runOn t' = (.ok (), t') := by
  cases hparent : p.parent? with
  | none =>
    rw [createParent, hparent]
    rfl
  | some dir =>
    rw [runOn_createParent hparent, FileAccess.createDirs] at h ⊢
    cases hspelling : dir.checkSpelling with
    | error fault =>
      rw [hspelling] at h
      cases h
    | ok u =>
      rw [hspelling] at h
      obtain ⟨hok, rfl⟩ := Prod.mk.inj h
      have hmade := find?_of_createEach (Prod.ext (mapError_eq_ok.1 hok) rfl)
      have hthere := createEach_of_find? fun q hq => find?_of_dirs hdirs hworking (hmade q hq)
      simp only [hthere]
      rfl

/-! ### Saving again -/

/-- Where a document has been saved, another one can be saved. -/
theorem exists_save_again (h : (save p d).runOn t = (.ok (), t')) (d' : δ) :
    ∃ t'', (save p d').runOn t' = (.ok (), t'') := by
  obtain ⟨_, t₀, hparent, hwrite⟩ := Action.runOn_bind_eq_ok.1 h
  have hwrites := runOn_writeFile_eq_ok hwrite
  have hagain := runOn_createParent_again hparent (fun _ => hwrites.get?_of_dir)
    hwrites.besides.workingDir
  rw [save, Action.runOn_bind_of_ok hagain]
  exact ⟨_, runOn_writeFile_again hwrite (.refl t') _⟩

/-- Where a modification has succeeded, it succeeds again unless its change is refused then. -/
theorem exists_runOn_modify_again (h : (modify p f).runOn t = (.ok b, t'))
    (hload : (load p).runOn t' = (.ok d₁, t')) (hf : f d₁ = .ok (b', d₂)) :
    ∃ t'', (modify p f).runOn t' = (.ok b', t'') := by
  rcases runOn_modify_cases h with ⟨_, -, hr, -⟩ | ⟨d, hload₀, ⟨_, -, hr, -⟩ | ⟨b₁, d', hmade,
    ⟨-, hr, rfl⟩ | ⟨-, ⟨hsave, -⟩ | ⟨_, _, -, hr⟩⟩⟩⟩
  · cases hr
  · cases hr
  · -- Nothing was saved, so this is the same modification of the same file.
    cases hload₀.symm.trans hload
    cases hmade.symm.trans hf
    cases hr
    exact ⟨_, h⟩
  · rw [runOn_modify, hload]
    simp only [hf]
    split
    · exact ⟨_, rfl⟩
    · obtain ⟨t'', hagain⟩ := exists_save_again hsave d₂
      rw [hagain]
      exact ⟨_, rfl⟩
  · cases hr

/-! ### Changes that settle -/

/-- Of a document, and of all that are the same when pruned, a change makes nothing new, and it
gives a result of a kind. -/
def Settled (Quiet : β → Prop) (f : δ → Except ConfigError (β × δ)) (d : δ) : Prop :=
  ∀ d₁, Document.prune d₁ = Document.prune d →
    ∃ b d₂, f d₁ = .ok (b, d₂) ∧ Quiet b ∧ Document.prune d₂ = Document.prune d₁

variable [Document.Lawful δ]

/-- A modification that has settled succeeds again and writes nothing. -/
theorem Modified.runOn_again (h : Modified p f b d d' t t') (hrange : Document.Lawful.InRange d')
    (hprune : Document.prune (Document.prune d') = Document.prune d')
    (hsettled : Settled Quiet f d') :
    ∃ b', (modify p f).runOn t' = (.ok b', t') ∧ Quiet b' := by
  obtain ⟨d₁, hload, hsame⟩ := h.load_after hrange hprune
  obtain ⟨b', d₂, hchange, hquiet, hsame'⟩ := hsettled d₁ hsame
  exact ⟨b', (allOrNothing_modify p f t').unchanged d₁ b' d₂ hload hchange hsame', hquiet⟩

/-- An edit whose changes settle succeeds again and writes nothing. -/
theorem Edits.runOn_again {Among : (δ → Except ConfigError (β × δ)) → Prop} {report : β → α}
    {x : Action (StateM FileTree) α} {a : α} (h : Edits p Among report x)
    (hx : x.runOn t = (.ok a, t'))
    (hprune : ∀ d : δ, Document.prune (Document.prune d) = Document.prune d)
    (hsettles : ∀ f, Among f → ∀ b d d', Modified p f b d d' t t' →
      Document.Lawful.InRange d' ∧ Settled Quiet f d') :
    ∃ b, x.runOn t' = (.ok (report b), t') ∧ Quiet b := by
  obtain ⟨f, hf, hperforms⟩ := h.exists_performs hx
  obtain ⟨b, rfl, hmodify⟩ := hperforms.exists_modify hx
  obtain ⟨d, d', hmodified⟩ := exists_modified_of_modify hmodify
  obtain ⟨hrange, hsettled⟩ := hsettles f hf b d d' hmodified
  obtain ⟨b', hagain, hquiet⟩ := hmodified.runOn_again hrange (hprune d') hsettled
  exact ⟨b', hperforms.ok hagain, hquiet⟩

end FleetConfig.Store
