import FleetConfig.Proofs.Store.Saving

/-!
# Modifications of documents

A modification is made as a whole or not at all. When it fails, whatever the cause, all files are as
they were; when it changes nothing but what pruning drops, nothing is written; otherwise the text of
the pruned document is in its file, and all other files are as they were.

## Main definitions

* `Store.AllOrNothing` — what a modification does to the files.
* `Action.FailsClean` — an action that fails changes no file.

## Main results

* `Store.runOn_modify` — a modification in terms of loading, changing and saving.
* `Store.allOrNothing_modify` — modifications are made as a whole or not at all.
-/

namespace FleetConfig

open FileTree (Grown)

/-! ### Failing actions -/

namespace Action

variable {α : Type}

/-- When the action fails, it has brought about directories at most. -/
def FailsClean (x : Action (StateM FileTree) α) : Prop :=
  ∀ t e t', x.runOn t = (.error e, t') → Grown t t'

theorem FailsClean.of_readsOnly {x : Action (StateM FileTree) α} (h : ReadsOnly x) :
    FailsClean x := by
  intro t e t' hx
  rw [h.eq_of_runOn hx]
  exact .refl t

end Action

namespace Store

variable {δ α : Type} [Document δ]

/-! ### Modifications -/

/-- A modification loads, changes and saves, unless the pruned document is the same. -/
theorem runOn_modify (p : Path) (f : δ → Except ConfigError (α × δ)) (t : FileTree) :
    (modify p f).runOn t =
      match (load p).runOn t with
      | (.error e, t) => (.error e, t)
      | (.ok before, t) =>
        match f before with
        | .error e => (.error (.ofError e), t)
        | .ok (a, after) =>
          if samePruned after before then (.ok a, t)
          else
            match (save p after).runOn t with
            | (.ok (), t') => (.ok a, t')
            | (.error e, t') => (.error (e.within s!"Failed to save {Document.label δ}"), t') := by
  rw [modify, Action.runOn_bind]
  rcases (load p).runOn t with ⟨r, t₁⟩
  cases r with
  | error e => rfl
  | ok before =>
    simp only
    rw [Action.runOn_bind, Action.runOn_ofExcept]
    cases f before with
    | error e => rfl
    | ok result =>
      obtain ⟨a, after⟩ := result
      show Action.runOn (if samePruned after before = true then pure a else _) t₁ =
        if samePruned after before = true then _ else _
      cases samePruned after before with
      | true => rfl
      | false =>
        show Action.runOn (Action.within _ (save p after) >>= fun _ => pure a) t₁ = _
        rw [Action.runOn_bind, Action.runOn_within]
        rcases (save p after).runOn t₁ with ⟨r, t'⟩
        cases r <;> rfl

theorem samePruned_iff {a b : δ} :
    samePruned a b = true ↔ Document.prune a = Document.prune b :=
  @decide_eq_true_iff _ (Document.decEq _ _)

/-- What a modification of the document at a path does to a tree. -/
structure AllOrNothing [Document.Lawful δ] (p : Path) (f : δ → Except ConfigError (α × δ))
    (t : FileTree) : Prop where
  /-- A document that cannot be loaded fails the modification, and nothing is changed. -/
  load_fails : ∀ e, (load p : Action _ δ).runOn t = (.error e, t) →
    (modify p f).runOn t = (.error e, t)
  /-- A change that is refused fails the modification, and nothing is changed. -/
  change_fails : ∀ d e, (load p).runOn t = (.ok d, t) → f d = .error e →
    (modify p f).runOn t = (.error (.ofError e), t)
  /-- A document that cannot be saved fails the modification, and no file is changed. -/
  save_fails : ∀ d a d' e t', (load p).runOn t = (.ok d, t) → f d = .ok (a, d') →
    Document.prune d' ≠ Document.prune d → (save p d').runOn t = (.error e, t') →
    (∃ e', (modify p f).runOn t = (.error e', t')) ∧ Grown t t'
  /-- However a modification fails, it has brought about directories at most. -/
  files_of_failure : ∀ e t', (modify p f).runOn t = (.error e, t') → Grown t t'
  /-- A change of nothing but what pruning drops writes nothing. -/
  unchanged : ∀ d a d', (load p).runOn t = (.ok d, t) → f d = .ok (a, d') →
    Document.prune d' = Document.prune d → (modify p f).runOn t = (.ok a, t)
  /-- Otherwise the file holds the text of the pruned document, and no other file is changed. -/
  changed : ∀ d a d' a' t', (load p).runOn t = (.ok d, t) → f d = .ok (a, d') →
    Document.prune d' ≠ Document.prune d → (modify p f).runOn t = (.ok a', t') →
    a' = a ∧ ∃ place,
      t'.find? p = some (place, .file (Document.print (Document.prune d')).toUTF8) ∧
      ∀ q ≠ place, ∀ bytes, t'.get? q = some (.file bytes) ↔ t.get? q = some (.file bytes)
  /-- What was saved is loaded the next time. -/
  load_changed : ∀ d a d' a' t', (load p).runOn t = (.ok d, t) → f d = .ok (a, d') →
    Document.Lawful.InRange d' → Document.prune d' ≠ Document.prune d →
    (modify p f).runOn t = (.ok a', t') → (load p).runOn t' = (.ok (Document.prune d'), t')

/-- The four ways in which a modification ends. -/
theorem runOn_modify_cases {p : Path} {f : δ → Except ConfigError (α × δ)} {t t' : FileTree}
    {r : Except Failure α} (h : (modify p f).runOn t = (r, t')) :
    (∃ e, (load p : Action _ δ).runOn t = (.error e, t) ∧ r = .error e ∧ t' = t) ∨
      ∃ d, (load p).runOn t = (.ok d, t) ∧
        ((∃ e, f d = .error e ∧ r = .error (.ofError e) ∧ t' = t) ∨
          ∃ a d', f d = .ok (a, d') ∧
            (Document.prune d' = Document.prune d ∧ r = .ok a ∧ t' = t ∨
              Document.prune d' ≠ Document.prune d ∧
                ((save p d').runOn t = (.ok (), t') ∧ r = .ok a ∨
                  ∃ e e', (save p d').runOn t = (.error e, t') ∧ r = .error e'))) := by
  rw [runOn_modify] at h
  rcases hload : (load p : Action _ δ).runOn t with ⟨loaded, t₁⟩
  obtain rfl := readsOnly_load.eq_of_runOn hload
  rw [hload] at h
  cases loaded with
  | error e =>
    cases h
    exact .inl ⟨e, rfl, rfl, rfl⟩
  | ok d =>
    refine .inr ⟨d, rfl, ?_⟩
    simp only at h
    cases hf : f d with
    | error e =>
      rw [hf] at h
      cases h
      exact .inl ⟨e, rfl, rfl, rfl⟩
    | ok result =>
      obtain ⟨a, d'⟩ := result
      refine .inr ⟨a, d', rfl, ?_⟩
      rw [hf] at h
      simp only at h
      by_cases hsame : Document.prune d' = Document.prune d
      · rw [samePruned_iff.2 hsame] at h
        cases h
        exact .inl ⟨hsame, rfl, rfl⟩
      · rw [if_neg (mt samePruned_iff.1 hsame)] at h
        refine .inr ⟨hsame, ?_⟩
        rcases hsave : (save p d').runOn t₁ with ⟨saved, t₂⟩
        rw [hsave] at h
        cases saved with
        | ok u =>
          cases h
          exact .inl ⟨rfl, rfl⟩
        | error e =>
          cases h
          exact .inr ⟨e, _, rfl, rfl⟩

/-- However a modification fails, it has brought about directories at most. -/
theorem failsClean_modify (p : Path) (f : δ → Except ConfigError (α × δ)) :
    Action.FailsClean (modify p f) := by
  intro t e t' h
  rcases runOn_modify_cases h with ⟨_, -, -, rfl⟩ | ⟨d, -, ⟨_, -, -, rfl⟩ | ⟨a, d', -,
    ⟨-, hr, -⟩ | ⟨-, ⟨-, hr⟩ | ⟨_, _, hsave, -⟩⟩⟩⟩
  · exact .refl _
  · exact .refl _
  · cases hr
  · cases hr
  · exact runOn_save_eq_error hsave

/-- A modification that succeeds writes the pruned document. -/
theorem writes_of_modify {p : Path} {f : δ → Except ConfigError (α × δ)} {t t' : FileTree}
    {d d' : δ} {a a' : α} (hload : (load p).runOn t = (.ok d, t)) (hf : f d = .ok (a, d'))
    (hsame : Document.prune d' ≠ Document.prune d) (h : (modify p f).runOn t = (.ok a', t')) :
    a' = a ∧ Writes p (Document.print (Document.prune d')).toUTF8 t t' := by
  rw [runOn_modify, hload] at h
  simp only [hf, if_neg (mt samePruned_iff.1 hsame)] at h
  rcases hsave : (save p d').runOn t with ⟨saved, t₂⟩
  rw [hsave] at h
  cases saved with
  | ok u =>
    cases h
    exact ⟨rfl, runOn_save_eq_ok hsave⟩
  | error e => cases h

/-- Modifications are made as a whole or not at all. -/
theorem allOrNothing_modify [Document.Lawful δ] (p : Path) (f : δ → Except ConfigError (α × δ))
    (t : FileTree) : AllOrNothing p f t where
  load_fails e hload := by
    rw [runOn_modify, hload]
  change_fails d e hload hf := by
    rw [runOn_modify, hload]
    simp only [hf]
  save_fails d a d' e t' hload hf hsame hsave := by
    refine ⟨⟨e.within s!"Failed to save {Document.label δ}", ?_⟩, runOn_save_eq_error hsave⟩
    rw [runOn_modify, hload]
    simp only [hf, if_neg (mt samePruned_iff.1 hsame), hsave]
  files_of_failure e t' h := failsClean_modify p f t e t' h
  unchanged d a d' hload hf hsame := by
    rw [runOn_modify, hload]
    simp only [hf, if_pos (samePruned_iff.2 hsame)]
  changed d a d' a' t' hload hf hsame h := by
    obtain ⟨ha, hwrites⟩ := writes_of_modify hload hf hsame h
    obtain ⟨place, hplace, -, hothers⟩ := hwrites.other_files
    exact ⟨ha, place, hplace, hothers⟩
  load_changed d a d' a' t' hload hf hrange hsame h :=
    load_of_writes (writes_of_modify hload hf hsame h).2 (Document.Lawful.inRange_prune d' hrange)

end Store

end FleetConfig
