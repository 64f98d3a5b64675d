import FleetConfig.Proofs.Store.Modifying

/-!
# Actions that edit one document

An action that edits a document is a modification with checks before it and a report after it. The
checks refuse the action on every file tree or on none, so all that is known of modifications is
known of such actions.

Two changes match if they are refused of the same documents and make the same document of every
other one, up to pruning. What is saved is the pruned document, so matching changes, made to the
file of one path, end alike and leave the same tree behind.

## Main definitions

* `Store.Performs` — an action does what a modification does, with another report.
* `Store.Edits` — an action is always refused, or performs one of some modifications.
* `Store.Matches` — two changes make the same documents, with related results.
* `Store.EndAlike` — two actions both fail or both succeed, and leave the same tree behind.

## Main results

* `Store.Edits.within`, `Store.Edits.bind_pure`, `Store.Edits.bind_ofExcept` — how commands are
  built around a modification.
* `Store.Edits.failsClean` — an edit that fails changes no file.
* `Store.Matches.endAlike` — actions that make matching changes end alike.
-/

namespace FleetConfig.Store

variable {δ α β γ : Type} [Document δ] {p : Path}

/-- An action does to every tree what a modification does: it succeeds and fails with it, reports
what it gives, and leaves the same tree behind. -/
structure Performs (p : Path) (f : δ → Except ConfigError (β × δ)) (report : β → α)
    (x : Action (StateM FileTree) α) : Prop where
  ok : ∀ {t b t'}, (modify p f).runOn t = (.ok b, t') → x.runOn t = (.ok (report b), t')
  error : ∀ {t e t'}, (modify p f).runOn t = (.error e, t') → ∃ e', x.runOn t = (.error e', t')

/-- An action is refused on every tree, or does what one of some modifications does. -/
def Edits (p : Path) (Among : (δ → Except ConfigError (β × δ)) → Prop) (report : β → α)
    (x : Action (StateM FileTree) α) : Prop :=
  (∀ t, ∃ e, x.runOn t = (.error e, t)) ∨ ∃ f, Among f ∧ Performs p f report x

section Commands

variable {Among : (δ → Except ConfigError (β × δ)) → Prop} {f : δ → Except ConfigError (β × δ)}
  {report : β → α} {x : Action (StateM FileTree) α}

/-! ### Parts of a command -/

namespace Performs

theorem modify : Performs p f id (modify p f) := ⟨id, fun h => ⟨_, h⟩⟩

theorem within (h : Performs p f report x) (context : String) :
    Performs p f report (Action.within context x) where
  ok hb := by
    rw [Action.runOn_within, h.ok hb]
    rfl
  error he := by
    obtain ⟨e', he'⟩ := h.error he
    rw [Action.runOn_within, he']
    exact ⟨_, rfl⟩

theorem bind_pure (h : Performs p f report x) (g : α → γ) :
    Performs p f (g ∘ report) (x >>= fun a => pure (g a)) where
  ok hb := by
    rw [Action.runOn_bind, h.ok hb]
    rfl
  error he := by
    obtain ⟨e', he'⟩ := h.error he
    rw [Action.runOn_bind, he']
    exact ⟨_, rfl⟩

end Performs

namespace Edits

theorem refuse (e : ConfigError) : Edits p Among report (Action.refuse e) :=
  .inl fun _ => ⟨_, rfl⟩

theorem modify (h : Among f) : Edits p Among id (modify p f) := .inr ⟨f, h, .modify⟩

theorem modify_self (f : δ → Except ConfigError (β × δ)) : Edits p (· = f) id (Store.modify p f) :=
  .modify rfl

/-- What was being done is told in every failure. -/
theorem within (h : Edits p Among report x) (context : String) :
    Edits p Among report (Action.within context x) := by
  rcases h with hrefused | ⟨f, hf, hperforms⟩
  · left
    intro t
    obtain ⟨e, he⟩ := hrefused t
    rw [Action.runOn_within, he]
    exact ⟨_, rfl⟩
  · exact .inr ⟨f, hf, hperforms.within context⟩

/-- A report is made of the result. -/
theorem bind_pure (h : Edits p Among report x) (g : α → γ) :
    Edits p Among (g ∘ report) (x >>= fun a => pure (g a)) := by
  rcases h with hrefused | ⟨f, hf, hperforms⟩
  · left
    intro t
    obtain ⟨e, he⟩ := hrefused t
    rw [Action.runOn_bind, he]
    exact ⟨_, rfl⟩
  · exact .inr ⟨f, hf, hperforms.bind_pure g⟩

/-- Arguments are read first, whatever the files are. -/
theorem bind_ofExcept {r : Except ConfigError γ} {k : γ → Action (StateM FileTree) α}
    (h : ∀ c, r = .ok c → Edits p Among report (k c)) :
    Edits p Among report (Action.ofExcept r >>= k) := by
  cases r with
  | error e => exact .inl fun _ => ⟨_, rfl⟩
  | ok c => exact h c rfl

/-- An edit that fails brings about directories at most. -/
theorem failsClean (h : Edits p Among report x) : Action.FailsClean x := by
  intro t e t' hx
  rcases h with hrefused | ⟨f, -, hperforms⟩
  · obtain ⟨e', he'⟩ := hrefused t
    rw [he'] at hx
    cases hx
    exact .refl t
  · rcases hmodify : (Store.modify p f).runOn t with ⟨e₁ | b, t₁⟩
    · obtain ⟨e', he'⟩ := hperforms.error hmodify
      rw [he'] at hx
      cases hx
      exact failsClean_modify p f t e₁ t' hmodify
    · rw [hperforms.ok hmodify] at hx
      cases hx

end Edits

end Commands

/-! ### Modifications that match -/

variable {R : α → β → Prop} {f : δ → Except ConfigError (α × δ)}
  {g : δ → Except ConfigError (β × δ)}

/-- Two changes are refused of the same documents. Of the others they make the same document, up to
pruning, and give related results. -/
structure Matches (R : α → β → Prop) (f : δ → Except ConfigError (α × δ))
    (g : δ → Except ConfigError (β × δ)) : Prop where
  made : ∀ d a d₁, f d = .ok (a, d₁) →
    ∃ b d₂, g d = .ok (b, d₂) ∧ R a b ∧ Document.prune d₁ = Document.prune d₂
  refused : ∀ d e, f d = .error e → ∃ e', g d = .error e'

/-- Two actions leave the same tree behind, and fail both or give related results. -/
def EndAlike (R : α → β → Prop) (x : Action (StateM FileTree) α) (y : Action (StateM FileTree) β)
    (t : FileTree) : Prop :=
  ∃ t', (∃ e e', x.runOn t = (.error e, t') ∧ y.runOn t = (.error e', t')) ∨
    ∃ a b, x.runOn t = (.ok a, t') ∧ y.runOn t = (.ok b, t') ∧ R a b

/-- What is saved is the pruned document. -/
theorem save_congr {d₁ d₂ : δ} (h : Document.prune d₁ = Document.prune d₂) :
    (save p d₁ : Action (StateM FileTree) Unit) = save p d₂ := by
  rw [save, save, h]

theorem samePruned_congr {d₁ d₂ : δ} (h : Document.prune d₁ = Document.prune d₂) (d : δ) :
    samePruned d₁ d = samePruned d₂ d := by
  rw [Bool.eq_iff_iff, samePruned_iff, samePruned_iff, h]

/-- Modifications by matching changes end alike. -/
theorem Matches.endAlike_modify (h : Matches R f g) (t : FileTree) :
    EndAlike R (modify p f) (modify p g) t := by
  rw [EndAlike, runOn_modify, runOn_modify]
  rcases (load p : Action _ δ).runOn t with ⟨e | d, t₁⟩
  · exact ⟨_, .inl ⟨_, _, rfl, rfl⟩⟩
  simp only
  cases hf : f d with
  | error e =>
    obtain ⟨e', he'⟩ := h.refused d e hf
    rw [he']
    exact ⟨_, .inl ⟨_, _, rfl, rfl⟩⟩
  | ok result =>
    obtain ⟨a, d₁⟩ := result
    obtain ⟨b, d₂, hg, hresult, hprune⟩ := h.made d a d₁ hf
    rw [hg]
    simp only
    rw [samePruned_congr hprune, save_congr hprune]
    split
    · exact ⟨_, .inr ⟨_, _, rfl, rfl, hresult⟩⟩
    · rcases (save p d₂).runOn t₁ with ⟨e | _, t₂⟩
      · exact ⟨_, .inl ⟨_, _, rfl, rfl⟩⟩
      · exact ⟨_, .inr ⟨_, _, rfl, rfl, hresult⟩⟩

/-- Actions that make matching changes end alike. -/
theorem Matches.endAlike {x : Action (StateM FileTree) α} {y : Action (StateM FileTree) β}
    (h : Matches R f g) (hx : Performs p f id x) (hy : Performs p g id y) (t : FileTree) :
    EndAlike R x y t := by
  obtain ⟨t', ⟨e, e', hf, hg⟩ | ⟨a, b, hf, hg, hresult⟩⟩ := h.endAlike_modify (p := p) t
  · obtain ⟨_, hx'⟩ := hx.error hf
    obtain ⟨_, hy'⟩ := hy.error hg
    exact ⟨t', .inl ⟨_, _, hx', hy'⟩⟩
  · exact ⟨t', .inr ⟨a, b, hx.ok hf, hy.ok hg, hresult⟩⟩

end FleetConfig.Store
