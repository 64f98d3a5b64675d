import FleetConfig.Proofs.Store.Editing

/-!
# Modifications that succeed

A modification that succeeds has changed the document that it loaded, and written what it made of it
unless that is the same when pruned. So its file has other bytes exactly if the pruned document is
another, and what is loaded from it is what the change has made, up to pruning.

## Main definitions

* `Store.OthersKept` — all files but one are as they were.
* `Store.Modified` — what a modification that succeeds has loaded, made and written.
* `Store.Stores` — an action puts a document in the place of another one.

## Main results

* `Store.Edits.exists_modified` — there is such a document for every edit that succeeds.
* `Store.Modified.read_eq_iff` — when the file has the bytes that it had.
* `Store.Modified.load_after` — what is loaded afterwards.
* `Store.Performs.stores` — what a modification makes is stored.
* `Store.exists_runOn_modify` — a change that is not refused is made if the file can be written.
-/

namespace FleetConfig.Store

variable {δ α β : Type} [Document δ] {p : Path} {f : δ → Except ConfigError (β × δ)} {b : β}
  {d d' : δ} {t t' : FileTree}

/-- All files but the one that a path names are as they were. -/
structure OthersKept (p : Path) (t t' : FileTree) : Prop where
  /-- There are the same files elsewhere, with the same bytes. -/
  files : ∀ place ≠ t.destination p, ∀ bytes,
    t'.get? place = some (.file bytes) ↔ t.get? place = some (.file bytes)
  /-- A path that leads to one of them leads there still. -/
  read : ∀ q bytes, t.destination q ≠ t.destination p → t.read q = .ok bytes →
    t'.read q = .ok bytes

/-- A modification has loaded a document and made another of it, which is written if it is another
when pruned. -/
structure Modified (p : Path) (f : δ → Except ConfigError (β × δ)) (b : β) (d d' : δ)
    (t t' : FileTree) : Prop where
  load : (load p).runOn t = (.ok d, t)
  change : f d = .ok (b, d')
  write : Document.prune d' = Document.prune d ∧ t' = t ∨
    Document.prune d' ≠ Document.prune d ∧
      Writes p (Document.print (Document.prune d')).toUTF8 t t'

theorem exists_modified_of_modify (h : (modify p f).runOn t = (.ok b, t')) :
    ∃ d d', Modified p f b d d' t t' := by
  rcases runOn_modify_cases h with ⟨_, -, hr, -⟩ | ⟨d, hload, ⟨_, -, hr, -⟩ | ⟨b', d', hd',
    ⟨hsame, hr, ht⟩ | ⟨hsame, ⟨hsave, hr⟩ | ⟨_, _, -, hr⟩⟩⟩⟩ <;> cases hr
  · exact ⟨d, d', hload, hd', .inl ⟨hsame, ht⟩⟩
  · exact ⟨d, d', hload, hd', .inr ⟨hsame, runOn_save_eq_ok hsave⟩⟩

/-- An action that does what a modification does reports what it has made. -/
theorem Performs.exists_modify {report : β → α} {x : Action (StateM FileTree) α} {a : α}
    (h : Performs p f report x) (hx : x.runOn t = (.ok a, t')) :
    ∃ b, a = report b ∧ (Store.modify p f).runOn t = (.ok b, t') := by
  rcases hmodify : (Store.modify p f).runOn t with ⟨e | b, t₁⟩
  · obtain ⟨e', he'⟩ := h.error hmodify
    cases he'.symm.trans hx
  · cases (h.ok hmodify).symm.trans hx
    exact ⟨b, rfl, rfl⟩

namespace Edits

variable {Among : (δ → Except ConfigError (β × δ)) → Prop} {report : β → α}
  {x : Action (StateM FileTree) α} {a : α}

/-- An edit that succeeds is not refused. -/
theorem exists_performs (h : Edits p Among report x) (hx : x.runOn t = (.ok a, t')) :
    ∃ f, Among f ∧ Performs p f report x := by
  rcases h with hrefused | hperforms
  · obtain ⟨e, he⟩ := hrefused t
    cases he.symm.trans hx
  · exact hperforms

/-- An edit that succeeds has made one of its modifications, and reports it. -/
theorem exists_modified (h : Edits p Among report x) (hx : x.runOn t = (.ok a, t')) :
    ∃ f, Among f ∧ ∃ b d d', a = report b ∧ Modified p f b d d' t t' := by
  obtain ⟨f, hf, hperforms⟩ := h.exists_performs hx
  obtain ⟨b, rfl, hmodify⟩ := hperforms.exists_modify hx
  obtain ⟨d, d', hmodified⟩ := exists_modified_of_modify hmodify
  exact ⟨f, hf, b, d, d', rfl, hmodified⟩

end Edits

namespace Modified

/-- What a modification has loaded is what is there to load. -/
theorem eq_of_load (h : Modified p f b d d' t t') {d₀ : δ}
    (hload : (Store.load p).runOn t = (.ok d₀, t)) : d = d₀ := by
  have heq := h.load.symm.trans hload
  cases heq
  rfl

/-- Afterwards the document is loaded as the change has left it, up to pruning. -/
theorem load_after [Document.Lawful δ] (h : Modified p f b d d' t t')
    (hrange : Document.Lawful.InRange d')
    (hprune : Document.prune (Document.prune d') = Document.prune d') :
    ∃ d'', (Store.load p).runOn t' = (.ok d'', t') ∧ Document.prune d'' = Document.prune d' := by
  rcases h.write with ⟨hsame, rfl⟩ | ⟨-, hwrites⟩
  · exact ⟨d, h.load, hsame.symm⟩
  · exact ⟨_, load_of_writes hwrites (Document.Lawful.inRange_prune d' hrange), hprune⟩

/-- The file has the bytes that it had if the document is the same when pruned. -/
theorem read_eq_iff [Document.Lawful δ] (h : Modified p f b d d' t t')
    (hrange : Document.Lawful.InRange d')
    (hprune : Document.prune (Document.prune d') = Document.prune d') :
    t'.read p = t.read p ↔ Document.prune d' = Document.prune d := by
  rcases h.write with ⟨hsame, rfl⟩ | ⟨hsame, hwrites⟩
  · exact iff_of_true rfl hsame
  · refine iff_of_false (fun hread => hsame ?_) hsame
    -- The document that was loaded would be the pruned one already.
    rw [hwrites.read_eq] at hread
    have hload := load_of_read hread.symm (Document.Lawful.inRange_prune d' hrange)
    rw [h.eq_of_load hload, hprune]

/-- No other file is changed, new or missing. -/
theorem othersKept (h : Modified p f b d d' t t') : OthersKept p t t' := by
  rcases h.write with ⟨-, rfl⟩ | ⟨-, hwrites⟩
  · exact ⟨fun _ _ _ => Iff.rfl, fun _ _ _ hread => hread⟩
  · exact ⟨fun _ hplace bytes => hwrites.besides.file_iff hplace bytes,
      fun _ _ hne hread => hwrites.read_of_ne hne hread⟩

end Modified

/-- A change that is not refused is made if its file can be written. -/
theorem exists_runOn_modify {t₀ : FileTree} {place : Place} (hload : (load p).runOn t = (.ok d, t))
    (hf : f d = .ok (b, d')) (hwritable : Writable p t t₀ place) :
    ∃ t', (modify p f).runOn t = (.ok b, t') := by
  rw [runOn_modify, hload]
  simp only [hf]
  split
  · exact ⟨_, rfl⟩
  · rw [hwritable.save]
    exact ⟨_, rfl⟩

/-- In a tree with one file, a change that is not refused is made. -/
theorem runOn_modify_treeOf [Document.Lawful δ] (hrange : Document.Lawful.InRange d)
    (hprune : Document.prune d = d) (hf : f d = .ok (b, d')) :
    (modify ⟨"c.toml"⟩ f).runOn (treeOf d) = (.ok b, treeOf (Document.prune d')) := by
  rw [runOn_modify, load_treeOf hrange]
  simp only [hf]
  split
  · rename_i hsame
    rw [samePruned_iff.1 hsame, hprune]
  · rw [(writable_treeOf d).save]
    rfl

/-! ### Actions that store a document -/

/-- An action puts a document in the place of the one at a path and reports it, unless the document
cannot be saved. -/
structure Stores (p : Path) (x : Action (StateM FileTree) α) (a : α) (d d' : δ) (t : FileTree) :
    Prop where
  /-- What is loaded afterwards is the document, up to pruning. -/
  stored : ∀ a' t', x.runOn t = (.ok a', t') → a' = a ∧
    ∃ d'', (Store.load p).runOn t' = (.ok d'', t') ∧ Document.prune d'' = Document.prune d'
  /-- It fails only if it has something to save and cannot save it. -/
  unsaved : ∀ e t', x.runOn t = (.error e, t') → Document.prune d' ≠ Document.prune d ∧
    ∃ e', (save p d').runOn t = (.error e', t')

variable {report : β → α} {x : Action (StateM FileTree) α}

/-- What a modification makes is stored. -/
theorem Performs.stores [Document.Lawful δ] (h : Performs p f report x)
    (hload : (Store.load p).runOn t = (.ok d, t)) (hf : f d = .ok (b, d'))
    (hrange : Document.Lawful.InRange d')
    (hprune : Document.prune (Document.prune d') = Document.prune d') :
    Stores p x (report b) d d' t where
  stored a t₁ hx := by
    obtain ⟨b₁, rfl, hmodify⟩ := h.exists_modify hx
    obtain ⟨d₀, d₁, hmodified⟩ := exists_modified_of_modify hmodify
    obtain rfl := hmodified.eq_of_load hload
    cases hmodified.change.symm.trans hf
    exact ⟨rfl, hmodified.load_after hrange hprune⟩
  unsaved e t₁ hx := by
    rcases hmodify : (Store.modify p f).runOn t with ⟨e₁ | b₁, t₂⟩
    · obtain ⟨e', he'⟩ := h.error hmodify
      cases he'.symm.trans hx
      rcases runOn_modify_cases hmodify with ⟨_, hfails, -, -⟩ | ⟨d₀, hload₀, hends⟩
      · cases hload.symm.trans hfails
      cases hload.symm.trans hload₀
      rcases hends with ⟨_, hrefused, -, -⟩ | ⟨b₁, d₁, hmade, ⟨-, hr, -⟩ |
        ⟨hsame, ⟨-, hr⟩ | ⟨e₂, -, hsave, -⟩⟩⟩
      · cases hf.symm.trans hrefused
      · cases hr
      · cases hr
      · cases hf.symm.trans hmade
        exact ⟨hsame, e₂, hsave⟩
    · cases (h.ok hmodify).symm.trans hx

/-- If its file can be written, the document is stored, and is loaded afterwards. -/
theorem Stores.exists_runOn {a : α} (h : Stores p x a d d' t) {t₀ : FileTree} {place : Place}
    (hwritable : Writable p t t₀ place) : ∃ t' d'', x.runOn t = (.ok a, t') ∧
      (Store.load p).runOn t' = (.ok d'', t') ∧ Document.prune d'' = Document.prune d' := by
  rcases hx : x.runOn t with ⟨e | a', t'⟩
  · obtain ⟨-, e', hsave⟩ := h.unsaved e t' hx
    cases (hwritable.save d').symm.trans hsave
  · obtain ⟨rfl, d'', hload, hprune⟩ := h.stored a' t' hx
    exact ⟨t', d'', rfl, hload, hprune⟩

end FleetConfig.Store
