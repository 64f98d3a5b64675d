import FleetConfig.Proofs.Store.Editing

/-!
# What is kept of a file

What is true of every document that a modification makes of a good one stays true of the file that
the document is in, however the modification ends. A missing file counts as good, since it stands
for an empty document.

## Main definitions

* `Action.Keeps` — an action keeps what is true of a file tree.
* `Store.Holds` — the file of a path is there and holds a document.
* `Store.MissingOr` — the file of a path is missing or holds a good document.

## Main results

* `Store.keeps_modify` — a modification that makes good documents of good ones keeps files good.
-/

namespace FleetConfig

open FileTree (Grown)

/-! ### Actions -/

namespace Action

variable {α : Type}

/-- Whether an action succeeds or fails, what was true of the files before is true afterwards. -/
def Keeps (P : FileTree → Prop) (x : Action (StateM FileTree) α) : Prop :=
  ∀ t, P t → P (x.runOn t).2

end Action

namespace Store

variable {δ α β : Type} [Document δ] {Good Good' : δ → Prop} {p : Path} {t t' : FileTree} {d : δ}

/-! ### Files of documents -/

/-- The file of a path is there and holds a document. -/
def Holds (p : Path) (t : FileTree) (d : δ) : Prop :=
  (∃ bytes, t.read p = .ok bytes) ∧ (load p).runOn t = (.ok d, t)

/-- At the place that a path names there is no file, or the file there can be read and holds a good
document. The place is the one that the names in the path lead to, even if some of the directories
on the way are not there yet. -/
def MissingOr (Good : δ → Prop) (p : Path) (t : FileTree) : Prop :=
  (∀ bytes, t.get? (t.destination p) ≠ some (.file bytes)) ∨ ∃ d, Holds p t d ∧ Good d

theorem holds_iff :
    Holds p t d ↔ ∃ s : String, t.read p = .ok s.toUTF8 ∧ Document.parse s = .ok d := by
  constructor
  · rintro ⟨⟨bytes, hread⟩, hload⟩
    obtain ⟨-, ⟨hnone, -⟩ | h⟩ := runOn_load_eq_ok.1 hload
    · obtain ⟨place, hplace⟩ := FileTree.read_eq_ok_iff.1 hread
      rw [hnone] at hplace
      cases hplace
    · exact h
  · rintro ⟨s, hread, hparse⟩
    exact ⟨⟨_, hread⟩, runOn_load_eq_ok.2 ⟨rfl, .inr ⟨s, hread, hparse⟩⟩⟩

/-- More directories do not change what a file holds. -/
theorem Holds.grown (h : Holds p t d) (hgrown : Grown t t') : Holds p t' d := by
  obtain ⟨s, hread, hparse⟩ := holds_iff.1 h
  obtain ⟨place, hplace⟩ := FileTree.read_eq_ok_iff.1 hread
  obtain ⟨hresolve, hget⟩ := FileTree.find?_eq_some_iff.1 hplace
  refine holds_iff.2 ⟨s, FileTree.read_eq_ok_iff.2 ⟨place, ?_⟩, hparse⟩
  exact FileTree.find?_eq_some_iff.2 ⟨hgrown.resolve_eq hresolve, hgrown.get?_of_some hget⟩

theorem MissingOr.grown (h : MissingOr Good p t) (hgrown : Grown t t') : MissingOr Good p t' := by
  rcases h with hmissing | ⟨d, hd, hgood⟩
  · refine .inl fun bytes hbytes => hmissing bytes ?_
    rw [hgrown.destination_eq] at hbytes
    exact (hgrown.sameFiles _ bytes).1 hbytes
  · exact .inr ⟨d, hd.grown hgrown, hgood⟩

theorem MissingOr.mono (h : MissingOr Good p t) (hmono : ∀ d, Holds p t d → Good d → Good' d) :
    MissingOr Good' p t := by
  rcases h with hmissing | ⟨d, hd, hgood⟩
  · exact .inl hmissing
  · exact .inr ⟨d, hd, hmono d hd hgood⟩

/-- What is loaded is good, if the empty document is. -/
theorem MissingOr.good_of_load (h : MissingOr Good p t) (hempty : Good Document.empty)
    (hload : (load p).runOn t = (.ok d, t)) : Good d := by
  rcases h with hmissing | ⟨d', hd', hgood⟩
  · obtain ⟨-, ⟨-, rfl⟩ | ⟨s, hread, -⟩⟩ := runOn_load_eq_ok.1 hload
    · exact hempty
    · obtain ⟨place, hplace⟩ := FileTree.read_eq_ok_iff.1 hread
      obtain ⟨hresolve, hget⟩ := FileTree.find?_eq_some_iff.1 hplace
      rw [FileTree.eq_destination_of_resolve hresolve] at hget
      exact absurd hget (hmissing _)
  · have heq := hd'.2.symm.trans hload
    cases heq
    exact hgood

/-! ### Modifications -/

/-- A modification that makes good documents of good ones leaves a good file, or none, whether it
succeeds or fails. -/
theorem keeps_modify [Document.Lawful δ] {f : δ → Except ConfigError (α × δ)}
    (hempty : Good Document.empty) (hrange : ∀ d, Good d → Document.Lawful.InRange d)
    (hprune : ∀ d, Good d → Good (Document.prune d))
    (hf : ∀ d a d', Good d → f d = .ok (a, d') → Good d') :
    Action.Keeps (MissingOr Good p) (modify p f) := by
  intro t ht
  rcases hmodify : (modify p f).runOn t with ⟨r, t'⟩
  rcases runOn_modify_cases hmodify with ⟨_, -, -, rfl⟩ | ⟨d, hload, ⟨_, -, -, rfl⟩ | ⟨a, d', hd',
    ⟨-, -, rfl⟩ | ⟨-, ⟨hsave, -⟩ | ⟨_, _, hsave, -⟩⟩⟩⟩
  · exact ht
  · exact ht
  · exact ht
  · have hgood := hprune d' (hf d a d' (ht.good_of_load hempty hload) hd')
    have hwrites := runOn_save_eq_ok hsave
    exact .inr ⟨Document.prune d', ⟨⟨_, hwrites.read_eq⟩, load_of_writes hwrites (hrange _ hgood)⟩,
      hgood⟩
  · exact ht.grown (runOn_save_eq_error hsave)

/-- An edit keeps what all its modifications keep. -/
theorem Edits.keeps {P : FileTree → Prop} {Among : (δ → Except ConfigError (β × δ)) → Prop}
    {report : β → α} {x : Action (StateM FileTree) α} (h : Edits p Among report x)
    (hmodify : ∀ f, Among f → Action.Keeps P (Store.modify p f)) : Action.Keeps P x := by
  intro t ht
  rcases h with hrefused | ⟨f, hf, hperforms⟩
  · obtain ⟨e, he⟩ := hrefused t
    rw [he]
    exact ht
  · have hkept := hmodify f hf t ht
    rcases hrun : (Store.modify p f).runOn t with ⟨e | b, t'⟩
    · obtain ⟨e', he'⟩ := hperforms.error hrun
      rw [hrun] at hkept
      rw [he']
      exact hkept
    · rw [hrun] at hkept
      rw [hperforms.ok hrun]
      exact hkept

end Store

end FleetConfig
