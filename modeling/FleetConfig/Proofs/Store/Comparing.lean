import FleetConfig.Proofs.Files.Comparing
import FleetConfig.Proofs.Store.Running
import FleetConfig.Store

/-!
# Actions that read no bytes

An action that reads no bytes gives the same result on trees that differ in the bytes of some files
only. To save a document is such an action.

## Main definitions

* `Action.Blind` — an action cannot tell trees apart that differ in the bytes of some files only.

## Main results

* `Action.Blind.bind` — actions that read no bytes, one after another.
* `Store.blind_writeFile`, `Store.blind_save` — nothing is read when a file is written.
-/

namespace FleetConfig

open FileTree (SameBut)

/-! ### Actions -/

namespace Action

variable {α β ε : Type}

/-- An action gives the same result on trees that differ in the bytes of some files only, and leaves
such trees behind. -/
def Blind (x : Action (StateM FileTree) α) : Prop :=
  ∀ D t u, SameBut D t u →
    (runOn x u).1 = (runOn x t).1 ∧ SameBut D (runOn x t).2 (runOn x u).2

namespace Blind

protected theorem pure (a : α) : Blind (pure a) := fun _ _ _ h => ⟨rfl, h⟩

protected theorem throw (f : Failure) : Blind (throw f : Action _ α) := fun _ _ _ h => ⟨rfl, h⟩

protected theorem ofExcept (r : Except ConfigError α) : Blind (ofExcept r) := fun _ _ _ h => by
  rw [runOn_ofExcept, runOn_ofExcept]
  exact ⟨rfl, h⟩

protected theorem bind {x : Action (StateM FileTree) α} {f : α → Action (StateM FileTree) β}
    (hx : Blind x) (hf : ∀ a, Blind (f a)) : Blind (x >>= f) := by
  intro D t u h
  obtain ⟨hresult, hbehind⟩ := hx D t u h
  rw [runOn_bind, runOn_bind]
  rcases ht : runOn x t with ⟨e | a, t'⟩ <;> rcases hu : runOn x u with ⟨r, u'⟩ <;>
    rw [ht, hu] at hresult hbehind <;> obtain rfl := hresult
  · exact ⟨rfl, hbehind⟩
  · exact hf a D t' u' hbehind

protected theorem liftM {x : StateM FileTree α} (hx : FileTree.Blind x) :
    Blind (liftM x : Action (StateM FileTree) α) := by
  intro D t u h
  obtain ⟨hresult, hbehind⟩ := hx D t u h
  rw [runOn_liftM, runOn_liftM, hresult]
  exact ⟨rfl, hbehind⟩

protected theorem lift {toCause : ε → Failure.Cause} {x : StateM FileTree (Except ε α)}
    (hx : FileTree.Blind x) : Blind (lift toCause x) := by
  intro D t u h
  obtain ⟨hresult, hbehind⟩ := hx D t u h
  rw [runOn_lift, runOn_lift, hresult]
  exact ⟨rfl, hbehind⟩

protected theorem within {x : Action (StateM FileTree) α} (hx : Blind x) (context : String) :
    Blind (within context x) := by
  intro D t u h
  obtain ⟨hresult, hbehind⟩ := hx D t u h
  rw [runOn_within, runOn_within, hresult]
  exact ⟨rfl, hbehind⟩

/-- An action that succeeds on one tree succeeds on the other. -/
theorem runOn_eq_ok {x : Action (StateM FileTree) α} (hx : Blind x) {D : Set Place}
    {t u t' : FileTree} {a : α} (h : SameBut D t u) (ht : runOn x t = (.ok a, t')) :
    ∃ u', runOn x u = (.ok a, u') ∧ SameBut D t' u' := by
  obtain ⟨hresult, hbehind⟩ := hx D t u h
  rw [ht] at hresult hbehind
  exact ⟨(runOn x u).2, Prod.ext hresult rfl, hbehind⟩

end Blind

end Action

open FleetConfig.Action (Blind)

/-! ### Writing -/

namespace Store

theorem blind_createParent (what : String) (p : Path) : Blind (createParent what p) := by
  rw [createParent]
  split
  · exact .pure ()
  · exact .within (.lift (FileTree.blind_createDirs _)) _

theorem blind_replaced (p : Path) (r : Except ReplaceFault Unit) : Blind (replaced p r) := by
  match r with
  | .ok () => exact .pure ()
  | .error (.draft path fault) => exact .throw _
  | .error (.target fault) => exact .throw _

theorem blind_writeFile (p : Path) (bytes : ByteArray) : Blind (writeFile p bytes) := by
  rw [writeFile]
  cases p.fileName?.isNone
  · exact .bind (.liftM (FileTree.blind_replace p bytes)) (blind_replaced p)
  · exact .throw _

theorem blind_save {δ : Type} [Document δ] (p : Path) (d : δ) : Blind (save p d) :=
  .bind (blind_createParent _ p) fun _ => blind_writeFile p _

end Store

end FleetConfig
