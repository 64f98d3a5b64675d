import FleetConfig.Contract
import FleetConfig.Proofs.Daemon.Registry

/-!
# Setting a key

To set a key by its path is to put the value that the input denotes under that key. The key holds
the value afterwards and nothing else has changed, in whatever order keys are set: of two values for
one key the later stays, and values for two keys stay both.

## Main definitions

* `Daemon.Asks` — the key and the value that a path and some input ask for.
* `Daemon.Puts` — what it is to put a value under a key.

## Main results

* `Daemon.set_eq_ok_iff` — setting a path puts the value under the key.
* `Daemon.get_path` — what is got by the path of a key.
* `Daemon.prune_set_set`, `Daemon.prune_set_comm` — two settings, of one key and of two keys.
* `Daemon.set_exact_local` — all of this together.
-/

namespace FleetConfig.Daemon

open Setting (Leaf)

variable {d d' d₁ d₂ : Daemon} {path path' input input' : String} {k k' : Key}
  {v v' : Option Leaf} {o o' : Outcome}

/-! ### Paths -/

theorem Key.find?_eq_some_iff : Key.find? path = some k ↔ k.path = path := by
  constructor
  · intro h
    have hpath := List.find?_some h
    exact beq_iff_eq.1 hpath
  · rintro rfl
    cases k <;> decide

theorem Key.path_injective : Function.Injective Key.path := by
  intro k k' h
  have hfind := Key.find?_eq_some_iff.2 h
  rw [Key.find?_eq_some_iff.2 rfl] at hfind
  exact (Option.some.inj hfind).symm

theorem Key.lookup_eq_ok_iff : Key.lookup path = .ok k ↔ k.path = Text.trim path := by
  rw [Key.lookup, ← Key.find?_eq_some_iff]
  cases Key.find? (Text.trim path) with
  | none => exact ⟨nofun, nofun⟩
  | some k' => rw [Except.ok.injEq, Option.some.injEq]

/-- What is got by the path of a key is what the key reads. -/
theorem get_path (d : Daemon) (k : Key) : d.get k.path = .ok ((k.read d).map .leaf) := by
  have hfind : Key.find? (cleanPath k.path) = some k := by cases k <;> decide
  rw [get, hfind]

/-! ### Setting one key -/

/-- The key and the value, or nothing, that a path and some input ask for. -/
structure Asks (path input : String) (k : Key) (v : Option Leaf) : Prop where
  /-- Blanks around the path do not count. -/
  path : k.path = Text.trim path
  value : k.kind.parse k.path input = .ok v

/-- Two requests for one path are about one key. -/
theorem Asks.key_eq_iff (h : Asks path input k v) (h' : Asks path' input' k' v') :
    k = k' ↔ Text.trim path = Text.trim path' := by
  rw [← h.path, ← h'.path]
  exact Key.path_injective.eq_iff.symm

theorem Asks.fits (h : Asks path input k v) : ∀ l ∈ v, k.Fits l := by
  rintro l rfl
  exact Setting.Kind.kind_of_parse h.value

/-- Setting a path puts the value that is asked for under the key of the path. -/
theorem set_eq_ok_iff :
    d.set path input = .ok (o, d') ↔ ∃ k v, Asks path input k v ∧
      o = Outcome.ofChange (k.read d) v ∧ d' = (d.apply k v).2 := by
  rw [set_eq, bind_eq_ok]
  simp only [bind_eq_ok, Key.lookup_eq_ok_iff]
  constructor
  · rintro ⟨k, hpath, v, hvalue, h⟩
    cases h
    exact ⟨k, v, ⟨hpath, hvalue⟩, rfl, rfl⟩
  · rintro ⟨k, v, hasks, rfl, rfl⟩
    exact ⟨k, hasks.path, v, hasks.value, rfl⟩

/-- Nothing is written before the key is found and the input is read. -/
theorem atomicOn_setEdit (path input : String) (d : Daemon) : (setEdit path input).AtomicOn d :=
  .bind_liftM fun _ _ => .bind_liftM fun _ _ => .of_made rfl

/-- What is asked for of no key is refused. -/
theorem exists_error_of_not_asks (h : ∀ k v, ¬ Asks path input k v) (d : Daemon) :
    ∃ e, d.set path input = .error e := by
  cases hset : d.set path input with
  | error e => exact ⟨e, rfl⟩
  | ok result =>
    obtain ⟨k, v, hasks, -⟩ := set_eq_ok_iff.1 hset
    exact absurd hasks (h k v)

theorem set_of_asks (d : Daemon) (h : Asks path input k v) :
    d.set path input = .ok (Outcome.ofChange (k.read d) v, (d.apply k v).2) :=
  set_eq_ok_iff.2 ⟨k, v, h, rfl, rfl⟩

/-- A value, or nothing, has been put under a key. -/
structure Puts (k : Key) (v : Option Leaf) (d : Daemon) (o : Outcome) (d' : Daemon) : Prop where
  /-- The outcome compares the value with the one before. -/
  outcome : o = Outcome.ofChange (k.read d) v
  /-- The value is got by the path of the key. -/
  get_self : d'.get k.path = .ok (v.map .leaf)
  /-- All other keys hold what they held. -/
  others : ∀ k' ∈ Key.all, k' ≠ k → k'.read d' = k'.read d
  /-- A section that does not change keeps even its empty sections. -/
  unchanged : o = .noop → d' = d
  /-- A section that changes is pruned. -/
  pruned : o ≠ .noop → d'.prune = d'

theorem Asks.puts (h : Asks path input k v) (d : Daemon) :
    Puts k v d (Outcome.ofChange (k.read d) v) (d.apply k v).2 where
  outcome := rfl
  get_self := by rw [get_path, read_apply d k k h.fits, if_pos rfl]
  others k' _ hne := by rw [read_apply d k k' h.fits, if_neg hne]
  unchanged ho := by rw [apply, ho]; rfl
  pruned ho := by
    rw [apply, if_pos (Outcome.isChange_eq_true_iff.2 ho)]
    exact prune_prune _

/-! ### Setting two keys -/

/-- Of two values for one key the later stays. -/
theorem prune_set_set (h : Asks path input k v) (h' : Asks path' input' k v') (d : Daemon) :
    ((d.apply k v).2.apply k v').2.prune = (d.apply k v').2.prune := by
  refine prune_eq_of_read_eq fun key _ => ?_
  rw [read_apply _ _ _ h'.fits, read_apply _ _ _ h.fits, read_apply _ _ _ h'.fits]
  split <;> rfl

/-- Values for two keys stay both, whichever is set first. -/
theorem prune_set_comm (h : Asks path input k v) (h' : Asks path' input' k' v') (hne : k ≠ k')
    (d : Daemon) :
    ((d.apply k v).2.apply k' v').2.prune = ((d.apply k' v').2.apply k v).2.prune := by
  refine prune_eq_of_read_eq fun key _ => ?_
  rw [read_apply _ _ _ h'.fits, read_apply _ _ _ h.fits, read_apply _ _ _ h.fits,
    read_apply _ _ _ h'.fits]
  by_cases hkey : key = k
  · rw [if_neg (hkey ▸ hne), if_pos hkey, if_pos hkey]
  · rw [if_neg hkey, if_neg hkey]

/-- Setting a key reports the same after another key was set. -/
theorem set_after_other (h : Asks path input k v) (h' : Asks path' input' k' v') (hne : k' ≠ k)
    (d : Daemon) : (d.apply k v).2.set path' input' =
      .ok (Outcome.ofChange (k'.read d) v', ((d.apply k v).2.apply k' v').2) := by
  rw [set_of_asks _ h', read_apply d k k' h.fits, if_neg hne]

/-! ### The result -/

/-- To set a path is refused, and then the section and a contract that holds it are as they were, or
puts the value that is asked for under the key of the path. Of two values for one key the later
stays, and settings of two keys can be exchanged; both hold up to empty sections. -/
theorem set_exact_local (d : Daemon) :
    (∀ path input,
      (∃ e, d.set path input = .error e ∧ (∀ k ∈ Key.all, ∀ v, ¬ Asks path input k v) ∧
        (setEdit path input).on d = (.error e, d) ∧
        ∀ c : Contract, c.daemon = some d →
          (Contract.inDaemon (setEdit path input)).on c = (.error e, c)) ∨
      ∃ k ∈ Key.all, ∃ v o d', Asks path input k v ∧ d.set path input = .ok (o, d') ∧
        Puts k v d o d') ∧
      (∀ path path' input input' o₁ d₁ o₂ d₂, Text.trim path = Text.trim path' →
        d.set path input = .ok (o₁, d₁) → d₁.set path' input' = .ok (o₂, d₂) →
        ∃ o d', d.set path' input' = .ok (o, d') ∧ d₂.prune = d'.prune) ∧
      ∀ path path' input input' o d₁ o' d₂, Text.trim path ≠ Text.trim path' →
        d.set path input = .ok (o, d₁) → d.set path' input' = .ok (o', d₂) →
        ∃ d₁₂ d₂₁, d₁.set path' input' = .ok (o', d₁₂) ∧ d₂.set path input = .ok (o, d₂₁) ∧
          d₁₂.prune = d₂₁.prune := by
  refine ⟨fun path input => ?_, ?_, ?_⟩
  · by_cases hasks : ∃ k v, Asks path input k v
    · obtain ⟨k, v, hasks⟩ := hasks
      exact .inr ⟨k, k.mem_all, v, _, _, hasks, set_of_asks d hasks, hasks.puts d⟩
    · have hnone : ∀ k v, ¬ Asks path input k v := fun k v h => hasks ⟨k, v, h⟩
      obtain ⟨e, he⟩ := exists_error_of_not_asks hnone d
      have hon := (atomicOn_setEdit path input d).on_eq he
      refine .inl ⟨e, he, fun k _ => hnone k, hon, fun c hc => ?_⟩
      obtain ⟨servers, daemon, plugins⟩ := c
      obtain rfl : daemon = some d := hc
      exact Edit.on_ofPart_of_same rfl hon
  · intro path path' input input' o₁ d₁ o₂ d₂ hpath h₁ h₂
    obtain ⟨k, v, hasks, rfl, rfl⟩ := set_eq_ok_iff.1 h₁
    obtain ⟨k', v', hasks', rfl, rfl⟩ := set_eq_ok_iff.1 h₂
    obtain rfl : k = k' := (hasks.key_eq_iff hasks').2 hpath
    exact ⟨_, _, set_of_asks d hasks', prune_set_set hasks hasks' d⟩
  · intro path path' input input' o d₁ o' d₂ hpath h₁ h₂
    obtain ⟨k, v, hasks, rfl, rfl⟩ := set_eq_ok_iff.1 h₁
    obtain ⟨k', v', hasks', rfl, rfl⟩ := set_eq_ok_iff.1 h₂
    have hne : k ≠ k' := mt (hasks.key_eq_iff hasks').1 hpath
    exact ⟨_, _, set_after_other hasks hasks' hne.symm d, set_after_other hasks' hasks hne d,
      prune_set_comm hasks hasks' hne d⟩

/-- The address is set twice in a section with an empty section, and a list beside it. -/
theorem set_exact_local_addressTwice :
    let d : Daemon := { api := some { cors := some {} } }
    let d₁ : Daemon := { api := some { addr := some ":80" } }
    let d₂ : Daemon := { api := some { addr := some ":90" } }
    let d₃ : Daemon := { api := some { cors := some { methods := ["GET", "PUT"] } } }
    d.set "api.addr" ":80" = .ok (.created, d₁) ∧
      (d₁.set " api.addr" ":90 " = .ok (.updated, d₂) ∧
        ∃ o d', d.set " api.addr" ":90 " = .ok (o, d') ∧ d₂.prune = d'.prune) ∧
      d.set "api.cors.methods" "GET, ,PUT" = .ok (.created, d₃) ∧
        ∃ d₁₂ d₂₁, d₁.set "api.cors.methods" "GET, ,PUT" = .ok (.created, d₁₂) ∧
          d₃.set "api.addr" ":80" = .ok (.created, d₂₁) ∧ d₁₂.prune = d₂₁.prune := by
  intro d d₁ d₂ d₃
  have h₁ : d.set "api.addr" ":80" = .ok (.created, d₁) := by rfl
  have h₂ : d₁.set " api.addr" ":90 " = .ok (.updated, d₂) := by rfl
  have h₃ : d.set "api.cors.methods" "GET, ,PUT" = .ok (.created, d₃) := by rfl
  obtain ⟨-, hsame, hother⟩ := set_exact_local d
  exact ⟨h₁, ⟨h₂, hsame _ _ _ _ _ _ _ _ (by decide) h₁ h₂⟩, h₃,
    hother _ _ _ _ _ _ _ _ (by decide) h₁ h₃⟩

end FleetConfig.Daemon
