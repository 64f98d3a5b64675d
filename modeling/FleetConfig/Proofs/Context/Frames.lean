import FleetConfig.Proofs.Context.Outcomes

/-!
# What changes to execution contexts leave

A change to an execution context stores one entry. All other servers keep theirs, and the server
whose entry it is keeps its variables when arguments change, and its arguments when variables
change. It disappears only if it has neither.

## Main definitions

* `Context.Frame` — two contexts that differ in one entry.

## Main results

* `Context.frame_upsert` — what storing an entry leaves.
* `Context.frame_change`, `Context.frame_clear` — what changes of an entry leave.
* `Arguments.frame_setIn`, `Arguments.frame_removeIn`, `Arguments.frame_clearIn`,
  `Variables.frame_setIn`, `Variables.frame_removeIn`, `Variables.frame_clearIn` — what the changes
  that commands make leave.
-/

namespace FleetConfig

/-! ### Entries -/

namespace Context

variable {x x' : Context} {name : String} {e : Entry} {o : Outcome} {f : Entry → Entry}
  {isClear : Entry → Bool}

/-- One context differs from another in the entry of one server at most. -/
structure Frame (x : Context) (server : String) (e : Entry) (x' : Context) : Prop where
  /-- Other servers are as they were. -/
  others : ∀ name, name ≠ server → x'.server? name = x.server? name
  /-- The entry is that of the server, where no entry is an empty one. -/
  entry : (x'.server? server).getD default = e
  /-- A server disappears only if its entry is empty. -/
  gone : x.server? server ≠ none → x'.server? server = none → e.args = [] ∧ e.env = .empty

theorem Frame.refl (x : Context) (server : String) :
    x.Frame server ((x.server? server).getD default) x :=
  ⟨fun _ _ => rfl, rfl, fun hthere hgone => absurd hgone hthere⟩

/-- Storing an entry leaves all others. -/
theorem frame_upsert (h : x.upsert name e = .ok (o, x')) : x.Frame name e x' := by
  obtain ⟨-, hserver, -⟩ := upsert_eq_ok h
  have hentry := getD_server?_of_upsert h
  refine ⟨fun other hother => ?_, hentry, fun _ hgone => ?_⟩
  · obtain ⟨_, -, h⟩ := bind_eq_ok.1 h
    split at h
    · split at h <;> cases h
      · rw [server?, NameMap.get?_erase, if_neg hother, server?]
      · rfl
    · cases h
      split
      · rw [server?, NameMap.get?_insert, if_neg hother, server?]
      · rfl
  · rw [hgone] at hentry
    exact hentry ▸ ⟨rfl, rfl⟩

/-- The entry that a server has to have is changed. -/
theorem frame_change (h : x.change name f = .ok (e, o, x')) :
    x.Frame name (f ((x.server? name).getD default)) x' := by
  obtain ⟨e₀, he₀, -, hupsert⟩ := exists_upsert_of_change h
  rw [he₀]
  exact frame_upsert hupsert

/-- What is clear stays as it is. -/
theorem frame_clear (hf : ∀ e, isClear e = true ↔ f e = e)
    (h : x.clear name isClear f = .ok (o, x')) :
    x.Frame name (f ((x.server? name).getD default)) x' := by
  obtain ⟨e₀, he₀, ⟨hclear, -, rfl⟩ | ⟨-, -, o', hupsert⟩⟩ := exists_of_clear h
  · have hsame := Frame.refl x' name
    rw [he₀] at hsame ⊢
    rwa [Option.getD_some, (hf e₀).1 hclear]
  · rw [he₀]
    exact frame_upsert hupsert

end Context

/-! ### Commands -/

variable {x x' : Context} {server : String}

namespace Arguments

variable {r : Report}

/-- One context differs from another in the arguments of one server at most. -/
def Frame (server : String) (x x' : Context) : Prop :=
  ∃ args, x.Frame server { (x.server? server).getD default with args } x'

theorem frame_setIn {incoming : List String} (h : setIn server incoming x = .ok (r, x')) :
    Frame server x x' := by
  obtain ⟨⟨o, x₁⟩, hupsert, h⟩ := bind_eq_ok.1 h
  cases h
  exact ⟨_, Context.frame_upsert hupsert⟩

theorem frame_removeIn {names : List String} (h : removeIn server names x = .ok (r, x')) :
    Frame server x x' := by
  obtain ⟨_, hchange, h⟩ := bind_eq_ok.1 h
  cases h
  exact ⟨_, Context.frame_change hchange⟩

theorem frame_clearIn (h : clearIn server x = .ok (r, x')) : Frame server x x' := by
  obtain ⟨_, hclear, h⟩ := bind_eq_ok.1 h
  cases h
  exact ⟨_, Context.frame_clear isEmpty_iff hclear⟩

end Arguments

namespace Variables

variable {r : Report}

/-- One context differs from another in the variables of one server at most. -/
def Frame (server : String) (x x' : Context) : Prop :=
  ∃ env, x.Frame server { (x.server? server).getD default with env } x'

theorem frame_setIn {pairs : List (String × String)} (h : setIn server pairs x = .ok (r, x')) :
    Frame server x x' := by
  obtain ⟨⟨o, x₁⟩, hupsert, h⟩ := bind_eq_ok.1 h
  cases h
  exact ⟨_, Context.frame_upsert hupsert⟩

theorem frame_removeIn {keys : List String} (h : removeIn server keys x = .ok (r, x')) :
    Frame server x x' := by
  obtain ⟨_, hchange, h⟩ := bind_eq_ok.1 h
  cases h
  exact ⟨_, Context.frame_change hchange⟩

theorem frame_clearIn (h : clearIn server x = .ok (r, x')) : Frame server x x' := by
  obtain ⟨_, hclear, h⟩ := bind_eq_ok.1 h
  cases h
  exact ⟨_, Context.frame_clear isEmpty_iff hclear⟩

end Variables

end FleetConfig
