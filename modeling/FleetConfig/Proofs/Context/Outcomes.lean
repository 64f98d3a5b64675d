import FleetConfig.Command.Arguments
import FleetConfig.Proofs.Context.WellFormed
import FleetConfig.Proofs.Outcome

/-!
# Outcomes of changes to execution contexts

An entry is stored unless it is empty, and the outcome compares what is stored with what was there.
So nothing is reported to have changed exactly if the context is the same as before, for all changes
of arguments and variables.

## Main definitions

* `Context.Entry.stored` — what is stored of an entry.

## Main results

* `Context.outcome_eq_noop_iff` — the outcome of storing an entry.
* `Context.outcome_change`, `Context.outcome_clear` — the outcomes of changes of an entry.
* `Arguments.outcome_setIn`, `Arguments.outcome_removeIn`, `Arguments.outcome_clearIn`,
  `Variables.outcome_setIn`, `Variables.outcome_removeIn`, `Variables.outcome_clearIn` — the
  outcomes that commands report.
-/

namespace FleetConfig

/-! ### Entries -/

namespace Context

variable {x x' : Context} {name : String} {e e' : Entry} {o : Outcome} {f : Entry → Entry}
  {isClear : Entry → Bool}

/-- What is stored of an entry: nothing, if it is empty. -/
def Entry.stored (e : Entry) : Option Entry := if e.isEmpty then none else some e

/-- An empty entry is read where nothing is stored. -/
theorem Entry.getD_stored (e : Entry) : e.stored.getD default = e := by
  rw [stored]
  split
  · rename_i hempty
    obtain ⟨hargs, henv⟩ := Bool.and_eq_true_iff.1 hempty
    obtain ⟨args, env⟩ := e
    obtain rfl := List.isEmpty_iff.1 hargs
    obtain rfl : NameMap.empty = env := NameMap.ext (List.isEmpty_iff.1 henv).symm
    rfl
  · rfl

/-- An entry is stored exactly if the server can have its name. -/
theorem exists_upsert_iff : (∃ r, x.upsert name e = .ok r) ↔ Server.checkName name = .ok () := by
  constructor
  · rintro ⟨r, h⟩
    obtain ⟨_, hname, -⟩ := bind_eq_ok.1 h
    exact hname
  · intro hname
    rw [upsert, hname]
    cases e.isEmpty with
    | true => cases x.server? name <;> exact ⟨_, rfl⟩
    | false => exact ⟨_, rfl⟩

/-- What is stored is compared with what was there. -/
theorem upsert_eq_ok (h : x.upsert name e = .ok (o, x')) :
    o = Outcome.ofChange (x.server? name) e.stored ∧ x'.server? name = e.stored ∧
      (o = .noop → x' = x) := by
  obtain ⟨_, -, h⟩ := bind_eq_ok.1 h
  rw [Entry.stored]
  split at h
  · rename_i hempty
    rw [if_pos hempty]
    cases hserver : x.server? name with
    | some e' =>
      rw [hserver] at h
      cases h
      refine ⟨rfl, ?_, fun hnoop => by cases hnoop⟩
      rw [server?, NameMap.get?_erase, if_pos rfl]
    | none =>
      rw [hserver] at h
      cases h
      exact ⟨rfl, hserver, fun _ => rfl⟩
  · rename_i hempty
    rw [if_neg hempty]
    cases h
    refine ⟨rfl, ?_, fun hnoop => by rw [hnoop]; rfl⟩
    split
    · rw [server?, NameMap.get?_insert, if_pos rfl]
    · rename_i hchange
      have hnoop := Outcome.isChange_eq_false_iff.1 (Bool.eq_false_iff.2 hchange)
      exact (Outcome.ofChange_eq_noop_iff _ _).1 hnoop

/-- What was stored is the entry of its server. -/
theorem getD_server?_of_upsert (h : x.upsert name e = .ok (o, x')) :
    (x'.server? name).getD default = e := by
  rw [(upsert_eq_ok h).2.1, e.getD_stored]

/-- Nothing is reported to have changed exactly if the context is the same. -/
theorem outcome_eq_noop_iff (h : x.upsert name e = .ok (o, x')) : o = .noop ↔ x' = x := by
  obtain ⟨rfl, hserver, hnoop⟩ := upsert_eq_ok h
  refine ⟨hnoop, ?_⟩
  rintro rfl
  exact (Outcome.ofChange_eq_noop_iff _ _).2 hserver

/-- An entry that changes changes the context. -/
theorem ne_of_upsert (hserver : x.server? name = some e) (hne : e' ≠ e)
    (h : x.upsert name e' = .ok (o, x')) : x' ≠ x := by
  rintro rfl
  have hstored := (upsert_eq_ok h).2.1
  rw [hserver, Entry.stored] at hstored
  split at hstored
  · cases hstored
  · exact hne (Option.some.inj hstored).symm

theorem outcome_change (h : x.change name f = .ok (e, o, x')) : o = .noop ↔ x' = x := by
  obtain ⟨e₀, -, -, hupsert⟩ := exists_upsert_of_change h
  exact outcome_eq_noop_iff hupsert

/-- What is there to be cleared is gone afterwards. -/
theorem outcome_clear (hf : ∀ e, isClear e = true ↔ f e = e)
    (h : x.clear name isClear f = .ok (o, x')) : o = .noop ↔ x' = x := by
  obtain ⟨e₀, he₀, ⟨-, rfl, rfl⟩ | ⟨hclear, rfl, o', hupsert⟩⟩ := exists_of_clear h
  · exact iff_of_true rfl rfl
  · have hne : f e₀ ≠ e₀ := fun heq => Bool.false_ne_true (hclear.symm.trans ((hf e₀).2 heq))
    exact iff_of_false (fun ho => by cases ho) (ne_of_upsert he₀ hne hupsert)

end Context

/-! ### Commands -/

variable {x x' : Context} {server : String}

namespace Arguments

variable {r : Report}

/-- There are no arguments exactly if nothing happens when they are taken away. -/
theorem isEmpty_iff (e : Context.Entry) : e.args.isEmpty = true ↔ { e with args := [] } = e := by
  rw [List.isEmpty_iff]
  constructor
  · intro h
    rw [← h]
  · intro h
    rw [← h]

theorem outcome_setIn {incoming : List String} (h : setIn server incoming x = .ok (r, x')) :
    r.outcome = .noop ↔ x' = x := by
  obtain ⟨⟨o, x₁⟩, hupsert, h⟩ := bind_eq_ok.1 h
  cases h
  exact Context.outcome_eq_noop_iff hupsert

theorem outcome_removeIn {names : List String} (h : removeIn server names x = .ok (r, x')) :
    r.outcome = .noop ↔ x' = x := by
  obtain ⟨_, hchange, h⟩ := bind_eq_ok.1 h
  cases h
  exact Context.outcome_change hchange

theorem outcome_clearIn (h : clearIn server x = .ok (r, x')) : r.outcome = .noop ↔ x' = x := by
  obtain ⟨_, hclear, h⟩ := bind_eq_ok.1 h
  cases h
  exact Context.outcome_clear isEmpty_iff hclear

end Arguments

namespace Variables

variable {r : Report}

/-- There are no variables exactly if nothing happens when they are taken away. -/
theorem isEmpty_iff (e : Context.Entry) : e.env.isEmpty = true ↔ { e with env := .empty } = e := by
  constructor
  · intro h
    have henv : NameMap.empty = e.env := NameMap.ext (List.isEmpty_iff.1 h).symm
    rw [henv]
  · intro h
    rw [← h]
    rfl

theorem outcome_setIn {pairs : List (String × String)} (h : setIn server pairs x = .ok (r, x')) :
    r.outcome = .noop ↔ x' = x := by
  obtain ⟨⟨o, x₁⟩, hupsert, h⟩ := bind_eq_ok.1 h
  cases h
  exact Context.outcome_eq_noop_iff hupsert

theorem outcome_removeIn {keys : List String} (h : removeIn server keys x = .ok (r, x')) :
    r.outcome = .noop ↔ x' = x := by
  obtain ⟨_, hchange, h⟩ := bind_eq_ok.1 h
  cases h
  exact Context.outcome_change hchange

theorem outcome_clearIn (h : clearIn server x = .ok (r, x')) : r.outcome = .noop ↔ x' = x := by
  obtain ⟨_, hclear, h⟩ := bind_eq_ok.1 h
  cases h
  exact Context.outcome_clear isEmpty_iff hclear

end Variables

end FleetConfig
