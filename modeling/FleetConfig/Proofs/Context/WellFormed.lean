import FleetConfig.Command.Variables
import FleetConfig.Proofs.Flag.Canonical
import FleetConfig.Proofs.Results
import FleetConfig.Proofs.Sorted.Lookup

/-!
# Well-formed execution contexts

In a well-formed context the names of servers are names, each server has arguments or variables,
arguments are canonical, and names of variables hold no blank. Storing the entry of a server keeps a
context well-formed, since the name is checked and an empty entry is removed; and every change that
a command makes is the storing of an entry whose arguments and variables are as they should be.

## Main definitions

* `Context.WellFormed` — what holds of every context that commands have made.

## Main results

* `Context.WellFormed.upsert` — what storing an entry keeps.
* `Context.WellFormed.change`, `Context.WellFormed.clear` — what changes of entries keep.
* `Arguments.wellFormed_setIn`, `Arguments.wellFormed_removeIn`, `Arguments.wellFormed_clearIn`,
  `Variables.wellFormed_setIn`, `Variables.wellFormed_removeIn`, `Variables.wellFormed_clearIn` —
  what the changes that commands make keep.
-/

namespace FleetConfig

/-! ### Names -/

/-- A name of a server: letters, digits, dots, underscores and dashes, at least one of them. -/
structure Server.IsName (name : String) : Prop where
  ne_empty : name ≠ ""
  chars : ∀ c ∈ name.toList, isNameChar c = true

theorem Server.checkName_eq_ok_iff {name : String} : checkName name = .ok () ↔ IsName name := by
  rw [checkName, nameFault?]
  split
  · rename_i h
    split at h
    · cases h
    · rename_i hne
      split at h
      · rename_i hall
        exact ⟨fun _ => ⟨hne, List.all_eq_true.1 hall⟩, fun _ => rfl⟩
      · cases h
  · rename_i h
    refine ⟨nofun, fun hname => ?_⟩
    rw [if_neg hname.ne_empty, if_pos (List.all_eq_true.2 hname.chars)] at h
    cases h

/-- A name of a variable: not empty, and without blanks. -/
structure Variables.IsName (name : String) : Prop where
  ne_empty : name ≠ ""
  chars : ∀ c ∈ name.toList, Text.isBlank c = false

/-! ### Contexts -/

namespace Context

/-- The arguments of an entry are canonical, and the names of its variables are names. -/
structure Entry.WellFormed (e : Entry) : Prop where
  args : Flag.Canonical e.args
  env : ∀ v ∈ e.env.keys, Variables.IsName v

/-- What holds of every context that commands have made. -/
structure WellFormed (x : Context) : Prop where
  /-- The names of servers are names. -/
  names : ∀ name e, x.server? name = some e → Server.IsName name
  /-- Each server has arguments or variables. -/
  occupied : ∀ name e, x.server? name = some e → e.args ≠ [] ∨ e.env.keys ≠ []
  /-- The arguments and variables of each server are as they should be. -/
  entries : ∀ name e, x.server? name = some e → e.WellFormed

variable {x x' : Context} {name : String} {e : Entry} {o : Outcome} {f : Entry → Entry}
  {isClear : Entry → Bool}

theorem Entry.WellFormed.empty : Entry.WellFormed default := ⟨.nil, nofun⟩

theorem WellFormed.empty : WellFormed {} := ⟨nofun, nofun, nofun⟩

/-- The entry of a server, or an empty one. -/
theorem WellFormed.getD (hx : x.WellFormed) (name : String) :
    ((x.server? name).getD default).WellFormed := by
  cases he : x.server? name with
  | none => exact .empty
  | some e => exact hx.entries name e he

theorem server?_of_requireServer (h : x.requireServer name = .ok e) : x.server? name = some e := by
  rw [requireServer] at h
  split at h
  · rename_i he
    cases h
    exact he
  · cases h

theorem WellFormed.erase (hx : x.WellFormed) (name : String) :
    WellFormed { servers := x.servers.erase name } := by
  have hold : ∀ other e, (x.servers.erase name).get? other = some e →
      x.server? other = some e := by
    intro other e h
    rw [NameMap.get?_erase] at h
    split at h
    · cases h
    · exact h
  exact ⟨fun other e h => hx.names other e (hold other e h),
    fun other e h => hx.occupied other e (hold other e h),
    fun other e h => hx.entries other e (hold other e h)⟩

theorem WellFormed.insert (hx : x.WellFormed) (hname : Server.IsName name)
    (hoccupied : e.args ≠ [] ∨ e.env.keys ≠ []) (he : e.WellFormed) :
    WellFormed { servers := x.servers.insert name e } := by
  have hnew : ∀ other e', (x.servers.insert name e).get? other = some e' →
      other = name ∧ e' = e ∨ x.server? other = some e' := by
    intro other e' h
    rw [NameMap.get?_insert] at h
    split at h
    · cases h
      exact .inl ⟨‹_›, rfl⟩
    · exact .inr h
  refine ⟨fun other e' h => ?_, fun other e' h => ?_, fun other e' h => ?_⟩
  · rcases hnew other e' h with ⟨rfl, rfl⟩ | h
    · exact hname
    · exact hx.names other e' h
  · rcases hnew other e' h with ⟨rfl, rfl⟩ | h
    · exact hoccupied
    · exact hx.occupied other e' h
  · rcases hnew other e' h with ⟨rfl, rfl⟩ | h
    · exact he
    · exact hx.entries other e' h

theorem Entry.occupied_of_isEmpty (h : e.isEmpty = false) : e.args ≠ [] ∨ e.env.keys ≠ [] := by
  rw [isEmpty, Bool.and_eq_false_iff] at h
  refine h.imp List.isEmpty_eq_false_iff.1 fun henv hkeys => ?_
  rw [NameMap.isEmpty, List.map_eq_nil_iff.1 hkeys] at henv
  cases henv

/-- The name is checked, and an empty entry is removed. -/
theorem WellFormed.upsert (hx : x.WellFormed) (he : e.WellFormed)
    (h : x.upsert name e = .ok (o, x')) : x'.WellFormed := by
  obtain ⟨_, hname, h⟩ := bind_eq_ok.1 h
  split at h
  · split at h
    · cases h
      exact hx.erase name
    · cases h
      exact hx
  · rename_i hempty
    cases h
    split
    · exact hx.insert (Server.checkName_eq_ok_iff.1 hname)
        (Entry.occupied_of_isEmpty (Bool.eq_false_iff.2 hempty)) he
    · exact hx

/-! ### Changes of entries -/

/-- A change stores what it makes of the entry that is there. -/
theorem exists_upsert_of_change (h : x.change name f = .ok (e, o, x')) :
    ∃ e₀, x.server? name = some e₀ ∧ e = f e₀ ∧ x.upsert name (f e₀) = .ok (o, x') := by
  obtain ⟨e₀, he₀, h⟩ := bind_eq_ok.1 h
  obtain ⟨⟨o, x₁⟩, hupsert, h⟩ := bind_eq_ok.1 h
  cases h
  exact ⟨e₀, server?_of_requireServer he₀, rfl, hupsert⟩

/-- What is to be cleared is clear, or what is left of the entry is stored. -/
theorem exists_of_clear (h : x.clear name isClear f = .ok (o, x')) :
    ∃ e₀, x.server? name = some e₀ ∧ (isClear e₀ = true ∧ o = .noop ∧ x' = x ∨
      isClear e₀ = false ∧ o = .deleted ∧ ∃ o', x.upsert name (f e₀) = .ok (o', x')) := by
  obtain ⟨e₀, he₀, h⟩ := bind_eq_ok.1 h
  refine ⟨e₀, server?_of_requireServer he₀, ?_⟩
  split at h
  · rename_i hclear
    cases h
    exact .inl ⟨hclear, rfl, rfl⟩
  · rename_i hclear
    obtain ⟨⟨o', x₁⟩, hupsert, h⟩ := bind_eq_ok.1 h
    cases h
    exact .inr ⟨Bool.eq_false_iff.2 hclear, rfl, o', hupsert⟩

theorem WellFormed.change (hx : x.WellFormed) (hf : ∀ e : Entry, e.WellFormed → (f e).WellFormed)
    (h : x.change name f = .ok (e, o, x')) : x'.WellFormed := by
  obtain ⟨e₀, he₀, -, hupsert⟩ := exists_upsert_of_change h
  exact hx.upsert (hf e₀ (hx.entries name e₀ he₀)) hupsert

theorem WellFormed.clear (hx : x.WellFormed) (hf : ∀ e : Entry, e.WellFormed → (f e).WellFormed)
    (h : x.clear name isClear f = .ok (o, x')) : x'.WellFormed := by
  obtain ⟨e₀, he₀, ⟨-, -, rfl⟩ | ⟨-, -, o', hupsert⟩⟩ := exists_of_clear h
  · exact hx
  · exact hx.upsert (hf e₀ (hx.entries name e₀ he₀)) hupsert

end Context

/-! ### Changes of arguments -/

namespace Arguments

variable {x x' : Context} {server : String} {r : Report}

theorem wellFormed_setIn {incoming : List String} (hincoming : Flag.Canonical incoming)
    (hx : x.WellFormed) (h : setIn server incoming x = .ok (r, x')) : x'.WellFormed := by
  obtain ⟨⟨o, x₁⟩, hupsert, h⟩ := bind_eq_ok.1 h
  cases h
  have he := hx.getD server
  refine hx.upsert ?_ hupsert
  exact ⟨he.args.upsert hincoming, he.env⟩

theorem wellFormed_removeIn {names : List String} (hx : x.WellFormed)
    (h : removeIn server names x = .ok (r, x')) : x'.WellFormed := by
  obtain ⟨_, hchange, h⟩ := bind_eq_ok.1 h
  cases h
  refine hx.change (fun e he => ?_) hchange
  exact ⟨he.args.remove names, he.env⟩

theorem wellFormed_clearIn (hx : x.WellFormed) (h : clearIn server x = .ok (r, x')) :
    x'.WellFormed := by
  obtain ⟨_, hclear, h⟩ := bind_eq_ok.1 h
  cases h
  refine hx.clear (fun e he => ?_) hclear
  exact ⟨.nil, he.env⟩

end Arguments

/-! ### Changes of variables -/

namespace Variables

variable {x x' : Context} {server : String} {r : Report}

theorem isName_of_parsePair {raw : String} {pair : String × String}
    (h : parsePair raw = .ok pair) : IsName pair.1 := by
  rw [parsePair] at h
  split at h
  · cases h
  · dsimp only at h
    split at h
    · cases h
    · rename_i key value _ hname
      rw [not_or, Bool.not_eq_true, List.any_eq_false] at hname
      cases h
      exact ⟨hname.1, fun c hc => Bool.eq_false_iff.2 (hname.2 c hc)⟩

theorem isName_of_parsed {raws : List String} {pairs : List (String × String)}
    (h : raws.mapM parsePair = .ok pairs) : ∀ p ∈ pairs, IsName p.1 := by
  have hparsed := forall₂_of_mapM h
  clear h
  induction hparsed with
  | nil => exact nofun
  | cons hp _ ih => exact List.forall_mem_cons.2 ⟨isName_of_parsePair hp, ih⟩

/-- The variables of an entry are its own and the ones that are set. -/
theorem isName_insertAll {pairs : List (String × String)} {env : NameMap String}
    (henv : ∀ v ∈ env.keys, IsName v) (hpairs : ∀ p ∈ pairs, IsName p.1) :
    ∀ v ∈ (pairs.foldl (fun env p => env.insert p.1 p.2) env).keys, IsName v := by
  induction pairs generalizing env with
  | nil => exact henv
  | cons p pairs ih =>
    obtain ⟨hp, hpairs⟩ := List.forall_mem_cons.1 hpairs
    refine ih (fun v hv => ?_) hpairs
    obtain ⟨value, hvalue⟩ := NameMap.mem_keys_iff.1 hv
    rw [NameMap.get?_insert] at hvalue
    split at hvalue
    · rename_i hname
      exact hname ▸ hp
    · exact henv v (NameMap.mem_keys_iff.2 ⟨value, hvalue⟩)

theorem isName_eraseAll {keys : List String} {env : NameMap String}
    (henv : ∀ v ∈ env.keys, IsName v) :
    ∀ v ∈ (keys.foldl (fun env key => env.erase (Text.trim key)) env).keys, IsName v := by
  induction keys generalizing env with
  | nil => exact henv
  | cons key keys ih =>
    refine ih fun v hv => ?_
    obtain ⟨value, hvalue⟩ := NameMap.mem_keys_iff.1 hv
    rw [NameMap.get?_erase] at hvalue
    split at hvalue
    · cases hvalue
    · exact henv v (NameMap.mem_keys_iff.2 ⟨value, hvalue⟩)

theorem wellFormed_setIn {pairs : List (String × String)} (hpairs : ∀ p ∈ pairs, IsName p.1)
    (hx : x.WellFormed) (h : setIn server pairs x = .ok (r, x')) : x'.WellFormed := by
  obtain ⟨⟨o, x₁⟩, hupsert, h⟩ := bind_eq_ok.1 h
  cases h
  have he := hx.getD server
  refine hx.upsert ?_ hupsert
  exact ⟨he.args, isName_insertAll he.env hpairs⟩

theorem wellFormed_removeIn {keys : List String} (hx : x.WellFormed)
    (h : removeIn server keys x = .ok (r, x')) : x'.WellFormed := by
  obtain ⟨_, hchange, h⟩ := bind_eq_ok.1 h
  cases h
  refine hx.change (fun e he => ?_) hchange
  exact ⟨he.args, isName_eraseAll he.env⟩

theorem wellFormed_clearIn (hx : x.WellFormed) (h : clearIn server x = .ok (r, x')) :
    x'.WellFormed := by
  obtain ⟨_, hclear, h⟩ := bind_eq_ok.1 h
  cases h
  refine hx.clear (fun e he => ?_) hclear
  exact ⟨he.args, nofun⟩

end Variables

end FleetConfig
