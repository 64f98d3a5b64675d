import FleetConfig.Proofs.Cli.Settings
import FleetConfig.Proofs.Command.Edits
import FleetConfig.Proofs.Daemon.Validity
import FleetConfig.Proofs.Outcome
import FleetConfig.Proofs.Store.Editing
import Mathlib.Data.List.Nodup

/-!
# Assignments in another order

Assignments to different keys can be made in any order. Each key then holds what its one assignment
asks for, and each change reports the same as if it were the first one, so the order shows only in
the order of the report.

## Main definitions

* `Settings.keyOf?` — the name in an assignment.
* `Settings.DistinctKeys` — changes of which no two name one key.
* `Settings.outcomeIn` — what a change reports if it is the first one.

## Main results

* `Settings.changes_of_setEach` — what changes of different keys report.
* `Settings.read_eq_of_perm` — what each key holds after changes in any order.
* `Settings.set_perm` — commands with the same assignments in another order end alike.
-/

namespace FleetConfig.Settings

open Daemon (Asks Key)
open Store (EndAlike Matches)

variable {a b : String × String} {pairs pairs' : List (String × String)} {d d₁ d₂ : Daemon}
  {k : Key} {r r' : Report} {raw : String}

/-! ### Different keys -/

/-- The name before the first equals sign of an assignment, without blanks around it. -/
def keyOf? (assignment : String) : Option String :=
  (Text.splitFirst '=' assignment).map fun cut => Text.trim cut.1

/-- No two changes name one key. -/
def DistinctKeys (pairs : List (String × String)) : Prop :=
  (pairs.map fun a => Text.trim a.1).Nodup

theorem keyOf?_of_parse (h : parseAssignment raw = .ok a) :
    keyOf? raw = some (Text.trim a.1) := by
  obtain ⟨name, hsplit, hname, -⟩ := exists_split_of_parse h
  have htrim : Text.trim (Text.trim name) = Text.trim name := Text.trimmed_trim name
  rw [keyOf?, hsplit, Option.map_some, hname, htrim]

/-- Assignments with different names make changes with different names. -/
theorem distinctKeys_of_mapM {assignments : List String}
    (hparsed : assignments.mapM parseAssignment = .ok pairs)
    (hdistinct : (assignments.filterMap keyOf?).Nodup) : DistinctKeys pairs := by
  have hkeys : assignments.filterMap keyOf? = pairs.map fun a => Text.trim a.1 := by
    have hforall := forall₂_of_mapM hparsed
    clear hparsed hdistinct
    induction hforall with
    | nil => rfl
    | cons ha _ ih => rw [List.filterMap_cons, keyOf?_of_parse ha, List.map_cons, ih]
  rwa [DistinctKeys, ← hkeys]

/-- There is one input for a key at most. -/
theorem length_inputs_le_one (h : DistinctKeys pairs) (k : Key) :
    (pairs.filterMap (inputIn? k)).length ≤ 1 := by
  have hcount : (pairs.filterMap (inputIn? k)).length =
      (pairs.map fun a => Text.trim a.1).count k.path := by
    clear h
    induction pairs with
    | nil => rfl
    | cons a pairs ih =>
      rw [List.filterMap_cons, List.map_cons, List.count_cons, ← ih, inputIn?]
      by_cases hname : Text.trim a.1 = k.path
      · rw [if_pos hname, if_pos (beq_iff_eq.2 hname)]
        rfl
      · rw [if_neg hname, if_neg (mt beq_iff_eq.1 hname)]
        rfl
  rw [hcount]
  exact List.nodup_iff_count_le_one.1 h k.path

/-- So the inputs for a key are the same in any order of the changes. -/
theorem inputs_eq_of_perm (h : DistinctKeys pairs) (hperm : pairs.Perm pairs') (k : Key) :
    pairs.filterMap (inputIn? k) = pairs'.filterMap (inputIn? k) := by
  have hinputs := hperm.filterMap (inputIn? k)
  have hlength := length_inputs_le_one h k
  generalize pairs.filterMap (inputIn? k) = inputs at hinputs hlength
  match inputs, hlength with
  | [], _ => exact (List.nil_perm.1 hinputs).symm
  | [_], _ => exact (List.singleton_perm.1 hinputs)

/-! ### A row of changes -/

/-- Each change asks for a value, or nothing, under a key; then all are made. -/
theorem exists_setEach (h : ∀ a ∈ pairs, ∃ k v, Asks a.1 a.2 k v) (d : Daemon) :
    ∃ r d', setEach pairs d = .ok (r, d') := by
  induction pairs generalizing d with
  | nil => exact ⟨_, _, rfl⟩
  | cons a pairs ih =>
    obtain ⟨⟨k, v, hasks⟩, hpairs⟩ := List.forall_mem_cons.1 h
    obtain ⟨r, d', hrest⟩ := ih hpairs (d.apply k v).2
    refine ⟨⟨(a.1, Outcome.ofChange (k.read d) v) :: r.changes⟩, d', ?_⟩
    rw [setEach, change, Daemon.set_of_asks d hasks]
    exact bind_eq_ok.2 ⟨_, rfl, bind_eq_ok.2 ⟨_, hrest, rfl⟩⟩

/-- What a change reports if it is the first one. -/
def outcomeIn (d : Daemon) (a : String × String) : Outcome :=
  match d.set a.1 a.2 with
  | .ok (outcome, _) => outcome
  | .error _ => .noop

theorem outcomeIn_of_asks {v : Option Setting.Leaf} (h : Asks a.1 a.2 k v) :
    outcomeIn d a = Outcome.ofChange (k.read d) v := by
  rw [outcomeIn, Daemon.set_of_asks d h]

/-- Changes of different keys report each what it reports if it is the first one. -/
theorem changes_of_setEach (hdistinct : DistinctKeys pairs) (h : setEach pairs d = .ok (r, d₁)) :
    r.changes = pairs.map fun a => (a.1, outcomeIn d a) := by
  induction pairs generalizing d r with
  | nil =>
    cases h
    rfl
  | cons a pairs ih =>
    obtain ⟨k, v, r', hasks, hrest, rfl⟩ := setEach_cons_eq_ok h
    obtain ⟨hnew, hdistinct⟩ := List.nodup_cons.1 hdistinct
    rw [List.map_cons, outcomeIn_of_asks hasks, ih hdistinct hrest]
    refine congrArg (List.cons _) (List.map_congr_left fun b hb => ?_)
    -- The first change leaves alone what the others ask for.
    obtain ⟨k', v', hasks'⟩ := exists_asks_of_setEach hrest b hb
    have hne : k' ≠ k := fun heq => hnew (List.mem_map.2 ⟨b, hb, (hasks'.key_eq_iff hasks).1 heq⟩)
    rw [outcomeIn_of_asks hasks', outcomeIn_of_asks hasks', Daemon.read_apply d k k' hasks.fits,
      if_neg hne]

/-- After changes of different keys each key holds the same, in whatever order they were made. -/
theorem read_eq_of_perm (hdistinct : DistinctKeys pairs) (hperm : pairs.Perm pairs')
    (h₁ : setEach pairs d = .ok (r, d₁)) (h₂ : setEach pairs' d = .ok (r', d₂)) (k : Key) :
    k.read d₁ = k.read d₂ := by
  have hinputs := inputs_eq_of_perm hdistinct hperm k
  cases hlast : (pairs.filterMap (inputIn? k)).getLast? with
  | none =>
    have hnone := List.getLast?_eq_none_iff.1 hlast
    rw [read_of_setEach h₁ hnone, read_of_setEach h₂ (hinputs ▸ hnone)]
  | some input =>
    have hread₁ := parse_of_setEach h₁ hlast
    have hread₂ := parse_of_setEach h₂ (hinputs ▸ hlast)
    exact Except.ok.inj (hread₁.symm.trans hread₂)

/-! ### The section -/

theorem validate_of_read_eq (hread : ∀ k : Key, k.read d₁ = k.read d₂)
    (h : d₁.validate = .ok ()) : d₂.validate = .ok () := by
  rw [Daemon.validate, ConfigError.collect_map_eq_ok_iff, Daemon.violations_eq_nil_iff] at h ⊢
  exact fun k l hl => h k l (by rwa [hread])

/-- Changes of different keys that are made are made in any order. -/
theorem exists_setIn_of_perm (hdistinct : DistinctKeys pairs) (hperm : pairs.Perm pairs')
    (h : setIn pairs d = .ok (r, d₁)) : ∃ r' d₂, setIn pairs' d = .ok (r', d₂) ∧
      r.changes.Perm r'.changes ∧ d₁.prune = d₂.prune := by
  obtain ⟨⟨_, _⟩, hset, h⟩ := bind_eq_ok.1 h
  obtain ⟨_, hvalid, h⟩ := bind_eq_ok.1 h
  cases h
  have hasks := exists_asks_of_setEach hset
  obtain ⟨r', d₂, hset'⟩ := exists_setEach (fun a ha => hasks a (hperm.mem_iff.2 ha)) d
  have hread := read_eq_of_perm hdistinct hperm hset hset'
  have hdistinct' : DistinctKeys pairs' := (hperm.map _).nodup_iff.1 hdistinct
  refine ⟨r', d₂, ?_, ?_, Daemon.prune_eq_of_read_eq fun k _ => hread k⟩
  · exact bind_eq_ok.2 ⟨_, hset', bind_eq_ok.2 ⟨_, validate_of_read_eq hread hvalid, rfl⟩⟩
  · rw [changes_of_setEach hdistinct hset, changes_of_setEach hdistinct' hset']
    exact hperm.map _

/-- Reports of the same changes, in whatever order. -/
def SameChanges (r r' : Report) : Prop := r.changes.Perm r'.changes

theorem SameChanges.outcome_eq (h : SameChanges r r') : r.outcome = r'.outcome :=
  Outcome.combineAll_perm (h.map Prod.snd)

/-- Changes of different keys match in any order. -/
theorem matches_setIn (hdistinct : DistinctKeys pairs) (hperm : pairs.Perm pairs') :
    Matches SameChanges (fun k : Contract => k.editDaemon (setIn pairs))
      fun k => k.editDaemon (setIn pairs') where
  made k r k₁ h := by
    obtain ⟨d₁, hset, rfl⟩ := Contract.editDaemon_eq_ok_iff.1 h
    obtain ⟨r', d₂, hset', hchanges, hprune⟩ := exists_setIn_of_perm hdistinct hperm hset
    have hmade := Contract.editDaemon_eq_ok_iff.2 ⟨d₂, hset', rfl⟩
    refine ⟨r', { k with daemon := some d₂ }, hmade, hchanges, ?_⟩
    exact Contract.prune_eq_prune_iff.2 ⟨rfl, hprune, rfl⟩
  refused k e h := by
    cases h' : k.editDaemon (setIn pairs') with
    | error e' => exact ⟨e', rfl⟩
    | ok result =>
      -- What is made in the one order is made in the other.
      obtain ⟨d₂, hset', -⟩ := Contract.editDaemon_eq_ok_iff.1 h'
      have hdistinct' : DistinctKeys pairs' := (hperm.map _).nodup_iff.1 hdistinct
      obtain ⟨r, d₁, hset, -⟩ := exists_setIn_of_perm hdistinct' hperm.symm hset'
      rw [Contract.editDaemon_eq, hset] at h
      cases h

/-! ### Commands -/

/-- Assignments that cannot be read are refused. -/
theorem runOn_set_of_unread (locs : Locations) (t : FileTree) {assignments : List String}
    {e : ConfigError} (hne : assignments.isEmpty = false)
    (hparsed : assignments.mapM parseAssignment = .error e) :
    (set locs assignments).runOn t = (.error (.ofError e), t) := by
  rw [set, hne, hparsed]
  rfl

/-- Commands with the same assignments in another order end alike. -/
theorem endAlike_set {as bs : List String} (hperm : as.Perm bs)
    (hdistinct : (as.filterMap keyOf?).Nodup) (locs : Locations) (t : FileTree) :
    EndAlike SameChanges (set locs as) (set locs bs) t := by
  cases hempty : as.isEmpty with
  | true =>
    obtain rfl := List.isEmpty_iff.1 hempty
    obtain rfl := List.nil_perm.1 hperm
    exact ⟨t, .inl ⟨_, _, rfl, rfl⟩⟩
  | false =>
    have hempty' : bs.isEmpty = false := by
      rw [List.isEmpty_eq_false_iff] at hempty ⊢
      exact fun hnil => hempty (List.perm_nil.1 (hnil ▸ hperm))
    cases hparsed : as.mapM parseAssignment with
    | ok pairs =>
      obtain ⟨pairs', hparsed', hpairs⟩ := exists_mapM_of_perm hparsed hperm
      exact (matches_setIn (distinctKeys_of_mapM hparsed hdistinct) hpairs).endAlike
        (performs_set hempty hparsed) (performs_set hempty' hparsed') t
    | error e =>
      cases hparsed' : bs.mapM parseAssignment with
      | ok pairs' =>
        obtain ⟨pairs, hpairs, -⟩ := exists_mapM_of_perm hparsed' hperm.symm
        cases hparsed.symm.trans hpairs
      | error e' =>
        have has := runOn_set_of_unread locs t hempty hparsed
        have hbs := runOn_set_of_unread locs t hempty' hparsed'
        exact ⟨t, .inl ⟨_, _, has, hbs⟩⟩

/-- Of assignments with different names, any order is as good as any other. The commands leave the
same tree behind, and either both fail and change no file, or both succeed with the same changes and
the same outcome. -/
theorem set_perm (locs : Locations) (t : FileTree) {as bs : List String} (hperm : as.Perm bs)
    (hdistinct : (as.filterMap keyOf?).Nodup) : ∃ t',
    (∃ e e', (set locs as).runOn t = (.error e, t') ∧ (set locs bs).runOn t = (.error e', t') ∧
        t.SameFiles t') ∨
      ∃ r r', (set locs as).runOn t = (.ok r, t') ∧ (set locs bs).runOn t = (.ok r', t') ∧
        r.changes.Perm r'.changes ∧ r.outcome = r'.outcome := by
  obtain ⟨t', ⟨e, e', has, hbs⟩ | ⟨r, r', has, hbs, hchanges⟩⟩ :=
    endAlike_set hperm hdistinct locs t
  · have hgrown := (edits_set as).failsClean t e t' has
    exact ⟨t', .inl ⟨e, e', has, hbs, hgrown.sameFiles⟩⟩
  · exact ⟨t', .inr ⟨r, r', has, hbs, hchanges, hchanges.outcome_eq⟩⟩

/-- An address and some headers, either first. -/
theorem set_perm_addressAndHeaders : ∃ (t' : FileTree) (r r' : Report),
    (set ⟨⟨"c.toml"⟩, ⟨"x.toml"⟩⟩ ["api.addr=:80", "api.cors.allow_headers=B"]).runOn
      Cli.headersTree = (.ok r, t') ∧
    (set ⟨⟨"c.toml"⟩, ⟨"x.toml"⟩⟩ ["api.cors.allow_headers=B", "api.addr=:80"]).runOn
      Cli.headersTree = (.ok r', t') ∧
    r'.outcome = .updated := by
  obtain ⟨t₁, ht₁⟩ := Cli.exists_set_of_writable ⟨⟨"c.toml"⟩, ⟨"x.toml"⟩⟩
    ["api.addr=:80", "api.cors.allow_headers=B"] Cli.load_headersTree rfl rfl rfl
    Cli.writable_headersTree
  obtain ⟨t', ⟨e, e', has, -⟩ | ⟨r, r', has, hbs, -, houtcome⟩⟩ :=
    set_perm ⟨⟨"c.toml"⟩, ⟨"x.toml"⟩⟩ Cli.headersTree
      (List.Perm.swap "api.cors.allow_headers=B" "api.addr=:80" []) (by decide)
  · cases ht₁.symm.trans has
  · refine ⟨t', r, r', has, hbs, ?_⟩
    cases ht₁.symm.trans has
    exact houtcome.symm

end FleetConfig.Settings
