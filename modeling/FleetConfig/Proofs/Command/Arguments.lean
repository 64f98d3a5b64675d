import FleetConfig.Proofs.Command.Repeating
import FleetConfig.Proofs.Flag.Repeating

/-!
# Arguments that are set again

To set the arguments of a server twice is not always to set them once: the variants of a flag that
is new to the server are appended where they stand in the request, and the second request puts them
together. It changes nothing exactly if they stood together, and a third one never does.

## Main definitions

* `Arguments.Settles` — what is to be said of a second and a third request.

## Main results

* `Arguments.args_setIn`, `Arguments.setIn_again` — one change of a context, and the same again.
* `Arguments.settles_set` — when arguments that are set again change nothing.
-/

namespace FleetConfig.Arguments

open FleetConfig.Flag (added upsert Together)

variable {server : String} {incoming : List String} {x x' x'' : Context} {r r' : Report}

/-! ### Changes to a context -/

/-- The arguments that are reported are those of the server. -/
theorem args_setIn (h : setIn server incoming x = .ok (r, x')) :
    r.args = upsert ((x.server? server).getD default).args incoming ∧
      ((x'.server? server).getD default).args = r.args := by
  obtain ⟨⟨o, x₁⟩, hupsert, h⟩ := bind_eq_ok.1 h
  cases h
  exact ⟨rfl, congrArg _ (Context.getD_server?_of_upsert hupsert)⟩

/-- Arguments that can be set in one context can be set in all. -/
theorem exists_setIn (h : setIn server incoming x = .ok (r, x')) (x₁ : Context) :
    ∃ r₁ x₂, setIn server incoming x₁ = .ok (r₁, x₂) := by
  obtain ⟨⟨o, x₁⟩, hupsert, -⟩ := bind_eq_ok.1 h
  have hname := Context.exists_upsert_iff.1 ⟨_, hupsert⟩
  obtain ⟨⟨o', x₂⟩, hupsert'⟩ := Context.exists_upsert_iff.2 hname
  exact ⟨_, x₂, bind_eq_ok.2 ⟨_, hupsert', rfl⟩⟩

/-- Arguments that were set are set again without a change, if the list has settled. -/
theorem setIn_again (h : setIn server incoming x = .ok (r, x'))
    (hsettled : upsert r.args incoming = r.args) :
    setIn server incoming x' = .ok ({ r with outcome := .noop }, x') := by
  obtain ⟨⟨o, x₁⟩, hupsert, h⟩ := bind_eq_ok.1 h
  cases h
  rw [setIn, Context.getD_server?_of_upsert hupsert, hsettled]
  exact bind_eq_ok.2 ⟨_, Context.upsert_again hupsert, rfl⟩

/-- The second change makes nothing new exactly if the new tokens stood together. -/
theorem eq_iff_of_setIn_again (hincoming : incoming.Nodup)
    (h : setIn server incoming x = .ok (r, x'))
    (hagain : setIn server incoming x' = .ok (r', x'')) :
    x'' = x' ↔ Together (added ((x.server? server).getD default).args incoming) := by
  obtain ⟨hargs, hstored⟩ := args_setIn h
  obtain ⟨hargs', hstored'⟩ := args_setIn hagain
  rw [← Flag.upsert_again_iff hincoming, ← hargs]
  constructor
  · rintro rfl
    rw [← hstored, ← hargs', hstored']
  · intro hsettled
    cases hagain.symm.trans (setIn_again h hsettled)
    rfl

/-! ### Requests -/

variable {locs : Locations} {switches tokens : List String} {t t' : FileTree}

/-- A request that succeeds has stored what it reports. -/
theorem exists_modified_set (h : (set locs switches server tokens).runOn t = (.ok r, t')) :
    ∃ x x' : Context, Store.Modified locs.context
      (setIn server (Flag.normalize switches tokens)) r x x' t t' := by
  obtain ⟨_, rfl, r, x, x', rfl, hmodified⟩ := (edits_set switches server tokens).exists_modified h
  exact ⟨x, x', hmodified⟩

/-- A request changes nothing when it is made again, if the list has settled. -/
theorem set_again (h : (set locs switches server tokens).runOn t = (.ok r, t'))
    (hsettled : upsert r.args (Flag.normalize switches tokens) = r.args) :
    (set locs switches server tokens).runOn t' = (.ok { r with outcome := .noop }, t') := by
  obtain ⟨_, rfl, hperforms⟩ := (edits_set switches server tokens).exists_performs h
  obtain ⟨x, x', hmodified⟩ := exists_modified_set h
  have hagain : Store.Settled (· = { r with outcome := .noop })
      (setIn server (Flag.normalize switches tokens)) x' := by
    intro x₁ (hsame : x₁ = x')
    rw [hsame]
    exact ⟨_, x', setIn_again hmodified.change hsettled, rfl, rfl⟩
  obtain ⟨_, hmodify, rfl⟩ := hmodified.runOn_again trivial rfl hagain
  exact hperforms.ok hmodify

/-- A request that has succeeded succeeds again. -/
theorem exists_set_again (h : (set locs switches server tokens).runOn t = (.ok r, t')) :
    ∃ r' t'', (set locs switches server tokens).runOn t' = (.ok r', t'') := by
  obtain ⟨_, rfl, hperforms⟩ := (edits_set switches server tokens).exists_performs h
  obtain ⟨r, rfl, hmodify⟩ := hperforms.exists_modify h
  obtain ⟨x, x', hmodified⟩ := exists_modified_set h
  obtain ⟨x₁, hload, -⟩ := hmodified.load_after trivial rfl
  obtain ⟨r', x₂, hmade⟩ := exists_setIn hmodified.change x₁
  obtain ⟨t'', hagain⟩ := Store.exists_runOn_modify_again hmodify hload hmade
  exact ⟨r', t'', hperforms.ok hagain⟩

/-- What is to be said of the second and the third request to set the arguments of a server, when
the first one has reported `r`, left `t'`, and found some of the tokens to be new. -/
structure Settles (locs : Locations) (switches : List String) (server : String)
    (tokens new : List String) (r : Report) (t' : FileTree) (r' : Report) (t'' : FileTree) :
    Prop where
  /-- The second request succeeds. -/
  again : (set locs switches server tokens).runOn t' = (.ok r', t'')
  /-- If the new tokens stood together, it leaves all files alone. -/
  unchanged : Together new → r' = { r with outcome := .noop } ∧ t'' = t'
  /-- Only in that case it reports that nothing has changed. -/
  noop_iff : r'.outcome = .noop ↔ Together new
  /-- In all other cases the file has other bytes. -/
  read_eq_iff : t''.read locs.context = t'.read locs.context ↔ Together new
  /-- The third request succeeds, and changes nothing in any case. -/
  settled : (set locs switches server tokens).runOn t'' = (.ok { r' with outcome := .noop }, t'')

/-- To set tokens in canonical form once more changes a list exactly if something stood between two
variants of a flag that was new to it, and to set them a third time changes nothing. So it is with
the arguments of a server, whose file stays as it is in the same cases. -/
theorem settles_set (switches tokens : List String) :
    (∀ existing incoming, incoming = Flag.normalize switches tokens →
      (upsert (upsert existing incoming) incoming = upsert existing incoming ↔
        Together (added existing incoming)) ∧
      upsert (upsert (upsert existing incoming) incoming) incoming =
        upsert (upsert existing incoming) incoming) ∧
    ∀ locs server t t' r, (set locs switches server tokens).runOn t = (.ok r, t') →
      ∃ x : Context, (Store.load locs.context).runOn t = (.ok x, t) ∧ ∃ r' t'',
        Settles locs switches server tokens
          (added ((x.server? server).getD default).args (Flag.normalize switches tokens))
          r t' r' t'' := by
  have hincoming := (Flag.canonical_normalize switches tokens).nodup
  refine ⟨?_, fun locs server t t' r h => ?_⟩
  · rintro existing _ rfl
    exact ⟨Flag.upsert_again_iff hincoming existing, Flag.upsert_upsert_upsert hincoming existing⟩
  obtain ⟨x, x', hmodified⟩ := exists_modified_set h
  obtain ⟨hargs, hstored⟩ := args_setIn hmodified.change
  obtain ⟨r', t'', hagain⟩ := exists_set_again h
  -- The second request loads what the first one has stored.
  obtain ⟨x₁, x'', hmodified'⟩ := exists_modified_set hagain
  obtain ⟨x₂, hload, (hsame : x₂ = x')⟩ := hmodified.load_after trivial rfl
  obtain rfl : x₁ = x' := (hmodified'.eq_of_load hload).trans hsame
  have hiff := eq_iff_of_setIn_again hincoming hmodified.change hmodified'.change
  refine ⟨x, hmodified.load, r', t'', hagain, fun htogether => ?_, ?_, ?_, ?_⟩
  · have hsettled := (Flag.upsert_again_iff hincoming _).2 htogether
    rw [← hargs] at hsettled
    cases hagain.symm.trans (set_again h hsettled)
    exact ⟨rfl, rfl⟩
  · exact (outcome_setIn hmodified'.change).trans hiff
  · exact (hmodified'.read_eq_iff trivial rfl).trans hiff
  · refine set_again hagain ?_
    rw [(args_setIn hmodified'.change).1, hstored, hargs]
    exact Flag.upsert_upsert_upsert hincoming _

/-- Two values of a flag that stand together, before another argument. -/
theorem settles_set_together :
    let set : Action (StateM FileTree) Report :=
      set ⟨⟨"x.toml"⟩, ⟨"c.toml"⟩⟩ [] "s" ["--a", "1", "--a=2", "x"]
    ∃ (r : Report) (t' : FileTree),
      set.runOn (Store.treeOf ({} : Context)) = (.ok r, t') ∧
      r.args = ["--a=1", "--a=2", "x"] ∧ r.outcome = .created ∧
      set.runOn t' = (.ok { r with outcome := .noop }, t') := by
  let tokens := ["--a", "1", "--a=2", "x"]
  let locs : Locations := ⟨⟨"x.toml"⟩, ⟨"c.toml"⟩⟩
  have hne : Flag.normalize [] tokens ≠ [] := by decide
  have hperforms : Store.Performs locs.context _ id (set locs [] "s" tokens) := performs_set "s" hne
  have hfirst := hperforms.ok (Store.runOn_modify_treeOf (d := ({} : Context)) trivial rfl rfl)
  obtain ⟨x, hload, r', t'', hsettles⟩ := (settles_set [] tokens).2 locs "s" _ _ _ hfirst
  cases hload.symm.trans (Store.load_treeOf trivial)
  obtain ⟨rfl, rfl⟩ := hsettles.unchanged (by decide)
  exact ⟨_, _, hfirst, rfl, rfl, hsettles.again⟩

/-- A server with some arguments. -/
def contextOf (args : List String) : Context where
  servers := NameMap.empty.insert "s" { args }

/-- The values of a new flag are appended on both sides of another argument, and put together when
they are set again. -/
theorem set_again_puts_together :
    let set : Action (StateM FileTree) Report :=
      set ⟨⟨"x.toml"⟩, ⟨"c.toml"⟩⟩ [] "s" ["--a=1", "x", "--a=2"]
    Flag.normalize [] ["--a=1", "x", "--a=2"] = ["--a=1", "x", "--a=2"] ∧
    upsert [] ["--a=1", "x", "--a=2"] = ["--a=1", "x", "--a=2"] ∧
    upsert ["--a=1", "x", "--a=2"] ["--a=1", "x", "--a=2"] = ["--a=1", "--a=2", "x"] ∧
    ∃ (r r' : Report) (t' t'' : FileTree),
      set.runOn (Store.treeOf ({} : Context)) = (.ok r, t') ∧ set.runOn t' = (.ok r', t'') ∧
      r'.outcome = .updated ∧ t''.read ⟨"c.toml"⟩ ≠ t'.read ⟨"c.toml"⟩ := by
  let locs : Locations := ⟨⟨"x.toml"⟩, ⟨"c.toml"⟩⟩
  have hnormal : Flag.normalize [] ["--a=1", "x", "--a=2"] = ["--a=1", "x", "--a=2"] := by decide
  have hne : Flag.normalize [] ["--a=1", "x", "--a=2"] ≠ [] := hnormal ▸ List.cons_ne_nil _ _
  have hperforms : Store.Performs locs.context _ id (set locs [] "s" ["--a=1", "x", "--a=2"]) :=
    performs_set "s" hne
  rw [hnormal] at hperforms
  have hmade : setIn "s" ["--a=1", "x", "--a=2"] {} =
      .ok (⟨"s", ["--a=1", "x", "--a=2"], .created⟩, contextOf ["--a=1", "x", "--a=2"]) := rfl
  have hmade' : setIn "s" ["--a=1", "x", "--a=2"] (contextOf ["--a=1", "x", "--a=2"]) =
      .ok (⟨"s", ["--a=1", "--a=2", "x"], .updated⟩, contextOf ["--a=1", "--a=2", "x"]) := rfl
  have hfirst := Store.runOn_modify_treeOf trivial rfl hmade
  have hsecond := Store.runOn_modify_treeOf trivial rfl hmade'
  refine ⟨hnormal, by decide, by decide, _, _, _, _, hperforms.ok hfirst, hperforms.ok hsecond,
    rfl, ?_⟩
  obtain ⟨x, x', hmodified⟩ := Store.exists_modified_of_modify hsecond
  obtain rfl := hmodified.eq_of_load (Store.load_treeOf trivial)
  cases hmodified.change
  intro hread
  have hsame := (hmodified.read_eq_iff trivial rfl).1 hread
  revert hsame
  decide

end FleetConfig.Arguments
