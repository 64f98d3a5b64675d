import FleetConfig.Daemon.Edit
import FleetConfig.Proofs.Outcome
import FleetConfig.Proofs.Setting.Input

/-!
# Settings under keys

What is written under a key is read there again, and no other key is concerned. Sections that are
opened on the way, and empty sections that pruning drops, are not seen by any key.

## Main definitions

* `Daemon.Key.Fits` — a key can hold a setting.

## Main results

* `Daemon.Key.read_write_self`, `Daemon.Key.read_write_of_ne` — reading after writing.
* `Daemon.Key.read_prune` — reading after pruning.
* `Daemon.read_of_set` — reading after setting a key.
-/

namespace FleetConfig.Daemon

/-! ### Absent sections -/

/-- An absent section is read like an empty one. -/
private theorem bind_eq_getD {α β : Type} [Inhabited α] (a? : Option α) (f : α → Option β)
    (h : f default = none) : a?.bind f = f (a?.getD default) := by
  cases a? with
  | none => exact h.symm
  | some a => rfl

theorem getD_dropEmpty {α : Type} [DecidableEq α] [Inhabited α] (a? : Option α) :
    (dropEmpty a?).getD default = a?.getD default := by
  rw [dropEmpty]
  split
  · rename_i h
    rw [h]
    rfl
  · rfl

theorem getD_api_prune (d : Daemon) : d.prune.api.getD default = (d.api.getD default).prune := by
  rw [prune, getD_dropEmpty]
  cases d.api <;> rfl

theorem getD_mcp_prune (d : Daemon) : d.prune.mcp.getD default = (d.mcp.getD default).prune := by
  rw [prune, getD_dropEmpty]
  cases d.mcp <;> rfl

namespace Key

/-! ### Reading -/

/-- A key can hold a setting: one of its kind, and no empty list. -/
def Fits (k : Key) (l : Setting.Leaf) : Prop := l.kind = k.kind ∧ l ≠ .list []

instance (k : Key) (l : Setting.Leaf) : Decidable (k.Fits l) :=
  inferInstanceAs (Decidable (_ ∧ _))

/-- The setting under a key where absent sections are empty ones. -/
def readFull (a : Api) (m : Mcp) : Key → Option Setting.Leaf
  | apiAddr => a.addr.map .text
  | corsAllowCredentials => (a.cors.getD default).allowCredentials.map .switch
  | corsAllowHeaders => listSetting (a.cors.getD default).allowHeaders
  | corsAllowOrigins => listSetting (a.cors.getD default).allowOrigins
  | corsEnable => (a.cors.getD default).enable.map .switch
  | corsExposeHeaders => listSetting (a.cors.getD default).exposeHeaders
  | corsMaxAge => (a.cors.getD default).maxAge.map .duration
  | corsMethods => listSetting (a.cors.getD default).methods
  | apiTimeoutShutdown => (a.timeout.getD default).shutdown.map .duration
  | mcpIntervalHealth => (m.interval.getD default).health.map .duration
  | mcpTimeoutHealth => (m.timeout.getD default).health.map .duration
  | mcpTimeoutInit => (m.timeout.getD default).init.map .duration
  | mcpTimeoutShutdown => (m.timeout.getD default).shutdown.map .duration

theorem read_eq_readFull (d : Daemon) (k : Key) :
    k.read d = readFull (d.api.getD default) (d.mcp.getD default) k := by
  cases k with
  | apiAddr => rw [read, bind_eq_getD d.api _ rfl, readFull]
  | mcpIntervalHealth =>
    rw [read, bind_eq_getD d.mcp _ rfl, bind_eq_getD (d.mcp.getD default).interval _ rfl, readFull]
  | mcpTimeoutHealth | mcpTimeoutInit | mcpTimeoutShutdown =>
    rw [read, bind_eq_getD d.mcp _ rfl, bind_eq_getD (d.mcp.getD default).timeout _ rfl, readFull]
  | apiTimeoutShutdown =>
    rw [read, bind_eq_getD d.api _ rfl, bind_eq_getD (d.api.getD default).timeout _ rfl, readFull]
  | _ =>
    rw [read, bind_eq_getD d.api _ rfl, bind_eq_getD (d.api.getD default).cors _ rfl, readFull]

/-! ### Writing -/

/-- What is written under a key is read there, if the key can hold it. -/
theorem read_write_self (d : Daemon) (k : Key) (v : Option Setting.Leaf) :
    k.read (k.write d v) = v.filter (decide <| k.Fits ·) := by
  rcases v with _ | (_ | _ | _ | (_ | _)) <;> cases k <;> rfl

/-- What is written under a key is not seen by another key. -/
theorem read_write_of_ne {k k' : Key} (h : k' ≠ k) (d : Daemon) (v : Option Setting.Leaf) :
    k'.read (k.write d v) = k'.read d := by
  rw [read_eq_readFull, read_eq_readFull d]
  cases k <;> cases k' <;> first | rfl | exact absurd rfl h

/-! ### Pruning -/

theorem read_prune (d : Daemon) (k : Key) : k.read d.prune = k.read d := by
  rw [read_eq_readFull, read_eq_readFull d, getD_api_prune, getD_mcp_prune]
  cases k <;> simp only [readFull, Api.prune, Mcp.prune, getD_dropEmpty]

end Key

/-! ### Changes by key -/

/-- After a value that a key can hold was put under the key, the key holds that value, and all
others hold what they held. -/
theorem read_apply (d : Daemon) (k k' : Key) {v : Option Setting.Leaf} (h : ∀ l ∈ v, k.Fits l) :
    k'.read (d.apply k v).2 = if k' = k then v else k'.read d := by
  rw [apply]
  cases hchange : (Outcome.ofChange (k.read d) v).isChange with
  | true =>
    refine (Key.read_prune _ _).trans ?_
    by_cases hk : k' = k
    · rw [if_pos hk, hk, Key.read_write_self]
      cases v with
      | none => rfl
      | some l => exact Option.filter_some_pos (decide_eq_true (h l rfl))
    · rw [if_neg hk]
      exact Key.read_write_of_ne hk d v
  | false =>
    have hread : k.read d = v :=
      (Outcome.ofChange_eq_noop_iff _ _).1 (Outcome.isChange_eq_false_iff.1 hchange)
    by_cases hk : k' = k
    · rw [if_pos hk, hk]
      exact hread
    · exact (if_neg hk).symm

/-- After a path was set, its key holds what the input denotes, and all others hold what they held.
-/
theorem read_of_set {d d' : Daemon} {path input : String} {o : Outcome}
    (h : d.set path input = .ok (o, d')) : ∃ k v, Key.lookup path = .ok k ∧
      k.kind.parse k.path input = .ok v ∧ o = Outcome.ofChange (k.read d) v ∧
      ∀ k' : Key, k'.read d' = if k' = k then v else k'.read d := by
  rw [set_eq] at h
  obtain ⟨k, hk, h⟩ := bind_eq_ok.1 h
  obtain ⟨v, hv, h⟩ := bind_eq_ok.1 h
  refine ⟨k, v, hk, hv, (congrArg Prod.fst (Except.ok.inj h)).symm, fun k' => ?_⟩
  have hd' : (d.apply k v).2 = d' := congrArg Prod.snd (Except.ok.inj h)
  rw [← hd']
  refine read_apply d k k' fun l hl => ?_
  cases hl
  exact Setting.Kind.kind_of_parse hv

end FleetConfig.Daemon
