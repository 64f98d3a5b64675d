import FleetConfig.Proofs.Daemon.Keys

/-!
# Keys describe the section

What pruning leaves of a daemon section is what its keys say, no more and no less. Two sections that
differ in empty sections and empty lists only are read alike by all keys, and two sections that are
read alike by all keys differ in nothing else.

## Main results

* `Daemon.prune_eq_prune_iff` — sections are the same when pruned if all keys read the same.
* `Daemon.prune_prune`, `Daemon.isEmpty_prune_iff` — what follows for pruning.
* `Daemon.keys_describe_section` — all of this together.
-/

namespace FleetConfig.Daemon

theorem Key.mem_all (k : Key) : k ∈ all := by cases k <;> decide

/-! ### Sections -/

section DropEmpty

variable {α : Type} [DecidableEq α] [Inhabited α] {a? b? : Option α}

/-- Dropping the empty section leaves what an absent section is read as. -/
theorem dropEmpty_eq_ite :
    dropEmpty a? = if a?.getD default = default then none else some (a?.getD default) := by
  rw [dropEmpty]
  cases a? with
  | none => rw [if_neg (Option.some_ne_none _).symm, Option.getD_none, if_pos rfl]
  | some a => simp only [Option.getD_some, Option.some.injEq]

theorem dropEmpty_eq_dropEmpty_iff :
    dropEmpty a? = dropEmpty b? ↔ a?.getD default = b?.getD default := by
  constructor
  · intro h
    rw [← getD_dropEmpty a?, h, getD_dropEmpty]
  · intro h
    rw [dropEmpty_eq_ite, h, ← dropEmpty_eq_ite]

end DropEmpty

theorem Api.prune_eq_prune_iff {a b : Api} : a.prune = b.prune ↔
    a.addr = b.addr ∧ a.timeout.getD default = b.timeout.getD default ∧
      a.cors.getD default = b.cors.getD default := by
  rw [prune, prune, mk.injEq, dropEmpty_eq_dropEmpty_iff, dropEmpty_eq_dropEmpty_iff]

theorem Mcp.prune_eq_prune_iff {m n : Mcp} : m.prune = n.prune ↔
    m.timeout.getD default = n.timeout.getD default ∧
      m.interval.getD default = n.interval.getD default := by
  rw [prune, prune, mk.injEq, dropEmpty_eq_dropEmpty_iff, dropEmpty_eq_dropEmpty_iff]

variable {d d' : Daemon}

/-- Pruned sections are the same if the two sections in them are, read as empty where absent. -/
theorem prune_eq_of_sections (hapi : (d.api.getD default).prune = (d'.api.getD default).prune)
    (hmcp : (d.mcp.getD default).prune = (d'.mcp.getD default).prune) : d.prune = d'.prune := by
  rw [← getD_api_prune, ← getD_api_prune] at hapi
  rw [← getD_mcp_prune, ← getD_mcp_prune] at hmcp
  simp only [prune, getD_dropEmpty] at hapi hmcp
  rw [prune, prune, mk.injEq]
  exact ⟨dropEmpty_eq_dropEmpty_iff.2 hapi, dropEmpty_eq_dropEmpty_iff.2 hmcp⟩

/-! ### Keys -/

attribute [ext] ApiTimeout Cors McpTimeout McpInterval

theorem Key.listSetting_inj {xs ys : List String} (h : listSetting xs = listSetting ys) :
    xs = ys := by
  cases xs <;> cases ys <;> cases h <;> rfl

/-- The keys tell sections apart that differ in more than empty sections. -/
theorem prune_eq_of_read_eq (h : ∀ k ∈ Key.all, k.read d = k.read d') : d.prune = d'.prune := by
  -- Each key reads one field, and every field is read by one key.
  have hread (k : Key) : Key.readFull (d.api.getD default) (d.mcp.getD default) k =
      Key.readFull (d'.api.getD default) (d'.mcp.getD default) k := by
    rw [← Key.read_eq_readFull, h k k.mem_all, Key.read_eq_readFull]
  have htext := Option.map_injective fun _ _ => Setting.Leaf.text.inj
  have hswitch := Option.map_injective fun _ _ => Setting.Leaf.switch.inj
  have hduration := Option.map_injective fun _ _ => Setting.Leaf.duration.inj
  refine prune_eq_of_sections (Api.prune_eq_prune_iff.2 ⟨?addr, ?timeout, ?cors⟩)
    (Mcp.prune_eq_prune_iff.2 ⟨?timeouts, ?interval⟩)
  case addr => exact htext (hread .apiAddr)
  case timeout => exact ApiTimeout.ext (hduration (hread .apiTimeoutShutdown))
  case cors =>
    exact Cors.ext (hswitch (hread .corsEnable)) (Key.listSetting_inj (hread .corsAllowOrigins))
      (Key.listSetting_inj (hread .corsMethods)) (Key.listSetting_inj (hread .corsAllowHeaders))
      (Key.listSetting_inj (hread .corsExposeHeaders)) (hswitch (hread .corsAllowCredentials))
      (hduration (hread .corsMaxAge))
  case timeouts =>
    exact McpTimeout.ext (hduration (hread .mcpTimeoutShutdown)) (hduration (hread .mcpTimeoutInit))
      (hduration (hread .mcpTimeoutHealth))
  case interval => exact McpInterval.ext (hduration (hread .mcpIntervalHealth))

theorem prune_eq_prune_iff : d.prune = d'.prune ↔ ∀ k ∈ Key.all, k.read d = k.read d' := by
  refine ⟨fun h k _ => ?_, prune_eq_of_read_eq⟩
  rw [← Key.read_prune d, h, Key.read_prune]

theorem prune_prune (d : Daemon) : d.prune.prune = d.prune :=
  prune_eq_of_read_eq fun k _ => Key.read_prune d k

theorem isEmpty_iff : d.isEmpty = true ↔ d = {} := by
  rw [isEmpty, Bool.and_eq_true, Option.isNone_iff_eq_none, Option.isNone_iff_eq_none, ← mk.injEq]

/-- Nothing is left of a section if no key is configured. -/
theorem isEmpty_prune_iff : d.prune.isEmpty = true ↔ ∀ k ∈ Key.all, k.read d = none := by
  have hread (k : Key) : k.read {} = none := by cases k <;> rfl
  calc
    d.prune.isEmpty = true ↔ d.prune = prune {} := isEmpty_iff
    _ ↔ ∀ k ∈ Key.all, k.read d = k.read {} := prune_eq_prune_iff
    _ ↔ ∀ k ∈ Key.all, k.read d = none := by simp only [hread]

/-- The keys describe the daemon section completely: two sections are the same when pruned exactly
if each key reads the same setting from both. So pruning changes no key's setting and a pruned
section is pruned already, and nothing is left of a section exactly if no key is configured. -/
theorem keys_describe_section (d d' : Daemon) :
    (d.prune = d'.prune ↔ ∀ k ∈ Key.all, k.read d = k.read d') ∧
      (∀ k ∈ Key.all, k.read d.prune = k.read d) ∧ d.prune.prune = d.prune ∧
      (d.prune.isEmpty = true ↔ ∀ k ∈ Key.all, k.read d = none) :=
  ⟨prune_eq_prune_iff, fun k _ => Key.read_prune d k, prune_prune d, isEmpty_prune_iff⟩

end FleetConfig.Daemon
