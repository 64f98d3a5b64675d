import FleetConfig.Daemon.Validation
import FleetConfig.Proofs.Daemon.Keys

/-!
# What is true of all settings

Whether the daemon section is valid, and whether it can be written and read back, depends on the
settings under its keys alone. What is true of all settings stays true when they are pruned, when a
key is cleared, and when a key is set to a value of which it is true.

## Main definitions

* `Daemon.AllSettings` — something is true of all settings of the daemon.
* `Daemon.Key.Accepts` — a setting under a key is no violation.

## Main results

* `Daemon.violations_eq_nil_iff`, `Daemon.inRange_iff` — validity and range as facts of settings.
* `Daemon.AllSettings.set`, `Daemon.AllSettings.remove`, `Daemon.AllSettings.prune`.
-/

namespace FleetConfig.Daemon

open Setting (Leaf)

/-- Something is true of all settings of the daemon. -/
def AllSettings (P : Key → Leaf → Prop) (d : Daemon) : Prop := ∀ k, ∀ l ∈ k.read d, P k l

variable {P : Key → Leaf → Prop} {d d' : Daemon}

/-! ### Changes -/

theorem allSettings_default : AllSettings P default := by
  intro k l h
  cases k <;> cases h

namespace AllSettings

theorem prune (h : AllSettings P d) : AllSettings P d.prune := by
  intro k l hl
  rw [Key.read_prune] at hl
  exact h k l hl

/-- The key that is set holds what the input denotes. -/
theorem set {path input : String} {o : Outcome} (h : AllSettings P d)
    (hset : d.set path input = .ok (o, d'))
    (hinput : ∀ k l, k.kind.parse k.path input = .ok (some l) → P k l) : AllSettings P d' := by
  obtain ⟨k, v, -, hv, -, hread⟩ := read_of_set hset
  intro k' l hl
  rw [hread] at hl
  split at hl
  · rename_i heq
    rw [heq]
    cases hl
    exact hinput k l hv
  · exact h k' l hl

theorem remove {path : String} {o : Outcome} (h : AllSettings P d)
    (hremove : d.remove path = .ok (o, d')) : AllSettings P d' := by
  refine h.set hremove fun k l hl => ?_
  rw [Setting.Kind.parse_empty] at hl
  cases hl

end AllSettings

/-! ### Range -/

theorem mem_durations_iff {t : Duration} :
    t ∈ d.durations ↔ ∃ k : Key, k.read d = some (.duration t) := by
  simp only [durations, Api.durations, ApiTimeout.durations, Cors.durations, Mcp.durations,
    McpTimeout.durations, McpInterval.durations, List.mem_append, List.mem_flatMap,
    Option.mem_toList]
  constructor
  · rintro (⟨a, ha, ⟨x, hx, ht⟩ | ⟨c, hc, ht⟩⟩ | ⟨m, hm, ⟨x, hx, (ht | ht) | ht⟩ | ⟨i, hi, ht⟩⟩)
    · exact ⟨.apiTimeoutShutdown, by simp_all [Key.read]⟩
    · exact ⟨.corsMaxAge, by simp_all [Key.read]⟩
    · exact ⟨.mcpTimeoutShutdown, by simp_all [Key.read]⟩
    · exact ⟨.mcpTimeoutInit, by simp_all [Key.read]⟩
    · exact ⟨.mcpTimeoutHealth, by simp_all [Key.read]⟩
    · exact ⟨.mcpIntervalHealth, by simp_all [Key.read]⟩
  · rintro ⟨k, hk⟩
    cases k <;> simp [Key.read, Key.listSetting, Option.bind_eq_some_iff] at hk
    case corsMaxAge =>
      obtain ⟨c, ⟨a, ha, hc⟩, ht⟩ := hk
      exact .inl ⟨a, ha, .inr ⟨c, hc, ht⟩⟩
    case apiTimeoutShutdown =>
      obtain ⟨x, ⟨a, ha, hx⟩, ht⟩ := hk
      exact .inl ⟨a, ha, .inl ⟨x, hx, ht⟩⟩
    case mcpIntervalHealth =>
      obtain ⟨i, ⟨m, hm, hi⟩, ht⟩ := hk
      exact .inr ⟨m, hm, .inr ⟨i, hi, ht⟩⟩
    case mcpTimeoutHealth =>
      obtain ⟨x, ⟨m, hm, hx⟩, ht⟩ := hk
      exact .inr ⟨m, hm, .inl ⟨x, hx, .inr ht⟩⟩
    case mcpTimeoutInit =>
      obtain ⟨x, ⟨m, hm, hx⟩, ht⟩ := hk
      exact .inr ⟨m, hm, .inl ⟨x, hx, .inl (.inr ht)⟩⟩
    case mcpTimeoutShutdown =>
      obtain ⟨x, ⟨m, hm, hx⟩, ht⟩ := hk
      exact .inr ⟨m, hm, .inl ⟨x, hx, .inl (.inl ht)⟩⟩

/-- The durations of the section are the ones that its keys hold. -/
theorem inRange_iff : (∀ t ∈ d.durations, t.InRange) ↔ AllSettings (fun _ l => l.InRange) d := by
  simp only [mem_durations_iff]
  constructor
  · intro h k l hl
    cases l with
    | duration t => exact h t ⟨k, hl⟩
    | _ => trivial
  · rintro h t ⟨k, hk⟩
    exact h k _ hk

/-! ### Validity -/

/-- A setting under a key is no violation. -/
def Key.Accepts : Key → Leaf → Prop
  | .apiAddr, .text addr => addressViolations addr = []
  | .corsMethods, .list methods => methodViolations methods = []
  | .corsAllowOrigins, .list origins => origins.flatMap originViolations = []
  | _, .duration t => t.isZero = false
  | _, _ => True

theorem zeroDurations_eq_nil_iff :
    d.zeroDurations = [] ↔ ∀ (k : Key) (t : Duration), k.read d = some (.duration t) →
      t.isZero = false := by
  rw [zeroDurations, List.filter_eq_nil_iff]
  constructor
  · intro h k t hk
    have hzero := h k (by cases k <;> decide)
    rw [hk] at hzero
    exact Bool.eq_false_iff.2 hzero
  · intro h k _
    split
    · rename_i t hk
      exact Bool.eq_false_iff.1 (h k t hk)
    · exact Bool.false_ne_true

/-- An absent list is as good as an empty one. -/
private theorem forall_mem_listSetting {Q : Leaf → Prop} {xs : List String} (h : Q (.list [])) :
    (∀ l ∈ Key.listSetting xs, Q l) ↔ Q (.list xs) := by
  cases xs with
  | nil => exact ⟨fun _ => h, fun _ _ hl => nomatch hl⟩
  | cons x xs => exact ⟨fun h => h _ rfl, fun h l hl => Option.some.inj hl ▸ h⟩

theorem apiViolations_eq_nil_iff :
    d.api.toList.flatMap Api.violations = [] ↔
      (∀ l ∈ Key.apiAddr.read d, Key.apiAddr.Accepts l) ∧
      (∀ l ∈ Key.corsMethods.read d, Key.corsMethods.Accepts l) ∧
      ∀ l ∈ Key.corsAllowOrigins.read d, Key.corsAllowOrigins.Accepts l := by
  obtain ⟨api, mcp⟩ := d
  rcases api with _ | ⟨addr, timeout, cors⟩
  · exact ⟨fun _ => ⟨nofun, nofun, nofun⟩, fun _ => rfl⟩
  have haddr : addr.toList.flatMap addressViolations = [] ↔
      ∀ l ∈ addr.map Leaf.text, Key.apiAddr.Accepts l := by
    cases addr <;> simp [Key.Accepts]
  have hcors : cors.toList.flatMap Cors.violations = [] ↔
      (∀ l ∈ cors.bind fun c => Key.listSetting c.methods, Key.corsMethods.Accepts l) ∧
      ∀ l ∈ cors.bind fun c => Key.listSetting c.allowOrigins, Key.corsAllowOrigins.Accepts l := by
    cases cors with
    | none => exact ⟨fun _ => ⟨nofun, nofun⟩, fun _ => rfl⟩
    | some c =>
      rw [Option.bind_some, Option.bind_some,
        forall_mem_listSetting (Q := Key.corsMethods.Accepts) rfl,
        forall_mem_listSetting (Q := Key.corsAllowOrigins.Accepts) rfl, Option.toList_some,
        List.flatMap_singleton, Cors.violations, List.append_eq_nil_iff]
      rfl
  rw [Option.toList_some, List.flatMap_singleton, Api.violations, List.append_eq_nil_iff, haddr,
    hcors]
  rfl

/-- The section is valid if all its settings are. -/
theorem violations_eq_nil_iff : d.violations = [] ↔ AllSettings Key.Accepts d := by
  rw [violations, List.append_eq_nil_iff, List.map_eq_nil_iff, zeroDurations_eq_nil_iff,
    apiViolations_eq_nil_iff]
  constructor
  · rintro ⟨⟨haddr, hmethods, horigins⟩, hzero⟩ k l hl
    cases l with
    | duration t =>
      have ht := hzero k t hl
      cases k <;> exact ht
    | _ =>
      cases k
      case apiAddr => exact haddr _ hl
      case corsMethods => exact hmethods _ hl
      case corsAllowOrigins => exact horigins _ hl
      all_goals trivial
  · intro h
    refine ⟨⟨h _, h _, h _⟩, fun k t hk => ?_⟩
    have ht := h k _ hk
    cases k <;> exact ht

end FleetConfig.Daemon
