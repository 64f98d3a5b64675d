import FleetConfig.Proofs.Export.Artifacts
import FleetConfig.Proofs.Sorted.Lookup
import FleetConfig.Proofs.Sorted.Keys

/-!
# The two documents fit together

The portable context has an entry for each server that requires something, and no other. An entry
gives each required variable and flag a reference to its placeholder and holds nothing else. The
environment contract has an empty value for each placeholder that the portable context refers to,
and for no other.

Neither document depends on the execution context. What is dropped of that is what it adds to a
server without being required.

## Main definitions

* `Export.Artifacts.RefersTo` — the portable context refers to a placeholder.
* `Export.FitsTogether` — what the two documents of some servers have to be.
* `Export.NotRequired` — what an execution context adds without being required.

## Main results

* `Export.server?_eq_some_iff` — the entries of the portable context.
* `Export.fitsTogether` — the two documents of valid servers fit together.
* `Export.mem_droppedFrom_iff` — what is dropped of an execution context.
-/

namespace FleetConfig.Export

/-- A server requires a variable or a flag. -/
def Requires (s : Server) : Prop := s.requiredEnv.toList ≠ [] ∨ s.requiredArgs.toList ≠ []

/-- The portable context refers to a placeholder, for a variable or for a flag. -/
def Artifacts.RefersTo (a : Artifacts) (p : String) : Prop :=
  ∃ name e, a.context.server? name = some e ∧
    ((∃ v, e.env.get? v = some (reference p)) ∨
      ∃ token ∈ e.args, ∃ flag, Flag.name? token = some flag ∧ token = flag ++ "=" ++ reference p)

/-- What the two documents of some servers have to be. -/
structure FitsTogether (ss : List Server) (a : Artifacts) : Prop where
  /-- The servers in the portable context are those that require something. -/
  servers : ∀ name, (∃ e, a.context.server? name = some e) ↔ ∃ s ∈ ss, s.name = name ∧ Requires s
  /-- The variables of a server are those that it requires. -/
  env_keys : ∀ s ∈ ss, ∀ e, a.context.server? s.name = some e →
    e.env.keys = s.requiredEnv.toList
  /-- The value of a variable is a reference to its placeholder. -/
  env_values : ∀ s ∈ ss, ∀ e, a.context.server? s.name = some e → ∀ v value,
    e.env.get? v = some value → value = reference (placeholder s.name v)
  /-- The arguments of a server are the flags that it requires, in their order. -/
  arg_flags : ∀ s ∈ ss, ∀ e, a.context.server? s.name = some e →
    e.args.map Flag.name? = s.requiredArgs.toList.map some
  /-- The order is that of the bytes. -/
  arg_order : ∀ s ∈ ss, ∀ e, a.context.server? s.name = some e →
    (e.args.filterMap Flag.name?).Pairwise (· < ·)
  /-- The value of a flag is a reference to its placeholder. -/
  arg_values : ∀ s ∈ ss, ∀ e, a.context.server? s.name = some e → ∀ token ∈ e.args,
    ∃ flag, Flag.name? token = some flag ∧
      token = flag ++ "=" ++ reference (placeholder s.name flag)
  /-- The placeholders in the environment contract are those that are referred to. -/
  keys : ∀ p, p ∈ a.contract.keys ↔ a.RefersTo p
  /-- No placeholder has a value yet. -/
  values : ∀ p value, a.contract.get? p = some value → value = ""

variable {ss : List Server} {s : Server} {e : Context.Entry} {name p : String}

/-! ### Entries -/

/-- The entries of the portable context. -/
theorem server?_eq_some_iff (hss : Contract.ValidServers ss) :
    (artifactsOf ss).context.server? name = some e ↔
      ∃ s ∈ ss, s.name = name ∧ Requires s ∧ e = portableEntry s := by
  constructor
  · intro h
    have hkey : name ∈ (portableEntries ss).map Prod.fst :=
      NameMap.mem_keys_ofList.1 (NameMap.mem_keys_iff.2 ⟨e, h⟩)
    obtain ⟨⟨_, _⟩, hentry, rfl⟩ := List.mem_map.1 hkey
    obtain ⟨hentry, hoccupied⟩ := List.mem_filter.1 hentry
    obtain ⟨s, hs, heq⟩ := List.mem_map.1 hentry
    cases heq
    have hrequires : Requires s := isEmpty_portableEntry_iff.1 (by simpa using hoccupied)
    rw [server?_of_requires hss hs hrequires] at h
    exact ⟨s, hs, rfl, hrequires, (Option.some.inj h).symm⟩
  · rintro ⟨s, hs, rfl, hrequires, rfl⟩
    exact server?_of_requires hss hs hrequires

/-- The entry of a server is its own. -/
theorem eq_portableEntry (hss : Contract.ValidServers ss) (hs : s ∈ ss)
    (h : (artifactsOf ss).context.server? s.name = some e) : e = portableEntry s := by
  obtain ⟨s', hs', hname, -, rfl⟩ := (server?_eq_some_iff hss).1 h
  rw [List.inj_on_of_nodup_map hss.distinct hs' hs hname]

theorem pairwise_toList (names : NameSet) : names.toList.Pairwise (· < ·) :=
  List.pairwise_map.2 names.map.ascending

theorem entries_portableEntry (s : Server) : (portableEntry s).env.entries =
    s.requiredEnv.toList.map fun v => (v, reference (placeholder s.name v)) :=
  Sorted.ofEntries_of_ascending (List.pairwise_map.2 (pairwise_toList s.requiredEnv))

theorem get?_portableEntry_iff {v value : String} :
    (portableEntry s).env.get? v = some value ↔
      v ∈ s.requiredEnv.toList ∧ value = reference (placeholder s.name v) := by
  rw [NameMap.get?_eq_some_iff, entries_portableEntry, List.mem_map]
  constructor
  · rintro ⟨v, hv, heq⟩
    cases heq
    exact ⟨hv, rfl⟩
  · rintro ⟨hv, rfl⟩
    exact ⟨v, hv, rfl⟩

theorem name?_of_mem_args (hs : s.violations = []) {token : String}
    (h : token ∈ (portableEntry s).args) :
    ∃ flag ∈ s.requiredArgs.toList, Flag.name? token = some flag ∧
      token = flag ++ "=" ++ reference (placeholder s.name flag) := by
  obtain ⟨flag, hflag, rfl⟩ := List.mem_map.1 h
  exact ⟨flag, hflag, name?_flag (isBareFlag_of_mem hs hflag) _, rfl⟩

theorem map_name?_args (hs : s.violations = []) :
    (portableEntry s).args.map Flag.name? = s.requiredArgs.toList.map some := by
  rw [portableEntry, List.map_map]
  exact List.map_congr_left fun flag hflag => name?_flag (isBareFlag_of_mem hs hflag) _

/-! ### References -/

/-- The portable context refers to the placeholders of the items, and to no other. -/
theorem refersTo_iff (hss : Contract.ValidServers ss) :
    (artifactsOf ss).RefersTo p ↔ ∃ i ∈ items ss, i.placeholder = p := by
  constructor
  · rintro ⟨name, e, hentry, hrefers⟩
    obtain ⟨s, hs, -, -, rfl⟩ := (server?_eq_some_iff hss).1 hentry
    rcases hrefers with ⟨v, hv⟩ | ⟨token, htoken, flag, hname, rfl⟩
    · obtain ⟨hv, hvalue⟩ := get?_portableEntry_iff.1 hv
      refine ⟨⟨s.name, .variable, v⟩, List.mem_flatMap.2 ⟨s, hs, ?_⟩, (reference_inj hvalue).symm⟩
      exact List.mem_append_left _ (List.mem_map_of_mem hv)
    · obtain ⟨flag', hflag', hname', htoken⟩ := name?_of_mem_args (hss.valid s hs) htoken
      cases hname.symm.trans hname'
      refine ⟨⟨s.name, .flag, flag⟩, List.mem_flatMap.2 ⟨s, hs, ?_⟩, ?_⟩
      · exact List.mem_append_right _ (List.mem_map_of_mem hflag')
      · rw [String.append_right_inj] at htoken
        exact (reference_inj htoken).symm
  · rintro ⟨i, hi, rfl⟩
    obtain ⟨s, hs, hi⟩ := List.mem_flatMap.1 hi
    refine ⟨s.name, portableEntry s, server?_artifactsOf hss hs hi, ?_⟩
    rcases List.mem_append.1 hi with hi | hi
    · obtain ⟨v, hv, rfl⟩ := List.mem_map.1 hi
      exact .inl ⟨v, get?_portableEntry hv⟩
    · obtain ⟨flag, hflag, rfl⟩ := List.mem_map.1 hi
      have hname := name?_flag (isBareFlag_of_mem (hss.valid s hs) hflag)
        (reference (placeholder s.name flag))
      exact .inr ⟨_, List.mem_map_of_mem hflag, flag, hname, rfl⟩

/-- The two documents of valid servers fit together. -/
theorem fitsTogether (hss : Contract.ValidServers ss) : FitsTogether ss (artifactsOf ss) where
  servers name := by
    simp only [server?_eq_some_iff hss]
    constructor
    · rintro ⟨e, s, hs, hname, hrequires, -⟩
      exact ⟨s, hs, hname, hrequires⟩
    · rintro ⟨s, hs, hname, hrequires⟩
      exact ⟨_, s, hs, hname, hrequires, rfl⟩
  env_keys s hs e h := by
    rw [eq_portableEntry hss hs h, NameMap.keys, entries_portableEntry, List.map_map]
    exact List.map_id _
  env_values s hs e h v value hvalue := by
    rw [eq_portableEntry hss hs h] at hvalue
    exact (get?_portableEntry_iff.1 hvalue).2
  arg_flags s hs e h := by
    rw [eq_portableEntry hss hs h]
    exact map_name?_args (hss.valid s hs)
  arg_order s hs e h := by
    have hnames := congrArg (List.filterMap id) (map_name?_args (hss.valid s hs))
    rw [List.filterMap_map, List.filterMap_map, Function.id_comp, Function.id_comp,
      List.filterMap_some] at hnames
    rw [eq_portableEntry hss hs h, hnames]
    exact pairwise_toList _
  arg_values s hs e h token htoken := by
    rw [eq_portableEntry hss hs h] at htoken
    obtain ⟨flag, -, hname, heq⟩ := name?_of_mem_args (hss.valid s hs) htoken
    exact ⟨flag, hname, heq⟩
  keys p := mem_keys_contract.trans (refersTo_iff hss).symm
  values p value h := by
    have hlast := (Sorted.lookup?_ofEntries _).symm.trans h
    have hmem := List.mem_reverse.1 (Sorted.mem_of_lookup? hlast)
    obtain ⟨_, -, heq⟩ := List.mem_map.1 hmem
    cases heq
    rfl

/-! ### What is dropped -/

/-- An execution context adds a variable or an argument to a server that does not require it. -/
inductive NotRequired (ss : List Server) (x : Context) : Dropped → Prop
  | variable {s : Server} {e : Context.Entry} {v : String} (hs : s ∈ ss)
      (he : x.server? s.name = some e) (hv : v ∈ e.env.keys) (hother : v ∉ s.requiredEnv.toList) :
      NotRequired ss x (.variable s.name v)
  | argument {s : Server} {e : Context.Entry} {token : String} (hs : s ∈ ss)
      (he : x.server? s.name = some e) (htoken : token ∈ e.args)
      (hother : ∀ flag ∈ s.requiredArgs.toList, Flag.name? token ≠ some flag) :
      NotRequired ss x (.argument s.name token)

theorem contains_eq_false_iff {names : NameSet} :
    (!names.contains name) = true ↔ name ∉ names.toList := by
  rw [Bool.not_eq_true', ← Bool.not_eq_true, NameSet.contains, Option.isSome_iff_exists,
    ← NameMap.mem_keys_iff]
  rfl

theorem mem_droppedOf_variable_iff {server v : String} :
    .variable server v ∈ droppedOf s e ↔
      s.name = server ∧ v ∈ e.env.keys ∧ v ∉ s.requiredEnv.toList := by
  simp only [droppedOf, List.mem_append, List.mem_map, List.mem_filter, contains_eq_false_iff]
  constructor
  · rintro (⟨_, hv, ⟨⟩⟩ | ⟨_, -, ⟨⟩⟩)
    exact ⟨rfl, hv⟩
  · rintro ⟨rfl, hv⟩
    exact .inl ⟨v, hv, rfl⟩

theorem mem_droppedOf_argument_iff {server token : String} :
    .argument server token ∈ droppedOf s e ↔
      s.name = server ∧ token ∈ e.args ∧
        ∀ flag ∈ s.requiredArgs.toList, Flag.name? token ≠ some flag := by
  have hother : (!(Flag.name? token).any s.requiredArgs.contains) = true ↔
      ∀ flag ∈ s.requiredArgs.toList, Flag.name? token ≠ some flag := by
    cases Flag.name? token with
    | none => exact iff_of_true rfl nofun
    | some flag =>
      rw [Option.any_some, contains_eq_false_iff]
      constructor
      · rintro h _ hflag ⟨⟩
        exact h hflag
      · exact fun h hflag => h flag hflag rfl
  simp only [droppedOf, List.mem_append, List.mem_map, List.mem_filter]
  constructor
  · rintro (⟨_, -, ⟨⟩⟩ | ⟨_, ⟨htoken, hdropped⟩, ⟨⟩⟩)
    exact ⟨rfl, htoken, hother.1 hdropped⟩
  · rintro ⟨rfl, htoken, hdropped⟩
    exact .inr ⟨token, ⟨htoken, hother.2 hdropped⟩, rfl⟩

/-- What is dropped of an execution context is what it adds without being required. -/
theorem mem_droppedFrom_iff {x : Context} {d : Dropped} :
    d ∈ droppedFrom ss x ↔ NotRequired ss x d := by
  simp only [droppedFrom, List.mem_flatMap, Option.mem_toList]
  constructor
  · rintro ⟨s, hs, e, he, hd⟩
    obtain ⟨server, v⟩ | ⟨server, token⟩ := d
    · obtain ⟨rfl, hv, hother⟩ := mem_droppedOf_variable_iff.1 hd
      exact .variable hs he hv hother
    · obtain ⟨rfl, htoken, hother⟩ := mem_droppedOf_argument_iff.1 hd
      exact .argument hs he htoken hother
  · rintro (⟨hs, he, hv, hother⟩ | ⟨hs, he, htoken, hother⟩)
    · exact ⟨_, hs, _, he, mem_droppedOf_variable_iff.2 ⟨rfl, hv, hother⟩⟩
    · exact ⟨_, hs, _, he, mem_droppedOf_argument_iff.2 ⟨rfl, htoken, hother⟩⟩

end FleetConfig.Export
