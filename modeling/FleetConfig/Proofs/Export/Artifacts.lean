import FleetConfig.Flag
import FleetConfig.Proofs.Export.Placeholders
import FleetConfig.Proofs.Text.Cutting

/-!
# What is exported for an item

The portable context refers to one placeholder for each declared item, and the environment contract
lists the placeholders, each once. It has as many entries as there are items if no two items are
alike.

## Main definitions

* `Export.Artifacts.Gives` — the portable context has a placeholder for an item.

## Main results

* `Export.ofContract_eq_ok_iff` — what of an export depends on the execution context.
* `Export.gives_iff` — each item has its own placeholder in the portable context, and no other.
* `Export.mem_keys_contract` — the placeholders in the environment contract.
* `Export.length_keys_contract_eq_iff` — when it has as many entries as there are items.
-/

namespace FleetConfig.Export

/-- The portable context refers to a placeholder for an item. -/
def Artifacts.Gives (a : Artifacts) (i : Item) (placeholder : String) : Prop :=
  ∃ e, a.context.server? i.server = some e ∧
    match i.kind with
    | .variable => e.env.get? i.name = some (reference placeholder)
    | .flag => i.name ++ "=" ++ reference placeholder ∈ e.args

/-- The two documents for a contract with servers. They do not depend on the execution context. -/
def artifactsOf (ss : List Server) : Artifacts where
  context := ⟨.ofList (portableEntries ss)⟩
  contract := .ofList ((ss.flatMap placeholders).map fun p => (p, ""))

theorem ofContract_eq_ok {k : Contract} (h : k.servers ≠ []) (x : Context) :
    ofContract k x = .ok ⟨artifactsOf k.servers, droppedFrom k.servers x⟩ := by
  rw [ofContract, if_neg (mt List.isEmpty_iff.1 h)]
  rfl

/-- A contract is exported exactly if it has servers. Of what is exported, only what is dropped
depends on the execution context. -/
theorem ofContract_eq_ok_iff {k : Contract} {x : Context} {exported : Exported} :
    ofContract k x = .ok exported ↔
      k.servers ≠ [] ∧ exported = ⟨artifactsOf k.servers, droppedFrom k.servers x⟩ := by
  constructor
  · intro h
    have hservers : k.servers ≠ [] := by
      intro hnil
      rw [ofContract, hnil] at h
      cases h
    cases (ofContract_eq_ok hservers x).symm.trans h
    exact ⟨hservers, rfl⟩
  · rintro ⟨hservers, rfl⟩
    exact ofContract_eq_ok hservers x

variable {ss : List Server} {s : Server} {i : Item} {p : String}

/-! ### References -/

theorem reference_inj {p q : String} (h : reference p = reference q) : p = q := by
  rw [reference, reference, String.append_left_inj, String.append_right_inj] at h
  exact h

/-- No value follows the name of a flag that a valid server requires. -/
theorem not_mem_of_isBareFlag {flag : String} (h : Server.isBareFlag flag = true) :
    '=' ∉ flag.toList := by
  rw [Server.isBareFlag] at h
  split at h
  · rename_i cs hcs
    rw [hcs]
    simpa using h
  · cases h

private theorem takeWhile_flag {flag : List Char} (h : '=' ∉ flag) (value : List Char) :
    (flag ++ '=' :: value).takeWhile (· != '=') = flag := by
  have hflag : ∀ c ∈ flag, (c != '=') = true := by
    intro c hc
    rw [bne_iff_ne]
    rintro rfl
    exact h hc
  exact Text.takeWhile_run hflag (by simp)

/-- The name of a required flag is told from the token with its value. -/
theorem name?_flag {flag : String} (h : Server.isBareFlag flag = true) (value : String) :
    Flag.name? (flag ++ "=" ++ value) = some flag := by
  have hvalue := not_mem_of_isBareFlag h
  rw [Server.isBareFlag] at h
  split at h
  · rename_i cs hcs
    have htoken : (flag ++ "=" ++ value).toList = '-' :: '-' :: (cs ++ '=' :: value.toList) := by
      simp [hcs]
    have hname := takeWhile_flag hvalue value.toList
    obtain ⟨c, rest, hrest⟩ := List.exists_cons_of_ne_nil
      (List.append_ne_nil_of_right_ne_nil cs (List.cons_ne_nil '=' value.toList))
    rw [hcs, List.cons_append, List.cons_append, hrest] at hname
    rw [Flag.name?, htoken, hrest]
    show some (String.ofList (('-' :: '-' :: c :: rest).takeWhile (· != '='))) = some flag
    rw [hname, ← hcs, String.ofList_toList]
  · cases h

theorem eq_of_flag_eq {flag flag' value value' : String} (h : '=' ∉ flag.toList)
    (h' : '=' ∉ flag'.toList) (heq : flag ++ "=" ++ value = flag' ++ "=" ++ value') :
    flag = flag' ∧ value = value' := by
  have hlist : flag.toList ++ '=' :: value.toList = flag'.toList ++ '=' :: value'.toList := by
    simpa using congrArg String.toList heq
  have hflag : flag = flag' := by
    rw [← String.toList_inj, ← takeWhile_flag h, hlist, takeWhile_flag h']
  rw [hflag, String.append_right_inj] at heq
  exact ⟨hflag, heq⟩

theorem isBareFlag_of_mem {flag : String} (hs : s.violations = [])
    (h : flag ∈ s.requiredArgs.toList) : Server.isBareFlag flag = true := by
  rw [Server.violations, List.append_eq_nil_iff, List.map_eq_nil_iff, List.filter_eq_nil_iff] at hs
  simpa using hs.2 flag h

/-! ### The portable context -/

theorem get?_portableEntry {v : String} (hv : v ∈ s.requiredEnv.toList) :
    (portableEntry s).env.get? v = some (reference (placeholder s.name v)) := by
  refine NameMap.get?_ofList_of_mem (e := (v, reference (placeholder s.name v))) ?_
    (List.mem_map_of_mem (f := fun v => (v, reference (placeholder s.name v))) hv)
  rw [List.map_map]
  exact (List.map_id _).symm ▸ s.requiredEnv.nodup_toList

theorem isEmpty_portableEntry_iff :
    (portableEntry s).isEmpty = false ↔ s.requiredEnv.toList ≠ [] ∨ s.requiredArgs.toList ≠ [] := by
  rw [Context.Entry.isEmpty, Bool.and_eq_false_iff, or_comm]
  refine or_congr ?_ ?_
  · constructor
    · intro h hnone
      rw [portableEntry, hnone] at h
      cases h
    · intro h
      obtain ⟨v, hv⟩ := List.exists_mem_of_ne_nil _ h
      exact NameMap.isEmpty_of_get? (get?_portableEntry hv)
  · rw [portableEntry, List.isEmpty_eq_false_iff, ne_eq, List.map_eq_nil_iff]

/-- A server that requires something has an entry of its own. -/
theorem server?_of_requires (hss : Contract.ValidServers ss) (hs : s ∈ ss)
    (h : s.requiredEnv.toList ≠ [] ∨ s.requiredArgs.toList ≠ []) :
    (artifactsOf ss).context.server? s.name = some (portableEntry s) := by
  have hnames : ((portableEntries ss).map Prod.fst).Nodup := by
    refine List.Nodup.sublist (List.filter_sublist.map Prod.fst) ?_
    rw [List.map_map]
    exact hss.distinct
  refine NameMap.get?_ofList_of_mem (e := (s.name, portableEntry s)) hnames ?_
  refine List.mem_filter.2 ⟨List.mem_map_of_mem hs, ?_⟩
  rw [isEmpty_portableEntry_iff.2 h]
  rfl

theorem server?_artifactsOf (hss : Contract.ValidServers ss) (hs : s ∈ ss)
    (hi : i ∈ itemsOf s) : (artifactsOf ss).context.server? s.name = some (portableEntry s) := by
  refine server?_of_requires hss hs ?_
  rcases List.mem_append.1 hi with hi | hi
  · obtain ⟨v, hv, -⟩ := List.mem_map.1 hi
    exact .inl (List.ne_nil_of_mem hv)
  · obtain ⟨flag, hflag, -⟩ := List.mem_map.1 hi
    exact .inr (List.ne_nil_of_mem hflag)

/-- The portable context has the item's own placeholder for an item, and no other. -/
theorem gives_iff (hss : Contract.ValidServers ss) (hi : i ∈ items ss) :
    (artifactsOf ss).Gives i p ↔ p = i.placeholder := by
  obtain ⟨s, hs, hi⟩ := List.mem_flatMap.1 hi
  have hentry := server?_artifactsOf hss hs hi
  rw [← server_of_mem_itemsOf hi] at hentry
  rw [Artifacts.Gives, hentry]
  simp only [Option.some.injEq, exists_eq_left']
  rcases List.mem_append.1 hi with hi | hi
  · obtain ⟨v, hv, rfl⟩ := List.mem_map.1 hi
    show (portableEntry s).env.get? v = some (reference p) ↔ _
    rw [get?_portableEntry hv, Option.some.injEq]
    exact ⟨fun h => (reference_inj h).symm, fun h => h ▸ rfl⟩
  · obtain ⟨flag, hflag, rfl⟩ := List.mem_map.1 hi
    show flag ++ "=" ++ reference p ∈ (portableEntry s).args ↔ _
    constructor
    · intro h
      obtain ⟨flag', hflag', heq⟩ := List.mem_map.1 h
      obtain ⟨rfl, hvalue⟩ := eq_of_flag_eq
        (not_mem_of_isBareFlag (isBareFlag_of_mem (hss.valid s hs) hflag'))
        (not_mem_of_isBareFlag (isBareFlag_of_mem (hss.valid s hs) hflag)) heq
      exact (reference_inj hvalue).symm
    · rintro rfl
      exact List.mem_map_of_mem
        (f := fun flag => flag ++ "=" ++ reference (placeholder s.name flag)) hflag

/-! ### The environment contract -/

/-- The environment contract lists the placeholders of the items. -/
theorem mem_keys_contract :
    p ∈ (artifactsOf ss).contract.keys ↔ ∃ i ∈ items ss, i.placeholder = p := by
  show p ∈ (NameMap.ofList _).keys ↔ _
  rw [NameMap.mem_keys_ofList, List.map_map, flatMap_placeholders, List.map_map, List.mem_map]
  rfl

/-- It has as many entries as there are items if no two items are alike. -/
theorem length_keys_contract_eq_iff (hss : Contract.ValidServers ss) :
    (artifactsOf ss).contract.keys.length = (items ss).length ↔
      ∀ i ∈ items ss, ∀ j ∈ items ss, i.Alike j → i = j := by
  have hlength : ((ss.flatMap placeholders).map fun p => (p, "")).length = (items ss).length := by
    rw [List.length_map, flatMap_placeholders, List.length_map]
  have hnames : ((ss.flatMap placeholders).map fun p => (p, "")).map Prod.fst =
      (items ss).map Item.placeholder := by
    rw [List.map_map, flatMap_placeholders]
    exact List.map_id _
  rw [← hlength]
  refine NameMap.length_keys_ofList_eq_iff.trans ?_
  rw [hnames, List.nodup_map_iff_inj_on (nodup_items hss)]
  simp only [Item.placeholder_eq_iff]

/-- A valid contract with servers is exported. Two items have one placeholder if their texts are
alike, and only then; so the environment contract has one entry for each item that is declared if no
two of them are alike, and only then. -/
theorem placeholders_differ_unless_alike (k : Contract) (x : Context)
    (hvalid : k.validate = .ok ()) (hservers : k.servers ≠ []) :
    ∃ a, ofContract k x = .ok a ∧
      (∀ i ∈ items k.servers, ∀ p, a.Gives i p ↔ p = i.placeholder) ∧
      (∀ i ∈ items k.servers, ∀ j ∈ items k.servers, i.placeholder = j.placeholder ↔ i.Alike j) ∧
      (∀ p, p ∈ a.contract.keys ↔ ∃ i ∈ items k.servers, i.placeholder = p) ∧
      (a.contract.keys.length = requirementCount k.servers ↔
        ∀ i ∈ items k.servers, ∀ j ∈ items k.servers, i.Alike j → i = j) := by
  have hss := (Contract.validate_eq_ok_iff.1 hvalid).servers
  refine ⟨_, ofContract_eq_ok hservers x, fun i hi p => gives_iff hss hi,
    fun i _ j _ => Item.placeholder_eq_iff, fun p => mem_keys_contract, ?_⟩
  rw [← length_items]
  exact length_keys_contract_eq_iff hss

/-- A server whose variable and flag are not alike. -/
def repositoryServer : Server where
  name := "gh-server"
  package := "uvx::github@latest"
  requiredEnv := .ofList ["GITHUB_TOKEN"]
  requiredArgs := .ofList ["--repo"]

theorem placeholders_differ_unless_alike_repositoryServer :
    ∃ a, ofContract { servers := [repositoryServer] } {} = .ok a ∧ a.contract.keys.length = 2 ∧
      a.Gives ⟨"gh-server", .flag, "--repo"⟩ "MCPD__GH_SERVER__REPO" := by
  obtain ⟨a, ha, hgives, halike, hkeys, hlength⟩ :=
    placeholders_differ_unless_alike { servers := [repositoryServer] } {} rfl
      (List.cons_ne_nil _ _)
  have hdiffer : ∀ i ∈ items [repositoryServer], ∀ j ∈ items [repositoryServer],
      i.placeholder = j.placeholder → i = j := by decide
  refine ⟨a, ha, ?_, ?_⟩
  · exact hlength.2 fun i hi j hj h => hdiffer i hi j hj ((halike i hi j hj).2 h)
  · exact (hgives ⟨"gh-server", .flag, "--repo"⟩ (by decide) _).2 (by decide)

/-- Two servers whose names differ in a separator only, with one variable each. -/
def likeNamedServers : List Server :=
  [{ name := "a-b", package := "p", requiredEnv := .ofList ["T"] },
    { name := "a.b", package := "p", requiredEnv := .ofList ["T"] }]

/-- Two different items of a valid contract can be given one placeholder, and so one entry. -/
theorem likeNamedServers_share_placeholder :
    Contract.validate { servers := likeNamedServers } = .ok () ∧
      ∃ i ∈ items likeNamedServers, ∃ j ∈ items likeNamedServers, i ≠ j ∧
        ∃ a, ofContract { servers := likeNamedServers } {} = .ok a ∧
          a.Gives i "MCPD__A_B__T" ∧ a.Gives j "MCPD__A_B__T" ∧ a.contract.keys.length = 1 ∧
          requirementCount likeNamedServers = 2 :=
  ⟨rfl, ⟨"a-b", .variable, "T"⟩, by decide, ⟨"a.b", .variable, "T"⟩, by decide, by decide, _, rfl,
    ⟨_, rfl, by decide⟩, ⟨_, rfl, by decide⟩, by decide, rfl⟩

end FleetConfig.Export
