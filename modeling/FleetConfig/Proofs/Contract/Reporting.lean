import FleetConfig.Proofs.Contract.Places

/-!
# The report of a check

The check of a contract reports all that is wrong with it, each once and nothing else, in the order
of the document. What is left when something is taken out of a contract has some of its errors, in
the same order.

## Main results

* `Contract.mem_sites_iff` — the sites are all that is wrong.
* `Contract.pairwise_sites` — they are in the order of the document.
* `Contract.validate_reports_each_violation_once` — the check as a whole.
-/

namespace FleetConfig.Contract

open Plugin (Category)
open Daemon (Key)

/-! ### The sites are what is wrong -/

variable {k : Contract} {p : Place} {v : Violation}

theorem length_take_of_getElem? {α : Type} {xs : List α} {i : Nat} {x : α}
    (h : xs[i]? = some x) : (xs.take i).length = i := by
  obtain ⟨hi, -⟩ := List.getElem?_eq_some_iff.1 h
  exact List.length_take_of_le hi.le

theorem nameFault?_of_badChar {name : String} {c : Char} (hc : c ∈ name.toList)
    (h : Server.isNameChar c = false) : Server.nameFault? name = some (.badChar name) := by
  have hne : name ≠ "" := by
    rintro rfl
    cases hc
  have hall : ¬name.toList.all Server.isNameChar = true := fun hall =>
    Bool.eq_false_iff.1 h (List.all_eq_true.1 hall c hc)
  rw [Server.nameFault?, if_neg hne, if_neg hall]

theorem isBareFlag_eq_true_iff {flag : String} : Server.isBareFlag flag = true ↔
    ∃ cs, flag.toList = '-' :: '-' :: cs ∧ '=' ∉ cs := by
  rw [Server.isBareFlag]
  split
  · rename_i cs hflag
    simp [hflag]
  · rename_i hother
    exact ⟨nofun, fun ⟨cs, hcs, _⟩ => (hother cs hcs).elim⟩

theorem isPlainName_eq_true_iff {name : String} : Plugin.isPlainName name = true ↔
    ¬('/' ∈ name.toList ∨ '\\' ∈ name.toList ∨ name = "." ∨ name = "..") := by
  simp [Plugin.isPlainName, and_assoc]

theorem isEmpty_flows_iff {fs : Plugin.FlowSet} : fs.isEmpty = true ↔ fs.toList = [] := by
  obtain ⟨_ | _, _ | _⟩ := fs <;> decide

theorem wrong_of_mem_serverSites {i : Nat} {s : Server} (hs : k.servers[i]? = some s)
    (h : (p, v) ∈ serverSites (k.servers.take i) s) : k.Wrong p v := by
  rw [serverSites, length_take_of_getElem? hs, List.mem_append, List.mem_append,
    List.mem_append] at h
  obtain ((h | h) | h) | h := h
  · obtain ⟨hname, h⟩ := List.mem_ite_nil_right.1 h
    cases List.mem_singleton.1 h
    exact .repeatedServer hs hname
  · obtain ⟨fault, hfault, h⟩ := List.mem_map.1 h
    cases h
    rw [Option.mem_toList, Server.nameFault?] at hfault
    split_ifs at hfault with hempty hall
    · cases hfault
      exact .noServerName hs hempty
    · cases hfault
      rw [List.all_eq_true, not_forall₂] at hall
      obtain ⟨c, hc, hbad⟩ := hall
      exact .badServerName hs hc (Bool.eq_false_iff.2 hbad)
  · obtain ⟨hblank, h⟩ := List.mem_ite_nil_right.1 h
    cases List.mem_singleton.1 h
    exact .blankPackage hs (Text.trim_eq_empty_iff.2 hblank)
  · obtain ⟨j, flag, hflag, h⟩ := mem_walk_nil_iff.1 h
    obtain ⟨hbad, h⟩ := List.mem_ite_nil_right.1 h
    cases List.mem_singleton.1 h
    rw [length_take_of_getElem? hflag]
    refine .badFlag hs hflag fun cs hcs => by_contra fun hvalue => ?_
    rw [isBareFlag_eq_true_iff.2 ⟨cs, hcs, hvalue⟩] at hbad
    cases hbad

theorem wrong_of_mem_daemonSites (h : (p, v) ∈ daemonSites k.settings) : k.Wrong p v := by
  rw [daemonSites, List.mem_append, List.mem_flatMap, List.mem_flatMap] at h
  obtain ⟨key, -, h⟩ | ⟨key, -, h⟩ := h
  · obtain ⟨l, hl, h⟩ := List.mem_flatMap.1 h
    rw [Option.mem_toList] at hl
    unfold settingSites at h
    split at h
    · rename_i addr
      obtain ⟨w, hw, h⟩ := List.mem_map.1 h
      cases h
      rw [Daemon.addressViolations] at hw
      split at hw
      · cases hw
      · rename_i fault hfault
        cases List.mem_singleton.1 hw
        exact .badAddress hl hfault
    · rename_i ms
      obtain ⟨i, m, hm, h⟩ := mem_walk_nil_iff.1 h
      obtain ⟨w, hw, h⟩ := List.mem_map.1 h
      cases h
      rw [length_take_of_getElem? hm]
      obtain ⟨m', hm', rfl⟩ := List.mem_map.1 hw
      obtain ⟨hmem, hbad⟩ := List.mem_filter.1 hm'
      cases List.mem_singleton.1 hmem
      exact .badMethod hl hm (by simpa using hbad)
    · rename_i origins
      obtain ⟨i, origin, horigin, h⟩ := mem_walk_nil_iff.1 h
      obtain ⟨w, hw, h⟩ := List.mem_map.1 h
      cases h
      rw [length_take_of_getElem? horigin]
      rw [Daemon.originViolations] at hw
      split at hw
      · cases hw
      · rename_i fault hfault
        cases List.mem_singleton.1 hw
        exact .badOrigin hl horigin hfault
    · cases h
  · obtain ⟨l, hl, h⟩ := List.mem_flatMap.1 h
    rw [Option.mem_toList] at hl
    obtain ⟨w, hw, h⟩ := List.mem_map.1 h
    cases h
    unfold Key.zeroFaults at hw
    split at hw
    · obtain ⟨hzero, hw⟩ := List.mem_ite_nil_right.1 hw
      cases List.mem_singleton.1 hw
      exact .zeroDuration hl (beq_iff_eq.1 hzero)
    · cases hw

theorem wrong_of_mem_pluginSites {c : Category} {i : Nat} {q : Plugin}
    (hq : (k.catalogue.plugins c)[i]? = some q)
    (h : (p, v) ∈ pluginSites c ((k.catalogue.plugins c).take i) q) : k.Wrong p v := by
  rw [pluginSites, length_take_of_getElem? hq, List.mem_append, List.mem_append,
    List.mem_append] at h
  obtain ((h | h) | h) | h := h
  · obtain ⟨w, hw, h⟩ := List.mem_map.1 h
    cases h
    rw [Plugin.nameViolations] at hw
    split_ifs at hw with hblank hplain
    · cases List.mem_singleton.1 hw
      exact .blankPluginName hq (Text.trim_eq_empty_iff.2 hblank)
    · cases hw
    · cases List.mem_singleton.1 hw
      exact .badPluginName hq (fun h => hblank (Text.trim_eq_empty_iff.1 h))
        (not_not.1 (mt isPlainName_eq_true_iff.2 hplain))
  · obtain ⟨hempty, h⟩ := List.mem_ite_nil_right.1 h
    cases List.mem_singleton.1 h
    exact .noFlow hq (isEmpty_flows_iff.1 hempty)
  · obtain ⟨hblank, h⟩ := List.mem_ite_nil_right.1 h
    cases List.mem_singleton.1 h
    obtain ⟨hash, hhash, hblank⟩ := (Option.any_eq_true _ _).1 hblank
    exact .blankCommitHash hq hhash (Text.trim_eq_empty_iff.2 hblank)
  · obtain ⟨hname, h⟩ := List.mem_ite_nil_right.1 h
    cases List.mem_singleton.1 h
    exact .repeatedPlugin hq hname

/-- Nothing is reported that is not wrong. -/
theorem wrong_of_mem_sites (h : (p, v) ∈ k.sites) : k.Wrong p v := by
  rw [sites, catalogueSites, List.mem_append, List.mem_append, List.mem_append] at h
  obtain (h | h) | h | h := h
  · obtain ⟨i, s, hs, h⟩ := mem_walk_nil_iff.1 h
    exact wrong_of_mem_serverSites hs h
  · exact wrong_of_mem_daemonSites h
  · obtain ⟨w, hw, h⟩ := List.mem_map.1 h
    cases h
    obtain ⟨hblank, hw⟩ := List.mem_ite_nil_right.1 hw
    cases List.mem_singleton.1 hw
    obtain ⟨dir, hdir, hblank⟩ := (Option.any_eq_true _ _).1 hblank
    exact .blankDir hdir (Text.trim_eq_empty_iff.2 hblank)
  · obtain ⟨c, -, h⟩ := List.mem_flatMap.1 h
    obtain ⟨i, q, hq, h⟩ := mem_walk_nil_iff.1 h
    exact wrong_of_mem_pluginSites hq h

theorem mem_sites_of_server {i : Nat} {s : Server} (hs : k.servers[i]? = some s)
    (h : (p, v) ∈ serverSites (k.servers.take i) s) : (p, v) ∈ k.sites :=
  List.mem_append_left _ (List.mem_append_left _ (mem_walk_nil_iff.2 ⟨i, s, hs, h⟩))

theorem mem_sites_of_setting {key : Key} {l : Setting.Leaf} (hl : key.read k.settings = some l)
    (hkey : key ∈ Key.checked) (h : (p, v) ∈ settingSites key l) : (p, v) ∈ k.sites := by
  refine List.mem_append_left _ (List.mem_append_right _ (List.mem_append_left _ ?_))
  exact List.mem_flatMap.2 ⟨key, hkey, List.mem_flatMap.2 ⟨l, Option.mem_toList.2 hl, h⟩⟩

theorem mem_sites_of_duration {key : Key} {l : Setting.Leaf} (hl : key.read k.settings = some l)
    (h : (p, v) ∈ durationSites key l) : (p, v) ∈ k.sites := by
  refine List.mem_append_left _ (List.mem_append_right _ (List.mem_append_right _ ?_))
  exact List.mem_flatMap.2 ⟨key, key.mem_all, List.mem_flatMap.2 ⟨l, Option.mem_toList.2 hl, h⟩⟩

theorem mem_sites_of_plugin {c : Category} {i : Nat} {q : Plugin}
    (hq : (k.catalogue.plugins c)[i]? = some q)
    (h : (p, v) ∈ pluginSites c ((k.catalogue.plugins c).take i) q) : (p, v) ∈ k.sites :=
  List.mem_append_right _ (List.mem_append_right _
    (List.mem_flatMap.2 ⟨c, c.mem_all, mem_walk_nil_iff.2 ⟨i, q, hq, h⟩⟩))

/-- All that is wrong is reported. -/
theorem mem_sites_of_wrong (h : k.Wrong p v) : (p, v) ∈ k.sites := by
  cases h with
  | @repeatedServer i s hs h =>
    refine mem_sites_of_server hs ?_
    rw [serverSites, length_take_of_getElem? hs, if_pos h]
    exact List.mem_append_left _ (List.mem_append_left _ (List.mem_append_left _
      (List.mem_singleton_self _)))
  | @noServerName i s hs h =>
    refine mem_sites_of_server hs ?_
    rw [serverSites, length_take_of_getElem? hs, Server.nameFault?, if_pos h]
    exact List.mem_append_left _ (List.mem_append_left _ (List.mem_append_right _
      (List.mem_singleton_self _)))
  | @badServerName i s c hs hc h =>
    refine mem_sites_of_server hs ?_
    rw [serverSites, length_take_of_getElem? hs, nameFault?_of_badChar hc h]
    exact List.mem_append_left _ (List.mem_append_left _ (List.mem_append_right _
      (List.mem_singleton_self _)))
  | @blankPackage i s hs h =>
    refine mem_sites_of_server hs ?_
    rw [serverSites, length_take_of_getElem? hs, if_pos (Text.trim_eq_empty_iff.1 h)]
    exact List.mem_append_left _ (List.mem_append_right _ (List.mem_singleton_self _))
  | @badFlag i j s flag hs hflag h =>
    have hbare : ¬Server.isBareFlag flag = true := by
      rw [isBareFlag_eq_true_iff]
      rintro ⟨cs, hcs, hvalue⟩
      exact hvalue (h cs hcs)
    refine mem_sites_of_server hs
      (List.mem_append_right _ (mem_walk_nil_iff.2 ⟨j, flag, hflag, ?_⟩))
    rw [length_take_of_getElem? hs, length_take_of_getElem? hflag, Bool.eq_false_iff.2 hbare]
    exact List.mem_singleton_self _
  | @badAddress addr fault haddr h =>
    refine mem_sites_of_setting haddr (by decide) ?_
    rw [settingSites, Daemon.addressViolations, h]
    exact List.mem_singleton_self _
  | @badMethod i m ms hms hm h =>
    refine mem_sites_of_setting hms (by decide) (mem_walk_nil_iff.2 ⟨i, m, hm, ?_⟩)
    rw [length_take_of_getElem? hm]
    refine List.mem_map_of_mem
      (List.mem_map_of_mem (List.mem_filter.2 ⟨List.mem_singleton_self m, ?_⟩))
    simpa using h
  | @badOrigin i origin origins fault horigins horigin h =>
    refine mem_sites_of_setting horigins (by decide) (mem_walk_nil_iff.2 ⟨i, origin, horigin, ?_⟩)
    rw [length_take_of_getElem? horigin, Daemon.originViolations, h]
    exact List.mem_singleton_self _
  | @zeroDuration key t ht h =>
    have hzero : t.isZero = true := beq_iff_eq.2 h
    refine mem_sites_of_duration ht ?_
    rw [durationSites, Key.zeroFaults, if_pos hzero]
    exact List.mem_singleton_self _
  | @blankDir dir hdir h =>
    have hblank : k.catalogue.dir.any Text.isBlankText = true :=
      (Option.any_eq_true _ _).2 ⟨dir, hdir, Text.trim_eq_empty_iff.1 h⟩
    refine List.mem_append_right _ (List.mem_append_left _ ?_)
    rw [Catalogue.dirViolations, if_pos hblank]
    exact List.mem_singleton_self _
  | @blankPluginName c i q hq h =>
    refine mem_sites_of_plugin hq ?_
    rw [pluginSites, length_take_of_getElem? hq, Plugin.nameViolations,
      if_pos (Text.trim_eq_empty_iff.1 h)]
    exact List.mem_append_left _ (List.mem_append_left _ (List.mem_append_left _
      (List.mem_singleton_self _)))
  | @badPluginName c i q hq hname h =>
    refine mem_sites_of_plugin hq ?_
    rw [pluginSites, length_take_of_getElem? hq, Plugin.nameViolations,
      if_neg (mt Text.trim_eq_empty_iff.2 hname),
      if_neg (mt isPlainName_eq_true_iff.1 (not_not.2 h))]
    exact List.mem_append_left _ (List.mem_append_left _ (List.mem_append_left _
      (List.mem_singleton_self _)))
  | @noFlow c i q hq h =>
    refine mem_sites_of_plugin hq ?_
    rw [pluginSites, length_take_of_getElem? hq, if_pos (isEmpty_flows_iff.2 h)]
    exact List.mem_append_left _ (List.mem_append_left _ (List.mem_append_right _
      (List.mem_singleton_self _)))
  | @blankCommitHash c i q hash hq hhash h =>
    have hblank : q.commitHash.any Text.isBlankText = true :=
      (Option.any_eq_true _ _).2 ⟨hash, hhash, Text.trim_eq_empty_iff.1 h⟩
    refine mem_sites_of_plugin hq ?_
    rw [pluginSites, length_take_of_getElem? hq, if_pos hblank]
    exact List.mem_append_left _ (List.mem_append_right _ (List.mem_singleton_self _))
  | @repeatedPlugin c i q hq h =>
    refine mem_sites_of_plugin hq ?_
    rw [pluginSites, length_take_of_getElem? hq, if_pos h]
    exact List.mem_append_right _ (List.mem_singleton_self _)

theorem mem_sites_iff : (p, v) ∈ k.sites ↔ k.Wrong p v := ⟨wrong_of_mem_sites, mem_sites_of_wrong⟩

/-! ### The order of the sites -/

/-- The place of a violation stands before that of another one. -/
def Before (r r' : Place × Violation) : Prop := r.1.number < r'.1.number

theorem pairwise_of_length_le_one {rs : List (Place × Violation)} (h : rs.length ≤ 1) :
    rs.Pairwise Before := by
  obtain _ | ⟨r, _ | ⟨r', rs⟩⟩ := rs
  · exact .nil
  · exact List.pairwise_singleton _ _
  · simp at h

theorem pairwise_ite_singleton {c : Prop} [Decidable c] (r : Place × Violation) :
    (if c then [r] else []).Pairwise Before :=
  pairwise_of_length_le_one (by split <;> simp)

/-- Numbers are told apart where they first differ. -/
theorem append_cons_lt (ms : List Nat) {a b : Nat} (h : a < b) (ns ns' : List Nat) :
    ms ++ a :: ns < ms ++ b :: ns' :=
  List.append_left_lt (List.cons_lt_cons_iff.2 (.inl h))

theorem pairwise_serverSites (front : List Server) (s : Server) :
    (serverSites front s).Pairwise Before := by
  have hname : ((Server.nameFault? s.name).toList.map fun fault =>
      ((Place.server front.length .name, .inServer (.badName fault)) : Place × Violation)).Pairwise
        Before := by
    refine pairwise_of_length_le_one ?_
    cases Server.nameFault? s.name <;> simp
  have hflags : (walk (fun flags flag => if !Server.isBareFlag flag then
      [((Place.server front.length (.arg flags.length), .inServer (.badFlag s.name flag)) :
        Place × Violation)] else []) [] s.requiredArgs.toList).Pairwise Before := by
    refine pairwise_walk (fun _ _ => pairwise_ite_singleton _) fun fs x fs' x' hlt b hb b' hb' => ?_
    cases List.mem_singleton.1 (List.mem_ite_nil_right.1 hb).2
    cases List.mem_singleton.1 (List.mem_ite_nil_right.1 hb').2
    exact append_cons_lt [_, _, _] hlt _ _
  have hlt {a b : ServerPart} {v w : Violation} (h : a.number < b.number) :
      Before (.server front.length a, v) (.server front.length b, w) := by
    show [0, front.length] ++ a.number < [0, front.length] ++ b.number
    exact List.append_left_lt h
  simp only [serverSites, List.pairwise_append, pairwise_ite_singleton, hname, hflags,
    List.mem_append, List.mem_ite_nil_right, List.mem_singleton, List.mem_map, mem_walk_nil_iff]
  refine ⟨⟨⟨trivial, trivial, ?_⟩, trivial, ?_⟩, trivial, ?_⟩
  · rintro _ ⟨-, rfl⟩ _ ⟨fault, -, rfl⟩
    exact hlt (by decide)
  · rintro _ (⟨-, rfl⟩ | ⟨fault, -, rfl⟩) _ ⟨-, rfl⟩ <;> exact hlt (by decide)
  · rintro _ ((⟨-, rfl⟩ | ⟨fault, -, rfl⟩) | ⟨-, rfl⟩) _ ⟨j, flag, -, -, rfl⟩ <;>
      exact hlt (append_cons_lt [] (by decide) _ _)

theorem exists_part_of_mem_serverSites {front : List Server} {s : Server}
    (h : (p, v) ∈ serverSites front s) : ∃ part, p = .server front.length part := by
  simp only [serverSites, List.mem_append, List.mem_ite_nil_right, List.mem_singleton,
    List.mem_map, mem_walk_nil_iff] at h
  obtain ((⟨-, h⟩ | ⟨fault, -, h⟩) | ⟨-, h⟩) | ⟨j, flag, -, -, h⟩ := h <;> cases h <;>
    exact ⟨_, rfl⟩

theorem pairwise_walk_serverSites (ss : List Server) :
    (walk serverSites [] ss).Pairwise Before := by
  refine pairwise_walk pairwise_serverSites fun es x es' x' hlt b hb b' hb' => ?_
  obtain ⟨part, hpart⟩ := exists_part_of_mem_serverSites hb
  obtain ⟨part', hpart'⟩ := exists_part_of_mem_serverSites hb'
  rw [Before, hpart, hpart']
  exact append_cons_lt [_] hlt _ _

theorem pairwise_settingSites (key : Key) (l : Setting.Leaf) :
    (settingSites key l).Pairwise Before := by
  unfold settingSites
  split
  · rename_i addr
    refine pairwise_of_length_le_one ?_
    rw [List.length_map, Daemon.addressViolations]
    split <;> simp
  · refine pairwise_walk (fun front m => pairwise_of_length_le_one ?_)
      fun es x es' x' hlt b hb b' hb' => ?_
    · rw [List.length_map, Daemon.methodViolations, List.length_map]
      exact List.length_filter_le _ _
    · obtain ⟨w, -, rfl⟩ := List.mem_map.1 hb
      obtain ⟨w', -, rfl⟩ := List.mem_map.1 hb'
      exact append_cons_lt [_, _] hlt _ _
  · refine pairwise_walk (fun front origin => pairwise_of_length_le_one ?_)
      fun es x es' x' hlt b hb b' hb' => ?_
    · rw [List.length_map, Daemon.originViolations]
      split <;> simp
    · obtain ⟨w, -, rfl⟩ := List.mem_map.1 hb
      obtain ⟨w', -, rfl⟩ := List.mem_map.1 hb'
      exact append_cons_lt [_, _] hlt _ _
  · exact .nil

/-- Settings are numbered in the order in which they are looked at. -/
theorem exists_number_of_mem_settingSites {key : Key} {l : Setting.Leaf}
    (h : (p, v) ∈ settingSites key l) : ∃ ns, p.number = 1 :: Key.checked.idxOf key :: ns := by
  unfold settingSites at h
  split at h
  · obtain ⟨w, -, h⟩ := List.mem_map.1 h
    cases h
    exact ⟨_, rfl⟩
  · obtain ⟨i, m, -, h⟩ := mem_walk_nil_iff.1 h
    obtain ⟨w, -, h⟩ := List.mem_map.1 h
    cases h
    exact ⟨_, rfl⟩
  · obtain ⟨i, origin, -, h⟩ := mem_walk_nil_iff.1 h
    obtain ⟨w, -, h⟩ := List.mem_map.1 h
    cases h
    exact ⟨_, rfl⟩
  · cases h

theorem exists_number_of_mem_durationSites {key : Key} {l : Setting.Leaf}
    (h : (p, v) ∈ durationSites key l) : p.number = [1, 3, Key.all.idxOf key] := by
  obtain ⟨w, -, h⟩ := List.mem_map.1 h
  cases h
  rfl

theorem pairwise_durationSites (key : Key) (l : Setting.Leaf) :
    (durationSites key l).Pairwise Before := by
  refine pairwise_of_length_le_one ?_
  rw [durationSites, List.length_map]
  unfold Key.zeroFaults
  split
  · split <;> simp
  · simp

theorem pairwise_flatMap_toList {f : Key → Setting.Leaf → List (Place × Violation)} {d : Daemon}
    {keys : List Key} (hf : ∀ key l, (f key l).Pairwise Before)
    (hkeys : keys.Pairwise fun key key' =>
      ∀ l, ∀ r ∈ f key l, ∀ l', ∀ r' ∈ f key' l', Before r r') :
    (keys.flatMap fun key => (key.read d).toList.flatMap (f key)).Pairwise Before := by
  refine List.pairwise_flatMap.2 ⟨fun key _ => ?_, hkeys.imp fun h r hr r' hr' => ?_⟩
  · cases key.read d with
    | none => exact .nil
    | some l =>
      rw [Option.toList_some, List.flatMap_singleton]
      exact hf key l
  · obtain ⟨l, -, hr⟩ := List.mem_flatMap.1 hr
    obtain ⟨l', -, hr'⟩ := List.mem_flatMap.1 hr'
    exact h l r hr l' r' hr'

theorem pairwise_daemonSites (d : Daemon) : (daemonSites d).Pairwise Before := by
  have hchecked : Key.checked.Pairwise fun key key' =>
      Key.checked.idxOf key < Key.checked.idxOf key' := by decide
  have hall : Key.all.Pairwise fun key key' => Key.all.idxOf key < Key.all.idxOf key' := by decide
  refine List.pairwise_append.2 ⟨?_, ?_, fun r hr r' hr' => ?_⟩
  · refine pairwise_flatMap_toList pairwise_settingSites
      (hchecked.imp fun hlt l r hr l' r' hr' => ?_)
    obtain ⟨ns, hns⟩ := exists_number_of_mem_settingSites hr
    obtain ⟨ns', hns'⟩ := exists_number_of_mem_settingSites hr'
    rw [Before, hns, hns']
    exact append_cons_lt [_] hlt _ _
  · refine pairwise_flatMap_toList pairwise_durationSites (hall.imp fun hlt l r hr l' r' hr' => ?_)
    rw [Before, exists_number_of_mem_durationSites hr, exists_number_of_mem_durationSites hr']
    exact append_cons_lt [_, _] hlt _ _
  · obtain ⟨key, hkey, hr⟩ := List.mem_flatMap.1 hr
    obtain ⟨l, -, hr⟩ := List.mem_flatMap.1 hr
    obtain ⟨key', -, hr'⟩ := List.mem_flatMap.1 hr'
    obtain ⟨l', -, hr'⟩ := List.mem_flatMap.1 hr'
    obtain ⟨ns, hns⟩ := exists_number_of_mem_settingSites hr
    rw [Before, hns, exists_number_of_mem_durationSites hr']
    exact append_cons_lt [_] (List.idxOf_lt_length_of_mem hkey) _ _

theorem exists_part_of_mem_pluginSites {c : Category} {front : List Plugin} {q : Plugin}
    (h : (p, v) ∈ pluginSites c front q) : ∃ part, p = .plugin c front.length part := by
  simp only [pluginSites, List.mem_append, List.mem_ite_nil_right, List.mem_singleton,
    List.mem_map] at h
  obtain ((⟨w, -, h⟩ | ⟨-, h⟩) | ⟨-, h⟩) | ⟨-, h⟩ := h <;> cases h <;> exact ⟨_, rfl⟩

theorem pairwise_pluginSites (c : Category) (front : List Plugin) (q : Plugin) :
    (pluginSites c front q).Pairwise Before := by
  have hname : ((Plugin.nameViolations q.name).map fun w =>
      ((.plugin c front.length .name, .inPlugins (.inPlugin c w)) : Place × Violation)).Pairwise
        Before := by
    refine pairwise_of_length_le_one ?_
    rw [List.length_map, Plugin.nameViolations]
    split_ifs <;> simp
  have hlt {a b : PluginPart} {v w : Violation} (h : a.number < b.number) :
      Before (.plugin c front.length a, v) (.plugin c front.length b, w) :=
    append_cons_lt [2, 1, Category.all.idxOf c, front.length] h _ _
  simp only [pluginSites, List.pairwise_append, pairwise_ite_singleton, hname,
    List.mem_append, List.mem_ite_nil_right, List.mem_singleton, List.mem_map]
  refine ⟨⟨⟨trivial, trivial, ?_⟩, trivial, ?_⟩, trivial, ?_⟩
  · rintro _ ⟨w, -, rfl⟩ _ ⟨-, rfl⟩
    exact hlt (by decide)
  · rintro _ (⟨w, -, rfl⟩ | ⟨-, rfl⟩) _ ⟨-, rfl⟩ <;> exact hlt (by decide)
  · rintro _ ((⟨w, -, rfl⟩ | ⟨-, rfl⟩) | ⟨-, rfl⟩) _ ⟨-, rfl⟩ <;> exact hlt (by decide)

theorem pairwise_catalogueSites (cat : Catalogue) : (catalogueSites cat).Pairwise Before := by
  have hall : Category.all.Pairwise fun c c' => Category.all.idxOf c < Category.all.idxOf c' := by
    decide
  refine List.pairwise_append.2 ⟨?_, List.pairwise_flatMap.2 ⟨fun c _ => ?_, ?_⟩, ?_⟩
  · refine pairwise_of_length_le_one ?_
    rw [List.length_map, Catalogue.dirViolations]
    split <;> simp
  · refine pairwise_walk (pairwise_pluginSites c) fun es x es' x' hlt b hb b' hb' => ?_
    obtain ⟨part, hpart⟩ := exists_part_of_mem_pluginSites hb
    obtain ⟨part', hpart'⟩ := exists_part_of_mem_pluginSites hb'
    rw [Before, hpart, hpart']
    exact append_cons_lt [_, _, _] hlt _ _
  · refine hall.imp fun hlt r hr r' hr' => ?_
    obtain ⟨i, q, -, hr⟩ := mem_walk_nil_iff.1 hr
    obtain ⟨i', q', -, hr'⟩ := mem_walk_nil_iff.1 hr'
    obtain ⟨part, hpart⟩ := exists_part_of_mem_pluginSites hr
    obtain ⟨part', hpart'⟩ := exists_part_of_mem_pluginSites hr'
    rw [Before, hpart, hpart']
    exact append_cons_lt [_, _] hlt _ _
  · intro r hr r' hr'
    obtain ⟨w, -, rfl⟩ := List.mem_map.1 hr
    obtain ⟨c, -, hr'⟩ := List.mem_flatMap.1 hr'
    obtain ⟨i, q, -, hr'⟩ := mem_walk_nil_iff.1 hr'
    obtain ⟨part, hpart⟩ := exists_part_of_mem_pluginSites hr'
    rw [Before, hpart]
    exact append_cons_lt [_] (by decide) _ _

theorem exists_number_of_mem_walk_serverSites {ss : List Server}
    (h : (p, v) ∈ walk serverSites [] ss) : ∃ ns, p.number = 0 :: ns := by
  obtain ⟨i, s, -, h⟩ := mem_walk_nil_iff.1 h
  obtain ⟨part, rfl⟩ := exists_part_of_mem_serverSites h
  exact ⟨_, rfl⟩

theorem exists_number_of_mem_daemonSites {d : Daemon} (h : (p, v) ∈ daemonSites d) :
    ∃ ns, p.number = 1 :: ns := by
  obtain h | h := List.mem_append.1 h
  · obtain ⟨key, -, h⟩ := List.mem_flatMap.1 h
    obtain ⟨l, -, h⟩ := List.mem_flatMap.1 h
    obtain ⟨ns, hns⟩ := exists_number_of_mem_settingSites h
    exact ⟨_, hns⟩
  · obtain ⟨key, -, h⟩ := List.mem_flatMap.1 h
    obtain ⟨l, -, h⟩ := List.mem_flatMap.1 h
    exact ⟨_, exists_number_of_mem_durationSites h⟩

theorem exists_number_of_mem_catalogueSites {cat : Catalogue} (h : (p, v) ∈ catalogueSites cat) :
    ∃ ns, p.number = 2 :: ns := by
  obtain h | h := List.mem_append.1 h
  · obtain ⟨w, -, h⟩ := List.mem_map.1 h
    cases h
    exact ⟨_, rfl⟩
  · obtain ⟨c, -, h⟩ := List.mem_flatMap.1 h
    obtain ⟨i, q, -, h⟩ := mem_walk_nil_iff.1 h
    obtain ⟨part, rfl⟩ := exists_part_of_mem_pluginSites h
    exact ⟨_, rfl⟩

/-- The sites are in the order of the document, and no place comes twice. -/
theorem pairwise_sites (k : Contract) : k.sites.Pairwise Before := by
  refine List.pairwise_append.2 ⟨List.pairwise_append.2 ⟨pairwise_walk_serverSites _,
    pairwise_daemonSites _, fun r hr r' hr' => ?_⟩, pairwise_catalogueSites _,
    fun r hr r' hr' => ?_⟩
  · obtain ⟨ns, hns⟩ := exists_number_of_mem_walk_serverSites hr
    obtain ⟨ns', hns'⟩ := exists_number_of_mem_daemonSites hr'
    rw [Before, hns, hns']
    exact append_cons_lt [] (by decide) _ _
  · obtain ⟨ns', hns'⟩ := exists_number_of_mem_catalogueSites hr'
    rw [Before, hns']
    obtain hr | hr := List.mem_append.1 hr
    · obtain ⟨ns, hns⟩ := exists_number_of_mem_walk_serverSites hr
      rw [hns]
      exact append_cons_lt [] (by decide) _ _
    · obtain ⟨ns, hns⟩ := exists_number_of_mem_daemonSites hr
      rw [hns]
      exact append_cons_lt [] (by decide) _ _

/-! ### The check -/

theorem validate_eq_collect_sites (k : Contract) :
    k.validate = ConfigError.collect (k.sites.map fun r => r.2.toError) := by
  rw [validate, ← map_snd_sites, List.map_map]
  rfl

theorem leavesOfResult_validate (k : Contract) :
    ConfigError.leavesOfResult k.validate = k.violations.map Violation.toError :=
  leavesOfResult_collect_map isLeaf_toError _

/-- The check comes to the same whether it is run level by level, each taking apart the composites
of those below (`inspect`), or at once. It succeeds exactly if nothing is wrong with a contract.
Otherwise its error is one composite, which holds one error for each thing that is wrong and no
other, none of them a composite itself, in the order of their places in the document, each of which
has one error at most. If a server, a plugin or the setting of a key is taken out, the errors of
what is left are some of those of the whole, in the same order. -/
theorem validate_reports_each_violation_once (k : Contract) :
    k.inspect = k.validate ∧
    (∃ report : List (Place × Violation),
      (∀ p v, (p, v) ∈ report ↔ k.Wrong p v) ∧
      report.Pairwise (fun r r' => r.1.number < r'.1.number) ∧
      (∀ r ∈ report, r.2.toError.isLeaf = true) ∧
      (k.validate = .ok () ↔ ∀ p v, ¬k.Wrong p v) ∧
      ∀ e, k.validate = .error e → e = .composite (report.map fun r => r.2.toError)) ∧
    ∀ k', Removal k k' → List.Sublist (ConfigError.leavesOfResult k'.validate)
      (ConfigError.leavesOfResult k.validate) := by
  refine ⟨inspect_eq_validate k, ⟨k.sites, fun p v => mem_sites_iff, pairwise_sites k,
    fun r _ => isLeaf_toError _, ?_, fun e he => ?_⟩, fun k' hk' => ?_⟩
  · rw [validate_eq_collect_sites, ConfigError.collect_map_eq_ok_iff,
      List.eq_nil_iff_forall_not_mem]
    constructor
    · intro h p v hwrong
      exact h _ (mem_sites_of_wrong hwrong)
    · rintro h ⟨p, v⟩ hmem
      exact h p v (wrong_of_mem_sites hmem)
  · rw [validate_eq_collect_sites, ConfigError.collect] at he
    split at he
    · cases he
    · cases he
      rfl
  · rw [leavesOfResult_validate, leavesOfResult_validate]
    exact hk'.partOf.violations_sublist.map _

/-- Two servers of one name, the second without a package. -/
def likeNamed : Contract := { servers := [⟨"time", "uvx::time", .empty, .empty, .empty, [], .empty⟩,
  ⟨"time", " ", .empty, .empty, .empty, [], .empty⟩] }

/-- Without the first server the second one is no repetition any more, but its package is blank
still. -/
theorem leaves_of_likeNamed :
    List.Sublist
      (ConfigError.leavesOfResult (Contract.validate { servers := likeNamed.servers.eraseIdx 0 }))
      (ConfigError.leavesOfResult likeNamed.validate) ∧
    ConfigError.leavesOfResult likeNamed.validate =
      [.invalidValue "servers" "duplicate server 'time'",
        .invalidValue "server 'time'" "package must not be empty"] :=
  ⟨(validate_reports_each_violation_once likeNamed).2.2 _ (.server 0), by rfl⟩

end FleetConfig.Contract
