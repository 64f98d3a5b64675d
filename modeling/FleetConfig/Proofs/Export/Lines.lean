import FleetConfig.Proofs.Context.WellFormed
import FleetConfig.Proofs.Export.Fitting
import FleetConfig.Proofs.Text.Cutting

/-!
# Lines of the environment contract

The environment contract is written with a line for each placeholder. The lines are read back, each
cut at its first equals sign, if no placeholder has a line feed or an equals sign in it. Names of
servers have neither, and flags have no equals sign; so it is up to the names of the variables, of
which nothing is checked, and to line feeds in flags.

## Main definitions

* `Export.entryLine` — the line of a name and its value.
* `Export.OnOneLine` — the names that a server requires spoil no line.

## Main results

* `Export.lines_dotenv_iff` — when the lines of a text are read back.
* `Export.mark_mem_placeholder_iff` — the marks in a placeholder are those in its names.
* `Export.dotenv_exact_iff` — when the text of an environment contract is read back.
-/

namespace FleetConfig.Export

variable {es : List (String × String)} {e : String × String} {c d : Char}

/-! ### Lines of names and values -/

/-- The line of a name and its value. -/
def entryLine (e : String × String) : List Char := e.1.toList ++ '=' :: (escapeValue e.2).toList

theorem toList_dotenv (values : NameMap String) :
    (dotenv values).toList = values.entries.flatMap fun e => entryLine e ++ ['\n'] := by
  rw [dotenv, String.toList_join, List.flatMap_map]
  refine congrArg values.entries.flatMap (funext fun e => ?_)
  simp [entryLine]

/-- A value is written without ends of lines. -/
theorem not_mem_escapeValue (value : String) :
    '\n' ∉ (escapeValue value).toList ∧ '\r' ∉ (escapeValue value).toList := by
  have hchars : ∀ c ∈ (escapeValue value).toList, c ≠ '\n' ∧ c ≠ '\r' := by
    intro c hc
    rw [escapeValue, String.toList_ofList] at hc
    obtain ⟨d, hd, hc⟩ := List.mem_flatMap.1 hc
    have hreturn : d ≠ '\r' := by simpa using (List.mem_filter.1 hd).2
    split at hc
    · rcases List.mem_pair.1 hc with rfl | rfl <;> decide
    · rename_i hfeed
      rw [List.mem_singleton.1 hc]
      exact ⟨hfeed, hreturn⟩
  exact ⟨fun h => (hchars _ h).1 rfl, fun h => (hchars _ h).2 rfl⟩

theorem mem_entryLine_iff : '\n' ∈ entryLine e ↔ '\n' ∈ e.1.toList := by
  rw [entryLine, List.mem_append, or_iff_left]
  exact List.not_mem_cons_of_ne_of_not_mem (by decide) (not_mem_escapeValue e.2).1

theorem getLast?_entryLine : (entryLine e).getLast? ≠ some '\r' := by
  intro h
  rw [entryLine, List.getLast?_append_of_ne_nil _ (List.cons_ne_nil _ _)] at h
  rcases List.mem_cons.1 (List.mem_of_getLast? h) with h | h
  · exact absurd h (by decide)
  · exact (not_mem_escapeValue e.2).2 h

/-- Names without line feeds have a line each. -/
theorem lines_entries (h : ∀ e ∈ es, '\n' ∉ e.1.toList) :
    Text.lines (es.flatMap fun e => entryLine e ++ ['\n']) = es.map entryLine := by
  induction es with
  | nil => rfl
  | cons e es ih =>
    obtain ⟨he, hes⟩ := List.forall_mem_cons.1 h
    rw [List.flatMap_cons, List.append_assoc, List.singleton_append,
      Text.lines_append (mt mem_entryLine_iff.1 he) getLast?_entryLine, ih hes, List.map_cons]

theorem length_le_count (es : List (String × String)) :
    es.length ≤ (es.flatMap fun e => entryLine e ++ ['\n']).count '\n' := by
  induction es with
  | nil => exact Nat.le_refl _
  | cons e es ih =>
    rw [List.flatMap_cons, List.count_append, List.count_append, List.count_singleton_self,
      List.length_cons]
    omega

/-- Names have no line feeds if there are no more lines than names. -/
theorem not_mem_of_count_le
    (h : (es.flatMap fun e => entryLine e ++ ['\n']).count '\n' ≤ es.length) :
    ∀ e ∈ es, '\n' ∉ e.1.toList := by
  induction es with
  | nil => exact nofun
  | cons e es ih =>
    rw [List.flatMap_cons, List.count_append, List.count_append, List.count_singleton_self,
      List.length_cons] at h
    have hes := length_le_count es
    have hline : (entryLine e).count '\n' = 0 := by omega
    refine List.forall_mem_cons.2 ⟨?_, ih (by omega)⟩
    exact mt mem_entryLine_iff.2 (List.count_eq_zero.1 hline)

/-- The lines are cut into the names and the values if no name has a line feed or an equals sign. -/
theorem lines_dotenv_iff (values : NameMap String) :
    (Text.lines (dotenv values).toList).map (Text.cutFirst '=') =
        values.entries.map (fun e => some (e.1.toList, (escapeValue e.2).toList)) ↔
      ∀ e ∈ values.entries, '\n' ∉ e.1.toList ∧ '=' ∉ e.1.toList := by
  rw [toList_dotenv]
  constructor
  · intro h
    have hlength := congrArg List.length h
    rw [List.length_map, List.length_map] at hlength
    have hfeeds := not_mem_of_count_le (hlength ▸ Text.count_le_length_lines)
    rw [lines_entries hfeeds, List.map_map, List.map_inj_left] at h
    exact fun e he => ⟨hfeeds e he, Text.not_mem_of_cutFirst (h e he)⟩
  · intro h
    rw [lines_entries fun e he => (h e he).1, List.map_map, List.map_inj_left]
    exact fun e he => Text.cutFirst_append (h e he).2

/-! ### Marks in placeholders -/

/-- Holds of the two characters that end a line or its name. -/
def IsMark (c : Char) : Prop := c = '\n' ∨ c = '='

theorem placeholderChar_eq_mark_iff (h : IsMark c) : placeholderChar d = c ↔ d = c := by
  rw [← Char.toNat_inj, ← Char.toNat_inj, toNat_placeholderChar]
  rcases h with rfl | rfl
  · show _ = 10 ↔ _ = 10
    repeat' split
    all_goals omega
  · show _ = 61 ↔ _ = 61
    repeat' split
    all_goals omega

theorem mem_dropDashPairs_iff {cs : List Char} (h : IsMark c) : c ∈ dropDashPairs cs ↔ c ∈ cs := by
  have hdash : c ≠ '-' := by rcases h with rfl | rfl <;> decide
  induction cs using dropDashPairs.induct with
  | case1 cs ih => simp [dropDashPairs, ih, hdash]
  | case2 cs => rw [dropDashPairs]; assumption

/-- The marks in a placeholder are those in the names that it is made of. -/
theorem mark_mem_placeholder_iff {i : Item} (h : IsMark c) :
    c ∈ i.placeholder.toList ↔ c ∈ i.server.toList ∨ c ∈ i.name.toList := by
  have hprefix : c ∉ "MCPD__".toList := by rcases h with rfl | rfl <;> decide
  have hbetween : c ∉ ['_', '_'] := by rcases h with rfl | rfl <;> decide
  rw [i.toList_placeholder, List.mem_append, or_iff_right hprefix, List.mem_map]
  simp only [placeholderChar_eq_mark_iff h, exists_eq_right, Item.text]
  rw [List.mem_append, List.mem_append, or_iff_left hbetween, mem_dropDashPairs_iff h,
    mem_dropDashPairs_iff h]

/-! ### Exported contracts -/

theorem isName_of_violations {s : Server} (h : s.violations = []) : Server.IsName s.name := by
  rw [Server.violations, List.append_assoc, List.append_eq_nil_iff, List.map_eq_nil_iff,
    Option.toList_eq_nil_iff] at h
  rw [← Server.checkName_eq_ok_iff, Server.checkName, h.1]

/-- A name of a server has no mark. -/
theorem mark_not_mem_name {name : String} (hname : Server.IsName name) (h : IsMark c) :
    c ∉ name.toList := by
  intro hc
  have hchar := hname.chars c hc
  rcases h with rfl | rfl <;> exact absurd hchar (by decide)

/-- The names that a server requires spoil no line: those of variables have neither line feeds nor
equals signs, and those of flags have no line feeds. -/
def OnOneLine (s : Server) : Prop :=
  (∀ v ∈ s.requiredEnv.toList, '\n' ∉ v.toList ∧ '=' ∉ v.toList) ∧
    ∀ flag ∈ s.requiredArgs.toList, '\n' ∉ flag.toList

theorem itemsOf_onOneLine_iff {s : Server} (hs : s.violations = []) :
    (∀ i ∈ itemsOf s, '\n' ∉ i.placeholder.toList ∧ '=' ∉ i.placeholder.toList) ↔
      OnOneLine s := by
  have hname := isName_of_violations hs
  have hmark : ∀ {kind name c}, IsMark c →
      (c ∈ (Item.placeholder ⟨s.name, kind, name⟩).toList ↔ c ∈ name.toList) := fun h =>
    (mark_mem_placeholder_iff h).trans (or_iff_right (mark_not_mem_name hname h))
  have hflag : ∀ flag ∈ s.requiredArgs.toList, '=' ∉ flag.toList := fun flag h =>
    not_mem_of_isBareFlag (isBareFlag_of_mem hs h)
  rw [itemsOf, List.forall_mem_append, List.forall_mem_map, List.forall_mem_map, OnOneLine]
  simp only [hmark (.inl rfl), hmark (.inr rfl)]
  exact and_congr_right fun _ => forall₂_congr fun flag h => and_iff_left (hflag flag h)

/-- A valid contract with servers is exported, and its environment contract is written. The lines of
the text are the placeholders in their order, each with an equals sign and no value, if the names
that its servers require spoil no line, and only then. -/
theorem dotenv_exact_iff (k : Contract) (x : Context) (hvalid : k.validate = .ok ())
    (hservers : k.servers ≠ []) :
    ∃ a text, ofContract k x = .ok a ∧ a.render .dotenv = .ok text ∧
      (∀ p, p ∈ a.contract.keys ↔ ∃ i ∈ items k.servers, i.placeholder = p) ∧
      a.contract.keys.Pairwise (· < ·) ∧
      ((Text.lines text.toList).map (Text.cutFirst '=') =
          a.contract.keys.map (fun p => some (p.toList, [])) ↔
        ∀ s ∈ k.servers, OnOneLine s) := by
  have hss := (Contract.validate_eq_ok_iff.1 hvalid).servers
  let a := artifactsOf k.servers
  have hvalues : a.contract.keys.map (fun p => some (p.toList, [])) =
      a.contract.entries.map fun e => some (e.1.toList, (escapeValue e.2).toList) := by
    rw [NameMap.keys, List.map_map]
    refine List.map_congr_left fun e he => ?_
    rw [(fitsTogether hss).values e.1 e.2 (NameMap.get?_eq_some_iff.2 he)]
    rfl
  refine ⟨_, _, ofContract_eq_ok hservers x, rfl, fun p => mem_keys_contract,
    List.pairwise_map.2 a.contract.ascending, ?_⟩
  rw [hvalues, lines_dotenv_iff]
  have hitems : (∀ e ∈ a.contract.entries, '\n' ∉ e.1.toList ∧ '=' ∉ e.1.toList) ↔
      ∀ i ∈ items k.servers, '\n' ∉ i.placeholder.toList ∧ '=' ∉ i.placeholder.toList := by
    rw [← List.forall_mem_map (f := Prod.fst)
      (P := fun p : String => '\n' ∉ p.toList ∧ '=' ∉ p.toList)]
    constructor
    · exact fun h i hi => h _ (mem_keys_contract.2 ⟨i, hi, rfl⟩)
    · intro h p hp
      obtain ⟨i, hi, rfl⟩ := mem_keys_contract.1 hp
      exact h i hi
  rw [hitems, items, List.forall_mem_flatMap]
  exact forall₂_congr fun s hs => itemsOf_onOneLine_iff (hss.valid s hs)

theorem dotenv_exact_iff_repositoryServer :
    ∃ a text, ofContract { servers := [repositoryServer] } {} = .ok a ∧
      a.render .dotenv = .ok text ∧
      (Text.lines text.toList).map (Text.cutFirst '=') =
        a.contract.keys.map fun p => some (p.toList, []) := by
  obtain ⟨a, text, ha, htext, -, -, hexact⟩ :=
    dotenv_exact_iff { servers := [repositoryServer] } {} rfl (List.cons_ne_nil _ _)
  refine ⟨a, text, ha, htext, hexact.2 ?_⟩
  simp only [List.mem_singleton, forall_eq, OnOneLine]
  decide

/-- A server whose variable has a name of two lines. -/
def twoLineServer : Server where
  name := "a"
  package := "p"
  requiredEnv := .ofList ["A\nB"]

/-- A valid contract whose only placeholder takes two lines, the first without an equals sign. -/
theorem twoLineServer_spoils_lines :
    Contract.validate { servers := [twoLineServer] } = .ok () ∧
      ∃ a text, ofContract { servers := [twoLineServer] } {} = .ok a ∧ a.render .dotenv = .ok text ∧
        a.contract.keys.length = 1 ∧
        (Text.lines text.toList).map (Text.cutFirst '=') = [none, some (['B'], [])] :=
  ⟨rfl, _, _, rfl, rfl, rfl, by decide⟩

end FleetConfig.Export
