import FleetConfig.Proofs.Toml.Values
import FleetConfig.Toml.Document

/-!
# Sections read back

The text of a document is a row of *sections*: a header, which may be left out, and the values under
it, one on a line. Each section is read back as the statement of its header and one statement for
each value.

## Main definitions

* `Toml.Section`, `Toml.Section.block` — a section, and the lines it is written on.
* `Toml.sectionsOfEntries` — the sections of the tables of a document, in the order of their lines.
* `Toml.Follows` — what the statements of some sections are.

## Main results

* `Toml.blocksOfEntries_eq_map` — the lines of a document are those of its sections.
* `Toml.statements_printBlocks` — the sections are read back as their statements.
-/

namespace FleetConfig.Toml

/-! ### Sections -/

/-- A header with the values under it. -/
structure Section where
  /-- Whether the header is in double brackets, and its path. -/
  header : Option (Bool × List String)
  /-- The entries of the table; those that are no values have sections of their own. -/
  entries : Tree.Entries

/-- A written header. -/
def printHeader (isArray : Bool) (path : List String) : List Char :=
  if isArray then '[' :: '[' :: printPath path ++ [']', ']'] else '[' :: printPath path ++ [']']

/-- The lines of a section. -/
def Section.block (s : Section) : Block where
  header := s.header.map fun h => printHeader h.1 h.2
  body := printPairs s.entries

/-- Holds of a part of a document that has lines of its own instead of a value on a line. -/
def isTable (tree : Tree) : Bool := (printValue tree).isNone

/-- The section of a table. A table that holds tables and no values has no header. -/
def tableSection (path : List String) (es : Tree.Entries) : Section where
  header := if !es.isEmpty && es.all (fun e => isTable e.2) then none else some (false, path)
  entries := es

mutual

/-- The sections of the tables in a part of a document. -/
def sections (path : List String) : Tree → List Section
  | .table es => tableSection path es :: sectionsOfEntries path es
  | .tables items => sectionsOfItems path items
  | _ => []

/-- The sections of the tables in the entries of a table. -/
def sectionsOfEntries (path : List String) : List (String × Tree) → List Section
  | [] => []
  | (name, tree) :: es => sections (path ++ [name]) tree ++ sectionsOfEntries path es

/-- The sections of a row of tables. -/
def sectionsOfItems (path : List String) : List (List (String × Tree)) → List Section
  | [] => []
  | es :: items =>
    ⟨some (true, path), es⟩ :: sectionsOfEntries path es ++ sectionsOfItems path items

end

theorem block_tableSection (path : List String) (es : Tree.Entries) :
    (tableSection path es).block = tableBlock path es := by
  rw [Section.block, tableSection, tableBlock]
  by_cases h : (!es.isEmpty && es.all fun e => isTable e.2) = true
  · have h' : (!es.isEmpty && es.all fun e => (printValue e.2).isNone) = true := h
    rw [if_pos h, if_pos h']
    rfl
  · have h' : ¬(!es.isEmpty && es.all fun e => (printValue e.2).isNone) = true := h
    rw [if_neg h, if_neg h']
    rfl

mutual

theorem blocks_eq_map (path : List String) : (tree : Tree) →
    blocks path tree = (sections path tree).map Section.block
  | .table es => by
    rw [blocks, sections, List.map_cons, block_tableSection, blocksOfEntries_eq_map path es]
  | .tables items => by
    rw [blocks, sections, blocksOfItems_eq_map path items]
  | .text _ | .boolean _ | .list _ => by
    rw [blocks, sections, List.map_nil] <;> exact fun _ h => nomatch h

/-- The lines of a document are those of its sections. -/
theorem blocksOfEntries_eq_map (path : List String) : (es : List (String × Tree)) →
    blocksOfEntries path es = (sectionsOfEntries path es).map Section.block
  | [] => by rw [blocksOfEntries, sectionsOfEntries, List.map_nil]
  | (name, tree) :: es => by
    rw [blocksOfEntries, sectionsOfEntries, List.map_append, blocks_eq_map (path ++ [name]) tree,
      blocksOfEntries_eq_map path es]

theorem blocksOfItems_eq_map (path : List String) : (items : List (List (String × Tree))) →
    blocksOfItems path items = (sectionsOfItems path items).map Section.block
  | [] => by rw [blocksOfItems, sectionsOfItems, List.map_nil]
  | es :: items => by
    rw [blocksOfItems, sectionsOfItems, List.map_append, List.map_cons,
      blocksOfEntries_eq_map path es, blocksOfItems_eq_map path items]
    rfl

end

/-! ### Statements -/

/-- The statements of the values among some entries. -/
inductive FollowsPairs : Tree.Entries → List Statement → Prop
  | nil : FollowsPairs [] []
  | value {name : String} {key : Key} (hname : key.name = name) {tree : Tree} {node : Node}
      (h : Agrees tree node) (hvalue : isTable tree = false) (left : Nat) {es : Tree.Entries}
      {sts : List Statement} (hes : FollowsPairs es sts) :
      FollowsPairs ((name, tree) :: es) (.pair [] key node left :: sts)
  | table (name : String) {tree : Tree} (htable : isTable tree = true) {es : Tree.Entries}
      {sts : List Statement} (hes : FollowsPairs es sts) : FollowsPairs ((name, tree) :: es) sts

/-- The statements of some sections. -/
inductive Follows : List Section → List Statement → Prop
  | nil : Follows [] []
  | untitled {es : Tree.Entries} {pairs : List Statement} (hpairs : FollowsPairs es pairs)
      {ss : List Section} {sts : List Statement} (h : Follows ss sts) :
      Follows (⟨none, es⟩ :: ss) (pairs ++ sts)
  | titled (isArray : Bool) (path : List Key) (key : Key) (left : Nat) {es : Tree.Entries}
      {pairs : List Statement} (hpairs : FollowsPairs es pairs) {ss : List Section}
      {sts : List Statement} (h : Follows ss sts) :
      Follows (⟨some (isArray, path.map Key.name ++ [key.name]), es⟩ :: ss)
        (.header isArray path key left :: pairs ++ sts)

/-! ### Lines -/

theorem statements_of_line {cs rest : List Char} {statement? : Option Statement}
    (hskip : skipBlanks cs = cs) (hline : line cs = .found statement? rest)
    (hlt : rest.length < cs.length) :
    statements cs = (statement?.toList ++ (statements rest).1, (statements rest).2) := by
  have hsome : cs ≠ [] := by
    rintro rfl
    exact Nat.not_lt_zero _ hlt
  rw [statements, hskip]
  split
  · contradiction
  · rw [hline]
    simp only [if_pos hlt]

theorem lineEnd_lineFeed (rest : List Char) : lineEnd ('\n' :: rest) = .found () rest := rfl

/-- A blank line says nothing. -/
theorem statements_lineFeed (rest : List Char) :
    statements ('\n' :: rest) = statements rest := by
  have hline : line ('\n' :: rest) = .found none rest := rfl
  exact statements_of_line rfl hline (Nat.lt_succ_self _)

theorem line_of_startsKey {c : Char} (hc : StartsKey c) (cs : List Char) :
    line (c :: cs) = (pairLine (c :: cs)).map some := by
  rw [line]
  · exact fun _ heq => hc.ne (by decide) (by decide) (by decide) (List.cons.inj heq).1
  · exact fun _ heq => hc.ne (by decide) (by decide) (by decide) (List.cons.inj heq).1
  · exact fun _ heq => hc.ne (by decide) (by decide) (by decide) (List.cons.inj heq).1
  · exact fun _ heq => hc.ne (by decide) (by decide) (by decide) (List.cons.inj heq).1
  · exact fun _ heq => hc.ne (by decide) (by decide) (by decide) (List.cons.inj heq).1

theorem printPair_eq {tree : Tree} {v : List Char} (hv : printValue tree = some v)
    (name : String) (rest : List Char) : printPair name tree ++ rest =
      quotedKey name ++ (' ' :: '=' :: ' ' :: (v ++ '\n' :: rest)) := by
  simp [printPair, hv]

/-- The key of a written pair is read back, and then the value behind it. -/
theorem pairLine_printPair (name : String) {tree : Tree} {v : List Char}
    (hv : printValue tree = some v) (rest : List Char) :
    ∃ key node, pairLine (printPair name tree ++ rest) =
        .found (.pair [] key node (printPair name tree ++ rest).length) rest ∧
      key.name = name ∧ Agrees tree node := by
  have hend : EndsKey (' ' :: '=' :: ' ' :: (v ++ '\n' :: rest)) := by
    intro d hd
    cases hd
    decide
  have hdot : (skipBlanks (' ' :: '=' :: ' ' :: (v ++ '\n' :: rest))).head? ≠ some '.' := by
    show some '=' ≠ some '.'
    decide
  obtain ⟨path, key, hkey, hpath, hname⟩ := dottedKey_printPath [] name hend hdot (by decide)
  obtain rfl : path = [] := List.map_eq_nil_iff.1 hpath
  replace hkey : dottedKey (printPair name tree ++ rest) =
      .found ([], key) ('=' :: ' ' :: (v ++ '\n' :: rest)) := by
    rw [printPair_eq hv]
    exact hkey
  have hrest : EndsText ('\n' :: rest) := by
    intro d hd
    cases hd
    decide
  obtain ⟨node, hnode, hagrees⟩ := value_printValue hv hrest
  have hstart : skipBlanks (' ' :: (v ++ '\n' :: rest)) = v ++ '\n' :: rest :=
    skipBlanks_printValue hv _
  refine ⟨key, node, ?_, hname, hagrees⟩
  rw [pairLine, hkey]
  simp only [Step.need, Step.andThen, hstart, hnode, lineEnd_lineFeed, Step.map]

/-- A line with a key and a value is read back as a pair. -/
theorem statements_printPair (name : String) {tree : Tree} (h : isTable tree = false)
    (rest : List Char) :
    ∃ key node left, statements (printPair name tree ++ rest) =
        (.pair [] key node left :: (statements rest).1, (statements rest).2) ∧
      key.name = name ∧ Agrees tree node := by
  obtain ⟨v, hv⟩ : ∃ v, printValue tree = some v := by
    rw [isTable, Option.isNone_eq_false_iff] at h
    exact Option.isSome_iff_exists.1 h
  obtain ⟨key, node, hpair, hname, hagrees⟩ := pairLine_printPair name hv rest
  obtain ⟨c, cs, hs, hc⟩ := quotedKey_eq name
  have hfront : printPair name tree ++ rest =
      c :: (cs ++ (' ' :: '=' :: ' ' :: (v ++ '\n' :: rest))) := by
    rw [printPair_eq hv, hs, List.cons_append]
  have hskip : skipBlanks (printPair name tree ++ rest) = printPair name tree ++ rest := by
    rw [hfront]
    exact skipBlanks_of_not_isBlank hc.isBlank_eq_false _
  have hline : line (printPair name tree ++ rest) =
      .found (some (.pair [] key node (printPair name tree ++ rest).length)) rest := by
    rw [hfront, line_of_startsKey hc, ← hfront, hpair]
    rfl
  refine ⟨key, node, (printPair name tree ++ rest).length, ?_, hname, hagrees⟩
  refine statements_of_line hskip hline ?_
  rw [printPair_eq hv]
  simp only [List.length_append, List.length_cons]
  omega

/-- The lines of some values are read back as pairs. -/
theorem statements_printPairs (es : Tree.Entries) (rest : List Char) :
    ∃ pairs, statements (printPairs es ++ rest) =
        (pairs ++ (statements rest).1, (statements rest).2) ∧ FollowsPairs es pairs := by
  induction es with
  | nil => exact ⟨[], rfl, .nil⟩
  | cons e es ih =>
    obtain ⟨name, tree⟩ := e
    obtain ⟨pairs, hpairs, hfollows⟩ := ih
    have htext : printPairs ((name, tree) :: es) ++ rest =
        printPair name tree ++ (printPairs es ++ rest) := by
      rw [printPairs, List.flatMap_cons, List.append_assoc]
      rfl
    by_cases htable : isTable tree = true
    · have hnone : printPair name tree = [] := by
        rw [isTable, Option.isNone_iff_eq_none] at htable
        rw [printPair, htable]
      refine ⟨pairs, ?_, .table name htable hfollows⟩
      rw [htext, hnone, List.nil_append, hpairs]
    · rw [Bool.not_eq_true] at htable
      obtain ⟨key, node, left, hpair, hname, hagrees⟩ :=
        statements_printPair name htable (printPairs es ++ rest)
      refine ⟨.pair [] key node left :: pairs, ?_, .value hname hagrees htable left hfollows⟩
      rw [htext, hpair, hpairs]
      rfl

/-! ### Headers -/

private theorem headerBody_printPath (isArray : Bool) (left : Nat) (names : List String)
    (name : String) (hlimit : names.length + 1 < keyLimit) (rest : List Char) :
    ∃ path key, headerBody isArray left (printPath (names ++ [name]) ++
          ((if isArray then [']', ']'] else [']']) ++ '\n' :: rest)) =
        .found (.header isArray path key left) rest ∧
      path.map Key.name = names ∧ key.name = name := by
  have hskip : skipBlanks ((if isArray then [']', ']'] else [']']) ++ '\n' :: rest) =
      (if isArray then [']', ']'] else [']']) ++ '\n' :: rest := by
    cases isArray <;> exact skipBlanks_of_not_isBlank (by decide) _
  have hend : EndsKey ((if isArray then [']', ']'] else [']']) ++ '\n' :: rest) := by
    cases isArray
    all_goals
      intro c hc
      cases hc
      decide
  have hdot : (skipBlanks ((if isArray then [']', ']'] else [']']) ++ '\n' :: rest)).head? ≠
      some '.' := by
    rw [hskip]
    cases isArray
    all_goals
      show some ']' ≠ some '.'
      decide
  obtain ⟨path, key, hkey, hpath, hname⟩ := dottedKey_printPath names name hend hdot hlimit
  refine ⟨path, key, ?_, hpath, hname⟩
  rw [hskip] at hkey
  rw [headerBody, hkey]
  cases isArray <;> rfl

/-- The line of a header is read by the number of its brackets. -/
private theorem line_printHeader (isArray : Bool) {path : List String} (hpath : path ≠ [])
    (rest : List Char) :
    line (printHeader isArray path ++ rest) =
      (headerBody isArray (printHeader isArray path ++ rest).length
        (printPath path ++ ((if isArray then [']', ']'] else [']']) ++ rest))).map some := by
  cases isArray
  · obtain ⟨c, cs, hs, hc⟩ := printPath_eq hpath
    have htext : printHeader false path ++ rest = '[' :: c :: (cs ++ ']' :: rest) := by
      simp [printHeader, hs]
    rw [htext, line, hs]
    · simp
    · exact fun _ heq => hc.ne (by decide) (by decide) (by decide) (List.cons.inj heq).1
  · have htext : printHeader true path ++ rest =
        '[' :: '[' :: (printPath path ++ ([']', ']'] ++ rest)) := by
      simp [printHeader]
    rw [htext, line]
    rfl

/-- A header is read back. -/
theorem statements_printHeader (isArray : Bool) (names : List String) (name : String)
    (hlimit : names.length + 1 < keyLimit) (rest : List Char) :
    ∃ path key left, statements (printHeader isArray (names ++ [name]) ++ '\n' :: rest) =
        (.header isArray path key left :: (statements rest).1, (statements rest).2) ∧
      path.map Key.name = names ∧ key.name = name := by
  obtain ⟨path, key, hbody, hpath, hname⟩ := headerBody_printPath isArray
    (printHeader isArray (names ++ [name]) ++ '\n' :: rest).length names name hlimit rest
  refine ⟨path, key, (printHeader isArray (names ++ [name]) ++ '\n' :: rest).length, ?_, hpath,
    hname⟩
  have hskip : skipBlanks (printHeader isArray (names ++ [name]) ++ '\n' :: rest) =
      printHeader isArray (names ++ [name]) ++ '\n' :: rest := by
    cases isArray <;> exact skipBlanks_of_not_isBlank (by decide) _
  have hline := line_printHeader isArray (List.concat_ne_nil name names) ('\n' :: rest)
  rw [hbody] at hline
  refine statements_of_line hskip hline ?_
  cases isArray
  all_goals
    simp only [printHeader, List.length_append, List.length_cons, if_true]
    omega

/-! ### Documents -/

/-- The sections of a document are read back as their statements. -/
theorem statements_printBlocks {ss : List Section}
    (hpaths : ∀ s ∈ ss, ∀ h ∈ s.header, h.2 ≠ [] ∧ h.2.length < keyLimit) (first : Bool) :
    ∃ sts, statements (printBlocks (ss.map Section.block) first) = (sts, none) ∧
      Follows ss sts := by
  induction ss generalizing first with
  | nil =>
    refine ⟨[], ?_, .nil⟩
    rw [List.map_nil, printBlocks, statements]
    rfl
  | cons s ss ih =>
    obtain ⟨header, es⟩ := s
    replace ih := ih fun s hs => hpaths s (List.mem_cons_of_mem _ hs)
    cases header with
    | none =>
      obtain ⟨sts, hsts, hfollows⟩ := ih (first && (printPairs es).isEmpty)
      obtain ⟨pairs, hpairs, hfollows'⟩ := statements_printPairs es
        (printBlocks (ss.map Section.block) (first && (printPairs es).isEmpty))
      refine ⟨pairs ++ sts, ?_, .untitled hfollows' hfollows⟩
      rw [hsts] at hpairs
      exact hpairs
    | some h =>
      obtain ⟨isArray, path⟩ := h
      obtain ⟨hsome, hlimit⟩ := hpaths _ List.mem_cons_self _ rfl
      have hpath : path = path.dropLast ++ [path.getLast hsome] :=
        (List.dropLast_concat_getLast hsome).symm
      generalize path.dropLast = names at hpath
      generalize path.getLast hsome = name at hpath
      subst hpath
      obtain ⟨sts, hsts, hfollows⟩ := ih false
      obtain ⟨pairs, hpairs, hfollows'⟩ :=
        statements_printPairs es (printBlocks (ss.map Section.block) false)
      rw [hsts] at hpairs
      rw [List.length_append, List.length_singleton] at hlimit
      obtain ⟨keys, key, left, hheader, rfl, rfl⟩ := statements_printHeader isArray names name
        hlimit (printPairs es ++ printBlocks (ss.map Section.block) false)
      rw [hpairs] at hheader
      refine ⟨.header isArray keys key left :: pairs ++ sts, ?_,
        .titled isArray keys key left hfollows' hfollows⟩
      have htext : printBlocks ((⟨some (isArray, keys.map Key.name ++ [key.name]), es⟩ ::
          ss : List Section).map Section.block) first =
          (if first then [] else ['\n']) ++
            (printHeader isArray (keys.map Key.name ++ [key.name]) ++
              '\n' :: (printPairs es ++ printBlocks (ss.map Section.block) false)) := by
        simp [printBlocks, Section.block]
      rw [htext]
      cases first
      · exact (statements_lineFeed _).trans hheader
      · exact hheader

end FleetConfig.Toml
