import FleetConfig.Proofs.Toml.Agreement
import FleetConfig.Proofs.Toml.Keys

/-!
# Values read back

A written value is a text, a truth value or a list of texts. A list of two or more texts has a line
for each, with a comma behind each, and the reader steps over the line ends and blanks between them.

## Main results

* `Toml.value_printValue` — a written value is read back as a node that agrees with it.
-/

namespace FleetConfig.Toml

/-! ### Trivia -/

/-- What trivia leave is said by what follows the blanks in front. -/
private theorem trivia_eq_match (cs : List Char) :
    trivia cs =
      match skipBlanks cs with
      | [] => .found () []
      | c :: rest =>
        if c = '#' || c = '\n' || c = '\r' then
          match newline? (skipComment (c :: rest)) with
          | some rest' => trivia rest'
          | none => .wrong ⟨(skipComment (c :: rest)).length⟩
        else .found () (c :: rest) := by
  rw [trivia]
  split
  · rename_i h
    simp only [h]
  · rename_i c rest h
    simp only [h]
    cases hmark : c = '#' || c = '\n' || c = '\r'
    · rfl
    · simp only [if_true]
      split
      · rename_i h'
        simp only [h']
      · rename_i h'
        simp only [h']

theorem trivia_blank {c : Char} (h : isBlank c = true) (cs : List Char) :
    trivia (c :: cs) = trivia cs := by
  rw [trivia_eq_match, trivia_eq_match cs, skipBlanks, List.dropWhile_cons_of_pos h]
  rfl

theorem trivia_lineFeed (cs : List Char) : trivia ('\n' :: cs) = trivia cs := by
  rw [trivia_eq_match, skipBlanks_of_not_isBlank (by decide)]
  rfl

/-- Nothing is skipped in front of a character that starts no trivia. -/
theorem trivia_of_visible {c : Char} (h : isBlank c = false) (hc : c ≠ '#' ∧ c ≠ '\n' ∧ c ≠ '\r')
    (cs : List Char) : trivia (c :: cs) = .found () (c :: cs) := by
  rw [trivia_eq_match, skipBlanks_of_not_isBlank h]
  simp [hc]

/-! ### Texts and truth values -/

theorem quoted_eq (s : String) : ∃ c cs, quoted s = c :: cs ∧ (c = '"' ∨ c = '\'') := by
  rw [quoted]
  cases styleOf s.toList
  · exact ⟨'"', _, rfl, .inl rfl⟩
  · exact ⟨'\'', _, rfl, .inr rfl⟩
  · exact ⟨'"', _, rfl, .inl rfl⟩
  · exact ⟨'\'', _, rfl, .inr rfl⟩

/-- A value that opens no bracket is a scalar, however deep it stands. -/
theorem value_scalar {c : Char} (hc : c ≠ '[' ∧ c ≠ '\x7b') (depth : Nat) (cs : List Char) :
    value depth (c :: cs) = (scalar (c :: cs)).map (.scalar · (c :: cs).length) := by
  cases depth
  all_goals
    rw [value]
    · exact fun _ heq => hc.1 (List.cons.inj heq).1
    · exact fun _ heq => hc.2 (List.cons.inj heq).1

theorem value_quoted (depth : Nat) (s : String) {rest : List Char} (hrest : EndsText rest) :
    value depth (quoted s ++ rest) =
      .found (.scalar (.text s) (quoted s ++ rest).length) rest := by
  obtain ⟨c, cs, hs, hc⟩ := quoted_eq s
  have hplain : c ≠ '[' ∧ c ≠ '\x7b' := by rcases hc with rfl | rfl <;> decide
  have htext := text_quoted s hrest
  rw [hs, List.cons_append] at htext ⊢
  have hscalar : scalar (c :: (cs ++ rest)) = .found (.text s) rest := by
    rw [scalar, if_pos (by simpa using hc), htext, Step.map, String.ofList_toList]
  rw [value_scalar hplain, hscalar]
  rfl

theorem value_word (depth : Nat) (b : Bool) (rest : List Char) :
    ∃ left, value depth ((if b then "true".toList else "false".toList) ++ rest) =
      .found (.scalar (.boolean b) left) rest := by
  cases b
  · exact ⟨_, value_scalar (c := 'f') (by decide) depth _⟩
  · exact ⟨_, value_scalar (c := 't') (by decide) depth _⟩

/-! ### Lists -/

theorem number?_bracket (rest : List Char) : number? (']' :: rest) = none := by
  have hdigits : ∀ n, fixedDigits? (n + 1) (']' :: rest) = none := fun n => by
    rw [fixedDigits?, List.take_succ_cons, List.all_cons]
    simp
  have hfield : ∀ low high, field? low high (']' :: rest) = none := fun low high => by
    rw [field?, hdigits 1]
    rfl
  have hdate : date? (']' :: rest) = none := by
    rw [date?, hdigits 3]
    rfl
  have hmoment : moment? (']' :: rest) = none := by
    rw [moment?, dateTime?, time?, hdate, hfield]
    rfl
  rw [number?, hmoment]
  rfl

/-- Neither a value nor an item starts with a closing bracket. -/
theorem value_bracket (depth : Nat) (rest : List Char) : value depth (']' :: rest) = .absent := by
  have hscalar : scalar (']' :: rest) = .absent := by
    rw [scalar, if_neg (by decide), if_neg (by decide), if_neg (by decide), number?_bracket]
    rfl
  rw [value_scalar (by decide), hscalar]
  rfl

theorem arrayItem_bracket (depth : Nat) {cs rest : List Char}
    (h : trivia cs = .found () (']' :: rest)) : arrayItem (value depth) cs = .absent := by
  rw [arrayItem, h]
  simp only [Step.orAbsent, Step.andThen, value_bracket]

/-- A text is an item; what precedes it are trivia, and what follows it starts none. -/
theorem arrayItem_quoted (depth : Nat) (s : String) {cs rest : List Char} {c : Char}
    (h : trivia cs = trivia (quoted s ++ c :: rest)) (hend : EndsText (c :: rest))
    (hc : isBlank c = false ∧ c ≠ '#' ∧ c ≠ '\n' ∧ c ≠ '\r') :
    ∃ left, arrayItem (value depth) cs = .found (.scalar (.text s) left) (c :: rest) := by
  obtain ⟨q, qs, hs, hq⟩ := quoted_eq s
  have hvisible : trivia (quoted s ++ c :: rest) = .found () (quoted s ++ c :: rest) := by
    rw [hs, List.cons_append]
    rcases hq with rfl | rfl <;> exact trivia_of_visible (by decide) (by decide) _
  refine ⟨(quoted s ++ c :: rest).length, ?_⟩
  rw [arrayItem, h, hvisible]
  simp only [Step.orAbsent, Step.andThen, value_quoted depth s hend,
    trivia_of_visible hc.1 hc.2 rest, Step.map]

/-- A text on a line of its own, with the comma behind it. -/
private def itemLine (s : String) : List Char := '\n' :: "    ".toList ++ quoted s ++ [',']

private theorem printList_long (s t : String) (ss : List String) :
    printList (s :: t :: ss) =
      '[' :: (s :: t :: ss).flatMap itemLine ++ ['\n', ']'] := by
  have hshift : ∀ items : List String,
      '\n' :: items.flatMap (fun s => "    ".toList ++ quoted s ++ [',', '\n']) =
        items.flatMap itemLine ++ ['\n'] := by
    intro items
    induction items with
    | nil => rfl
    | cons i is ih =>
      rw [List.flatMap_cons, List.flatMap_cons, List.append_assoc (itemLine i), ← ih]
      simp [itemLine]
  rw [printList, hshift]
  · simp
  · exact fun h => nomatch h
  · exact fun _ h => nomatch h

private theorem trivia_itemLine (s : String) (rest : List Char) :
    trivia (itemLine s ++ rest) = trivia (quoted s ++ ',' :: rest) := by
  have htext : itemLine s ++ rest =
      '\n' :: ' ' :: ' ' :: ' ' :: ' ' :: (quoted s ++ ',' :: rest) := by
    simp [itemLine]
  rw [htext, trivia_lineFeed]
  repeat rw [trivia_blank (by decide)]

private theorem arrayItem_itemLine (depth : Nat) (s : String) (rest : List Char) :
    ∃ left, arrayItem (value depth) (itemLine s ++ rest) =
      .found (.scalar (.text s) left) (',' :: rest) := by
  have hend : EndsText (',' :: rest) := by
    intro c hc
    cases hc
    decide
  exact arrayItem_quoted depth s (trivia_itemLine s rest) hend (by decide)

private theorem trivia_listEnd (rest : List Char) :
    trivia ('\n' :: ']' :: rest) = .found () (']' :: rest) := by
  rw [trivia_lineFeed, trivia_of_visible (by decide) (by decide)]

private theorem itemsAfterCommas_itemLines (depth : Nat) (items : List String)
    (rest : List Char) :
    ∃ nodes, itemsAfterCommas (value depth)
        (',' :: (items.flatMap itemLine ++ '\n' :: ']' :: rest)) =
      .found nodes (',' :: '\n' :: ']' :: rest) ∧ AgreesTexts items nodes := by
  induction items with
  | nil =>
    refine ⟨[], ?_, .nil⟩
    rw [itemsAfterCommas, List.flatMap_nil, List.nil_append,
      arrayItem_bracket depth (trivia_listEnd rest)]
  | cons s items ih =>
    obtain ⟨nodes, hnodes, hagrees⟩ := ih
    obtain ⟨left, hitem⟩ := arrayItem_itemLine depth s
      (items.flatMap itemLine ++ '\n' :: ']' :: rest)
    have hshort : (',' :: (items.flatMap itemLine ++ '\n' :: ']' :: rest)).length ≤
        (itemLine s ++ (items.flatMap itemLine ++ '\n' :: ']' :: rest)).length := by
      simp only [itemLine, List.length_append, List.length_cons, List.length_nil]
      omega
    refine ⟨.scalar (.text s) left :: nodes, ?_, .cons s left hagrees⟩
    rw [List.flatMap_cons, List.append_assoc, itemsAfterCommas, hitem]
    simp only [if_pos hshort, hnodes, Step.map]

/-- A comma behind the last item of an array is stepped over. -/
theorem arrayItems_of_item {reader : Reader} {cs rest rest' : List Char} {node : Node}
    {nodes : List Node} (hitem : arrayItem reader cs = .found node rest)
    (hmore : itemsAfterCommas reader rest = .found nodes rest') :
    arrayItems reader cs = .found (node :: nodes) (skipComma rest') := by
  rw [arrayItems, hitem]
  simp only [hmore, Step.andThen]

/-- Behind the items of an array only its closing bracket is left. -/
theorem arrayBody_of_items {reader : Reader} {cs rest rest' : List Char} {nodes : List Node}
    (hitems : arrayItems reader cs = .found nodes rest)
    (hclose : trivia rest = .found () (']' :: rest')) (left : Nat) :
    arrayBody reader left cs = .found (.array nodes left) rest' := by
  rw [arrayBody, hitems]
  simp only [Step.andThen, hclose]

theorem value_printList (depth : Nat) (items : List String) (rest : List Char) :
    ∃ nodes left, value (depth + 1) (printList items ++ rest) =
      .found (.array nodes left) rest ∧ AgreesTexts items nodes := by
  have hclose : trivia (']' :: rest) = .found () (']' :: rest) :=
    trivia_of_visible (by decide) (by decide) rest
  rcases items with _ | ⟨s, _ | ⟨t, ss⟩⟩
  · have hitems : arrayItems (value depth) (']' :: rest) = .found [] (']' :: rest) := by
      rw [arrayItems, arrayItem_bracket depth hclose]
    exact ⟨[], _, arrayBody_of_items hitems hclose _, .nil⟩
  · have hend : EndsText (']' :: rest) := by
      intro c hc
      cases hc
      decide
    obtain ⟨left, hitem⟩ := arrayItem_quoted depth s rfl hend (by decide)
    have hmore : itemsAfterCommas (value depth) (']' :: rest) = .found [] (']' :: rest) := by
      rw [itemsAfterCommas]
      intro _ h
      cases h
    have htext : printList [s] ++ rest = '[' :: (quoted s ++ ']' :: rest) := by simp [printList]
    rw [htext]
    exact ⟨_, _, arrayBody_of_items (arrayItems_of_item hitem hmore) hclose _,
      .cons s left .nil⟩
  · obtain ⟨left, hitem⟩ := arrayItem_itemLine depth s
      ((t :: ss).flatMap itemLine ++ '\n' :: ']' :: rest)
    obtain ⟨nodes, hnodes, hagrees⟩ := itemsAfterCommas_itemLines depth (t :: ss) rest
    have htext : printList (s :: t :: ss) ++ rest =
        '[' :: (itemLine s ++ ((t :: ss).flatMap itemLine ++ '\n' :: ']' :: rest)) := by
      rw [printList_long]
      simp
    rw [htext]
    exact ⟨_, _, arrayBody_of_items (arrayItems_of_item hitem hnodes) (trivia_listEnd rest) _,
      .cons s left hagrees⟩

/-! ### Values -/

/-- A written value is read back as a node that agrees with it. -/
theorem value_printValue {tree : Tree} {cs : List Char} (h : printValue tree = some cs)
    {rest : List Char} (hrest : EndsText rest) :
    ∃ node, value depthLimit (cs ++ rest) = .found node rest ∧ Agrees tree node := by
  cases tree with
  | text s =>
    cases h
    exact ⟨_, value_quoted depthLimit s hrest, .text s _⟩
  | boolean b =>
    obtain ⟨left, hvalue⟩ := value_word depthLimit b rest
    refine ⟨_, ?_, .boolean b left⟩
    cases b <;> cases h <;> exact hvalue
  | list items =>
    cases h
    obtain ⟨nodes, left, hvalue, hagrees⟩ := value_printList 78 items rest
    exact ⟨_, hvalue, .list left hagrees⟩
  | table es => cases h
  | tables items => cases h

/-- A written value starts with no blank. -/
theorem skipBlanks_printValue {tree : Tree} {cs : List Char} (h : printValue tree = some cs)
    (rest : List Char) : skipBlanks (cs ++ rest) = cs ++ rest := by
  cases tree with
  | text s =>
    cases h
    obtain ⟨c, cs, hs, hc⟩ := quoted_eq s
    rw [hs, List.cons_append]
    rcases hc with rfl | rfl <;> exact skipBlanks_of_not_isBlank (by decide) _
  | boolean b => cases b <;> cases h <;> rfl
  | list items =>
    cases h
    match items with
    | [] => rfl
    | [s] => rfl
    | s :: t :: ss => rfl
  | table es => cases h
  | tables items => cases h

end FleetConfig.Toml
