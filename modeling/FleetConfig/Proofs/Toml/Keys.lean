import FleetConfig.Proofs.Toml.Texts
import FleetConfig.Toml.Printer

/-!
# Keys read back

A written key is bare or in quotes on one line; a written path is a row of keys with dots between
them. Both are read back, with the place of each key, which no data depends on.

## Main definitions

* `Toml.StartsKey`, `Toml.EndsKey` — what a key starts with, and what can follow it.

## Main results

* `Toml.simpleKey_quotedKey` — a written key is read back.
* `Toml.dottedKey_printPath` — a written path is read back.
-/

namespace FleetConfig.Toml

/-- A bare character or a quote. -/
def StartsKey (c : Char) : Prop := isBareChar c = true ∨ c = '"' ∨ c = '\''

/-- No character of a bare key stands in front. -/
def EndsKey (cs : List Char) : Prop := ∀ c ∈ cs.head?, isBareChar c = false

/-! ### Single keys -/

theorem StartsKey.ne {c d : Char} (h : StartsKey c) (hbare : isBareChar d = false) (hq : d ≠ '"')
    (hq' : d ≠ '\'') : c ≠ d := by
  rintro rfl
  rcases h with h | h | h
  · rw [h] at hbare
    contradiction
  · exact hq h
  · exact hq' h

theorem StartsKey.isBlank_eq_false {c : Char} (h : StartsKey c) : isBlank c = false := by
  have hspace : c ≠ ' ' := h.ne (by decide) (by decide) (by decide)
  have htab : c ≠ '\t' := h.ne (by decide) (by decide) (by decide)
  simp [isBlank, hspace, htab]

theorem skipBlanks_of_not_isBlank {c : Char} (h : isBlank c = false) (cs : List Char) :
    skipBlanks (c :: cs) = c :: cs := by
  rw [skipBlanks, List.dropWhile_cons_of_neg (by simp [h])]

/-- Reads a name by its first character. -/
private def nameInFront (cs : List Char) : Step (List Char) :=
  match cs with
  | '"' :: _ => basicText cs
  | '\'' :: _ => literalText cs
  | _ => bareKey cs

private theorem nameInFront_bare {cs rest : List Char} (hsome : cs ≠ [])
    (hcs : ∀ c ∈ cs, isBareChar c = true) (hrest : EndsKey rest) :
    nameInFront (cs ++ rest) = .found cs rest := by
  obtain ⟨c, cs', rfl⟩ := List.exists_cons_of_ne_nil hsome
  have hbare : bareKey (c :: cs' ++ rest) = .found (c :: cs') rest := by
    rw [bareKey, Text.takeWhile_run hcs hrest, Text.dropWhile_run hcs hrest]
  have hc : isBareChar c = true := hcs c List.mem_cons_self
  unfold nameInFront
  split
  · cases ‹_ = _›
    exact absurd hc (by decide)
  · cases ‹_ = _›
    exact absurd hc (by decide)
  · exact hbare

private theorem nameInFront_basic (cs rest : List Char) :
    nameInFront (written .basic cs ++ rest) = .found cs rest := by
  have hbody := basicBody_escapedBody cs rest 0
  rw [written, List.cons_append, List.cons_append, List.append_assoc, List.singleton_append]
  exact hbody

private theorem nameInFront_literal {cs : List Char} (h : ∀ c ∈ cs, isLiteralChar c = true)
    (rest : List Char) : nameInFront (written .literal cs ++ rest) = .found cs rest := by
  have hbody := literalText_append h rest
  rw [written, List.append_assoc, List.singleton_append]
  exact hbody

theorem quotedKey_eq (s : String) : ∃ c cs, quotedKey s = c :: cs ∧ StartsKey c := by
  simp only [quotedKey]
  split
  · rename_i h
    cases hs : s.toList with
    | nil => simp [hs] at h
    | cons c cs => exact ⟨c, cs, rfl, .inl (by simp [hs] at h; exact h.1)⟩
  · cases keyStyleOf s.toList
    · exact ⟨'"', _, rfl, .inr (.inl rfl)⟩
    · exact ⟨'\'', _, rfl, .inr (.inr rfl)⟩
    · exact ⟨'"', _, rfl, .inr (.inl rfl)⟩
    · exact ⟨'\'', _, rfl, .inr (.inr rfl)⟩

private theorem nameInFront_quotedKey (s : String) {rest : List Char} (hrest : EndsKey rest) :
    nameInFront (quotedKey s ++ rest) = .found s.toList rest := by
  simp only [quotedKey]
  generalize s.toList = cs
  split
  · rename_i h
    simp only [Bool.and_eq_true, Bool.not_eq_true', List.isEmpty_eq_false_iff,
      List.all_eq_true] at h
    exact nameInFront_bare h.1 h.2 hrest
  · simp only [keyStyleOf]
    split
    · exact nameInFront_basic cs rest
    split
    · exact nameInFront_basic cs rest
    split
    · rename_i h _ hsingle
      refine nameInFront_literal (fun c hc => ?_) rest
      have hplain : needsEscape c = false ∧ c ≠ '\n' := by
        simpa using List.any_eq_false.1 (Bool.eq_false_iff.2 h) c hc
      refine isLiteralChar_of_needsEscape hplain.1 hplain.2 ?_
      rintro rfl
      simp [hc] at hsingle
    · exact nameInFront_basic cs rest

/-- A written key is read back, with the blanks after it. -/
theorem simpleKey_quotedKey (s : String) {rest : List Char} (hrest : EndsKey rest) :
    simpleKey (quotedKey s ++ rest) =
      .found ⟨s, (quotedKey s ++ rest).length⟩ (skipBlanks rest) := by
  obtain ⟨c, cs, hs, hc⟩ := quotedKey_eq s
  have hskip : skipBlanks (quotedKey s ++ rest) = quotedKey s ++ rest := by
    rw [hs]
    exact skipBlanks_of_not_isBlank hc.isBlank_eq_false _
  have hname := nameInFront_quotedKey s hrest
  have hkey : simpleKey (quotedKey s ++ rest) =
      (nameInFront (skipBlanks (quotedKey s ++ rest))).andThen fun name rest' =>
        .found ⟨String.ofList name, (skipBlanks (quotedKey s ++ rest)).length⟩ (skipBlanks rest') :=
    rfl
  rw [hkey, hskip, hname]
  simp only [Step.andThen, String.ofList_toList]

/-! ### Paths -/

/-- The keys of a path behind the first one, each after its dot. -/
private def printRest (names : List String) : List Char := names.flatMap fun n => '.' :: quotedKey n

private theorem printPath_cons (name : String) (names : List String) :
    printPath (name :: names) = quotedKey name ++ printRest names := by
  induction names generalizing name with
  | nil => simp [printPath, printRest]
  | cons n ns ih =>
    rw [printPath, ih n]
    · simp [printRest]
    · exact fun h => nomatch h

/-- A path that is not empty starts as its first key does. -/
theorem printPath_eq {path : List String} (hpath : path ≠ []) :
    ∃ c cs, printPath path = c :: cs ∧ StartsKey c := by
  obtain ⟨name, names, rfl⟩ := List.exists_cons_of_ne_nil hpath
  obtain ⟨c, cs, hs, hc⟩ := quotedKey_eq name
  exact ⟨c, cs ++ printRest names, by rw [printPath_cons, hs, List.cons_append], hc⟩

private theorem endsKey_printRest (names : List String) {rest : List Char} (hrest : EndsKey rest) :
    EndsKey (printRest names ++ rest) := by
  cases names with
  | nil => exact hrest
  | cons n ns =>
    intro c hc
    cases hc
    decide

private theorem keysAfterDots_printRest (names : List String) {rest : List Char}
    (hrest : EndsKey rest) (hdot : (skipBlanks rest).head? ≠ some '.') :
    ∃ ks, keysAfterDots (skipBlanks (printRest names ++ rest)) = .found ks (skipBlanks rest) ∧
      ks.map Key.name = names := by
  induction names with
  | nil =>
    refine ⟨[], ?_, rfl⟩
    rw [printRest, List.flatMap_nil, List.nil_append, keysAfterDots]
    intro tail heq
    rw [heq] at hdot
    exact hdot rfl
  | cons n ns ih =>
    obtain ⟨ks, hks, hnames⟩ := ih
    have htext : printRest (n :: ns) ++ rest = '.' :: (quotedKey n ++ (printRest ns ++ rest)) := by
      simp [printRest]
    have hkey := simpleKey_quotedKey n (endsKey_printRest ns hrest)
    have hshort : (skipBlanks (printRest ns ++ rest)).length ≤
        (quotedKey n ++ (printRest ns ++ rest)).length := by
      have h := (List.dropWhile_sublist (l := printRest ns ++ rest) isBlank).length_le
      have hadd : (quotedKey n ++ (printRest ns ++ rest)).length =
          (quotedKey n).length + (printRest ns ++ rest).length := List.length_append
      exact Nat.le_trans h (hadd ▸ Nat.le_add_left _ _)
    refine ⟨⟨n, (quotedKey n ++ (printRest ns ++ rest)).length⟩ :: ks, ?_, by simp [hnames]⟩
    rw [htext, skipBlanks_of_not_isBlank (by decide), keysAfterDots]
    simp only [hkey, if_pos hshort, hks, Step.map]

/-- A written path is read back as its keys, with the blanks after it. -/
theorem dottedKey_printPath (names : List String) (name : String) {rest : List Char}
    (hrest : EndsKey rest) (hdot : (skipBlanks rest).head? ≠ some '.')
    (hlimit : names.length + 1 < keyLimit) :
    ∃ path key, dottedKey (printPath (names ++ [name]) ++ rest) =
        .found (path, key) (skipBlanks rest) ∧
      path.map Key.name = names ∧ key.name = name := by
  obtain ⟨n, ns, hn⟩ := List.exists_cons_of_ne_nil (List.concat_ne_nil name names)
  obtain ⟨ks, hks, hnames⟩ := keysAfterDots_printRest ns hrest hdot
  have hkey := simpleKey_quotedKey n (endsKey_printRest ns hrest)
  generalize (quotedKey n ++ (printRest ns ++ rest)).length = left at hkey
  have hmap : ((⟨n, left⟩ : Key) :: ks).map Key.name = names ++ [name] := by
    rw [List.map_cons, hnames, hn]
  have hlength : ¬keyLimit ≤ ((⟨n, left⟩ : Key) :: ks).length := by
    have h := congrArg List.length hmap
    rw [List.length_map, List.length_append, List.length_singleton] at h
    omega
  have hlast : (ks.getLastD ⟨n, left⟩).name = name := by
    have h := congrArg (·.getLast?) hmap
    simp only [List.getLast?_map, List.getLast?_cons, List.getLast?_append, Option.map_some,
      Option.some_or, Option.some.injEq] at h
    simpa [List.getLastD_eq_getLast?] using h
  refine ⟨((⟨n, left⟩ : Key) :: ks).dropLast, ks.getLastD ⟨n, left⟩, ?_, ?_, hlast⟩
  · rw [hn, printPath_cons, List.append_assoc, dottedKey, hkey]
    simp only [Step.andThen, hks, if_neg hlength]
  · rw [List.map_dropLast, hmap, List.dropLast_concat]

end FleetConfig.Toml
