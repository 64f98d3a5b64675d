import FleetConfig.Proofs.Text.Cutting
import FleetConfig.Toml.Quoted

/-!
# Texts read back

A text is written in one of four styles, and each of them is read back. In double quotes every
character is written as itself or as an escape of itself; quotes of a text on several lines may
stand in twos, and the reader counts them together with the three that close the text.

## Main definitions

* `Toml.EndsText` — what can follow a text without becoming part of it.

## Main results

* `Toml.text_quoted` — a written text is read back, and what follows it is left.
* `Toml.basicBody_escapedBody`, `Toml.literalText_append` — the same for the styles on one line.
-/

namespace FleetConfig.Toml

/-- No quote stands in front. -/
def EndsText (cs : List Char) : Prop := ∀ c ∈ cs.head?, c ≠ '"' ∧ c ≠ '\''

/-! ### Characters -/

theorem isCommentChar_of_needsEscape {c : Char} (h : needsEscape c = false) (hn : c ≠ '\n') :
    isCommentChar c = true := by
  by_cases ht : c = '\t'
  · rw [isCommentChar, ht]
    rfl
  · simp only [needsEscape, Bool.and_eq_false_iff, bne_eq_false_iff_eq, ht, hn, false_or,
      Bool.or_eq_false_iff, decide_eq_false_iff_not, beq_eq_false_iff_ne] at h
    simp only [isCommentChar, Bool.or_eq_true, Bool.and_eq_true, decide_eq_true_eq, bne_iff_ne]
    exact .inr ⟨by omega, h.2⟩

/-- The number of a control character is read back from its two digits. -/
private theorem charOfDigits?_numericEscape : ∀ n < 128,
    charOfDigits? ['0', '0', Number.upperDigit (n / 16), Number.upperDigit (n % 16)] =
      some (Char.ofNat n) := by
  decide

private theorem escape_numericEscape {c : Char} (h : needsEscape c = true) (rest : List Char) :
    escape ('u' :: '0' :: '0' :: Number.upperDigit (c.toNat / 16) ::
      Number.upperDigit (c.toNat % 16) :: rest) = .found c rest := by
  have hlt : c.toNat < 128 := by
    simp only [needsEscape, Bool.and_eq_true, Bool.or_eq_true, decide_eq_true_eq, beq_iff_eq] at h
    omega
  have hcode := charOfDigits?_numericEscape c.toNat hlt
  rw [Char.ofNat_toNat] at hcode
  simp [escape, shortEscape?, charCode, hcode]

/-- What follows the backslash of an escape: the escape of a character, and no line end. -/
private structure IsEscape (c : Char) (e : Char) (es : List Char) : Prop where
  reads : ∀ rest, escape (e :: es ++ rest) = .found c rest
  visible : isBlank e = false ∧ e ≠ '\n' ∧ e ≠ '\r'

private theorem isEscape_short {c e : Char} (h : shortEscape? e = some c)
    (he : isBlank e = false ∧ e ≠ '\n' ∧ e ≠ '\r') : IsEscape c e [] where
  reads rest := by simp [escape, h]
  visible := he

/-- A character in double quotes is written as itself or as an escape, or it is a line feed of a
text on several lines. -/
private theorem escaped_cases (keepLines : Bool) {c : Char} (hq : c ≠ '"') :
    (escaped keepLines c = [c] ∧ isBasicChar c = true) ∨
      (∃ e es, escaped keepLines c = '\\' :: e :: es ∧ IsEscape c e es) ∨
      (keepLines = true ∧ c = '\n' ∧ escaped keepLines c = ['\n']) := by
  unfold escaped
  split
  · subst c
    exact .inr (.inl ⟨'b', [], rfl, isEscape_short rfl (by decide)⟩)
  split
  · subst c
    exact .inr (.inl ⟨'t', [], rfl, isEscape_short rfl (by decide)⟩)
  split
  · subst c
    cases keepLines
    · exact .inr (.inl ⟨'n', [], rfl, isEscape_short rfl (by decide)⟩)
    · exact .inr (.inr ⟨rfl, rfl, rfl⟩)
  split
  · subst c
    exact .inr (.inl ⟨'f', [], rfl, isEscape_short rfl (by decide)⟩)
  split
  · subst c
    exact .inr (.inl ⟨'r', [], rfl, isEscape_short rfl (by decide)⟩)
  split
  · subst c
    exact .inr (.inl ⟨'\\', [], rfl, isEscape_short rfl (by decide)⟩)
  split
  · rename_i h
    exact .inr (.inl ⟨'u', _, rfl, fun rest => escape_numericEscape h rest, by decide⟩)
  · rename_i hn _ _ hb h
    refine .inl ⟨rfl, ?_⟩
    have hcomment := isCommentChar_of_needsEscape (by simpa using h) hn
    simp only [isBasicChar, hcomment, Bool.true_and, Bool.and_eq_true, bne_iff_ne]
    exact ⟨hq, hb⟩

/-! ### One line -/

theorem basicBody_quote (rest : List Char) : basicBody ('"' :: rest) = .found [] rest := by
  rw [basicBody]

theorem basicBody_escape {cs rest : List Char} {c : Char} (h : escape cs = .found c rest) :
    basicBody ('\\' :: cs) = (basicBody rest).map (c :: ·) := by
  rw [basicBody]
  split
  · rename_i heq
    rw [h] at heq
    cases heq
    rfl
  all_goals
    rename_i heq
    rw [h] at heq
    cases heq

theorem basicBody_plain {c : Char} (h : isBasicChar c = true) (cs : List Char) :
    basicBody (c :: cs) = (basicBody cs).map (c :: ·) := by
  have hq : c ≠ '"' ∧ c ≠ '\\' := by
    simp only [isBasicChar, Bool.and_eq_true, bne_iff_ne] at h
    exact ⟨h.1.2, h.2⟩
  rw [basicBody, if_pos h]
  · exact hq.1
  · exact hq.2

theorem escape_quote (rest : List Char) : escape ('"' :: rest) = .found '"' rest := rfl

/-- A text in double quotes on one line is read back. -/
theorem basicBody_escapedBody (cs rest : List Char) (run : Nat) :
    basicBody (escapedBody false 0 cs run ++ '"' :: rest) = .found cs rest := by
  induction cs generalizing run with
  | nil => exact basicBody_quote rest
  | cons c cs ih =>
    by_cases hq : c = '"'
    · rw [escapedBody, if_pos hq, if_neg (Nat.not_lt_zero run), hq]
      exact (basicBody_escape (escape_quote _)).trans (congrArg (Step.map _) (ih 0))
    · rw [escapedBody, if_neg hq, List.append_assoc]
      rcases escaped_cases false hq with ⟨h, hplain⟩ | ⟨e, es, h, hesc⟩ | ⟨h, -⟩
      · rw [h, List.singleton_append, basicBody_plain hplain, ih 0]
        rfl
      · rw [h, List.cons_append, basicBody_escape (hesc.reads _), ih 0]
        rfl
      · contradiction

/-- A text in single quotes is read back. -/
theorem literalText_append {cs : List Char} (h : ∀ c ∈ cs, isLiteralChar c = true)
    (rest : List Char) : literalText ('\'' :: cs ++ '\'' :: rest) = .found cs rest := by
  have hstop : ∀ c ∈ ('\'' :: rest).head?, isLiteralChar c = false := by
    rintro c ⟨⟩
    decide
  rw [List.cons_append, literalText]
  simp only [Text.takeWhile_run h hstop, Text.dropWhile_run h hstop]

/-! ### Several lines -/

theorem newline?_of_ne {c : Char} (hn : c ≠ '\n') (hr : c ≠ '\r') (cs : List Char) :
    newline? (c :: cs) = none := by
  unfold newline?
  split
  · exact absurd (List.cons.inj ‹_›).1 hn
  · exact absurd (List.cons.inj ‹_›).1 hr
  · rfl

/-- What a text on several lines in double quotes holds of one character is one piece of it. -/
private theorem contentPiece_escaped {c : Char} (hq : c ≠ '"') (rest : List Char) :
    contentPiece '"' (escaped true c ++ rest) = .found [c] rest := by
  rcases escaped_cases true hq with ⟨h, hplain⟩ | ⟨e, es, h, hesc⟩ | ⟨-, hc, h⟩
  · have hcomment : isCommentChar c = true ∧ c ≠ '\\' := by
      simp only [isBasicChar, Bool.and_eq_true, bne_iff_ne] at hplain
      exact ⟨hplain.1.1, hplain.2⟩
    simp [h, contentPiece, hq, hcomment]
  · obtain ⟨hblank, hn, hr⟩ := hesc.visible
    have hskip : skipBlanks (e :: es ++ rest) = e :: es ++ rest := by
      simp [skipBlanks, hblank]
    have hline : escapedNewline? (e :: es ++ rest) = none := by
      rw [escapedNewline?, hskip, List.cons_append, newline?_of_ne hn hr]
      rfl
    rw [List.cons_append] at hline
    have hreads := hesc.reads rest
    rw [List.cons_append] at hreads
    simp [h, contentPiece, hline, hreads, Step.map]
  · subst c
    rw [h]
    rfl

theorem quotesInFront_replicate {q : Char} {n : Nat} (hn : n ≤ 5) {cs : List Char}
    (h : ∀ c ∈ cs.head?, c ≠ q) : quotesInFront q (List.replicate n q ++ cs) = n := by
  have htake : (List.replicate n q ++ cs).take 5 = List.replicate n q ++ cs.take (5 - n) := by
    rw [List.take_append, List.length_replicate, List.take_of_length_le (by simpa using hn)]
  have hstop : ∀ c ∈ (cs.take (5 - n)).head?, (c == q) = false := by
    intro c hc
    rw [List.head?_take] at hc
    split at hc
    · cases hc
    · exact beq_eq_false_iff_ne.2 (h c hc)
  rw [quotesInFront, htake, Text.takeWhile_run (by simp) hstop, List.length_replicate]

theorem contentPiece_quote (q : Char) (cs : List Char) : contentPiece q (q :: cs) = .absent := by
  simp [contentPiece]

theorem longBody_of_piece {q : Char} {cs rest piece : List Char}
    (h : contentPiece q cs = .found piece rest) :
    longBody q cs = (longBody q rest).map (piece ++ ·) := by
  rw [longBody]
  split
  · rename_i heq
    rw [h] at heq
    cases heq
    rfl
  all_goals
    rename_i heq
    rw [h] at heq
    cases heq

/-- Up to two quotes and the three that close the text. -/
theorem longBody_close {q : Char} {run : Nat} (hrun : run ≤ 2) {rest : List Char}
    (h : ∀ c ∈ rest.head?, c ≠ q) :
    longBody q (List.replicate run q ++ (tripled q ++ rest)) =
      .found (List.replicate run q) rest := by
  have hquotes : List.replicate run q ++ (tripled q ++ rest) =
      List.replicate (run + 3) q ++ rest := by
    rw [← List.replicate_append_replicate, List.append_assoc]
    rfl
  have hcount := quotesInFront_replicate (n := run + 3) (by omega) h
  have hpiece : contentPiece q (List.replicate (run + 3) q ++ rest) = .absent :=
    contentPiece_quote q _
  rw [hquotes, longBody]
  split
  · rename_i heq
    rw [hpiece] at heq
    cases heq
  · rename_i heq
    rw [hpiece] at heq
    cases heq
  · simp [hcount]

/-- One or two quotes that do not close the text, and the piece after them. -/
theorem longBody_quotes {q : Char} {run : Nat} (hrun : run ≤ 2) {cs rest piece : List Char}
    (hhead : ∀ c ∈ cs.head?, c ≠ q) (h : contentPiece q cs = .found piece rest) :
    longBody q (List.replicate run q ++ cs) =
      (longBody q rest).map (List.replicate run q ++ piece ++ ·) := by
  cases run with
  | zero => exact longBody_of_piece h
  | succ n =>
    have hcount := quotesInFront_replicate (n := n + 1) (by omega) hhead
    have hpiece : contentPiece q (List.replicate (n + 1) q ++ cs) = .absent :=
      contentPiece_quote q _
    have hdrop : (List.replicate (n + 1) q ++ cs).drop (n + 1) = cs := by simp
    rw [longBody]
    split
    · rename_i heq
      rw [hpiece] at heq
      cases heq
    · rename_i heq
      rw [hpiece] at heq
      cases heq
    · simp only [hcount, if_neg (show ¬3 ≤ n + 1 by omega), if_neg (Nat.succ_ne_zero n)]
      split
      all_goals
        rename_i heq
        rw [hcount, hdrop, h] at heq
        cases heq
      rfl

/-- A text on several lines in double quotes is read back; `run` quotes stand before it. -/
theorem longBody_escapedBody {rest : List Char} (hrest : ∀ c ∈ rest.head?, c ≠ '"')
    (cs : List Char) (run : Nat) (hrun : run ≤ 2) :
    longBody '"' (List.replicate run '"' ++ (escapedBody true 2 cs run ++ (tripled '"' ++ rest))) =
      .found (List.replicate run '"' ++ cs) rest := by
  induction cs generalizing run with
  | nil =>
    rw [escapedBody, List.nil_append, List.append_nil]
    exact longBody_close hrun hrest
  | cons c cs ih =>
    by_cases hq : c = '"'
    · subst c
      by_cases hroom : run < 2
      · have hih := ih (run + 1) hroom
        rw [List.replicate_succ', List.append_assoc, List.append_assoc] at hih
        rw [escapedBody, if_pos rfl, if_pos hroom]
        exact hih
      · have hpiece : contentPiece '"' ('\\' :: '"' :: (escapedBody true 2 cs 0 ++
            (tripled '"' ++ rest))) =
              .found ['"'] (escapedBody true 2 cs 0 ++ (tripled '"' ++ rest)) :=
          rfl
        have hih := ih 0 (by decide)
        rw [List.replicate_zero, List.nil_append, List.nil_append] at hih
        rw [escapedBody, if_pos rfl, if_neg hroom]
        refine (longBody_quotes hrun (by simp) hpiece).trans ?_
        rw [hih, Step.map, List.append_assoc]
        rfl
    · have hih := ih 0 (by decide)
      rw [List.replicate_zero, List.nil_append, List.nil_append] at hih
      have hpiece := contentPiece_escaped hq (escapedBody true 2 cs 0 ++ (tripled '"' ++ rest))
      have hhead : ∀ x ∈ (escaped true c ++ (escapedBody true 2 cs 0 ++
          (tripled '"' ++ rest))).head?, x ≠ '"' := by
        rintro x hx rfl
        cases he : escaped true c ++ (escapedBody true 2 cs 0 ++ (tripled '"' ++ rest)) with
        | nil =>
          rw [he] at hx
          contradiction
        | cons y ys =>
          rw [he, List.head?_cons, Option.mem_some_iff] at hx
          rw [he, hx, contentPiece_quote] at hpiece
          contradiction
      rw [escapedBody, if_neg hq, List.append_assoc]
      refine (longBody_quotes hrun hhead hpiece).trans ?_
      rw [hih, Step.map, List.append_assoc]
      rfl

theorem le_longestRun (q : Char) (cs : List Char) (n : Nat) : n ≤ longestRun q cs n := by
  induction cs generalizing n with
  | nil => exact Nat.le_refl n
  | cons c cs ih =>
    rw [longestRun]
    split
    · exact Nat.le_of_succ_le (ih (n + 1))
    · exact Nat.le_max_left n _

/-- A text on several lines in single quotes is read back; `run` quotes stand before it. -/
theorem longBody_literal {rest : List Char} (hrest : ∀ c ∈ rest.head?, c ≠ '\'')
    {cs : List Char} (hplain : ∀ c ∈ cs, needsEscape c = false) (run : Nat)
    (hrun : longestRun '\'' cs run ≤ 2) :
    longBody '\'' (List.replicate run '\'' ++ (cs ++ (tripled '\'' ++ rest))) =
      .found (List.replicate run '\'' ++ cs) rest := by
  induction cs generalizing run with
  | nil =>
    rw [List.nil_append, List.append_nil]
    exact longBody_close hrun hrest
  | cons c cs ih =>
    have hcs : ∀ x ∈ cs, needsEscape x = false := fun x hx => hplain x (List.mem_cons_of_mem c hx)
    rw [longestRun] at hrun
    by_cases hq : c = '\''
    · subst c
      rw [if_pos rfl] at hrun
      have hih := ih hcs (run + 1) hrun
      rw [List.replicate_succ', List.append_assoc, List.append_assoc] at hih
      exact hih
    · rw [if_neg hq] at hrun
      have hih := ih hcs 0 (Nat.le_trans (Nat.le_max_right _ _) hrun)
      rw [List.replicate_zero, List.nil_append, List.nil_append] at hih
      have hpiece : contentPiece '\'' (c :: (cs ++ (tripled '\'' ++ rest))) =
          .found [c] (cs ++ (tripled '\'' ++ rest)) := by
        by_cases hn : c = '\n'
        · rw [hn]
          rfl
        · simp [contentPiece, hq, isCommentChar_of_needsEscape (hplain c List.mem_cons_self) hn]
      refine (longBody_quotes (Nat.le_trans (Nat.le_max_left _ _) hrun) (by simpa using hq)
        hpiece).trans ?_
      rw [hih, Step.map, List.append_assoc]
      rfl

/-! ### Styles -/

theorem skipNewline_of_head {cs : List Char} (h : ∀ c ∈ cs.head?, c ≠ '\n' ∧ c ≠ '\r') :
    skipNewline cs = cs := by
  cases cs with
  | nil => rfl
  | cons c cs =>
    obtain ⟨hn, hr⟩ := h c rfl
    rw [skipNewline, newline?_of_ne hn hr]
    rfl

/-- A text between three quotes is read back if its body is. Without a line feed in the text, the
body must not start with a line end, which would not count. -/
private theorem text_long {q : Char} (hq : q = '"' ∨ q = '\'') {cs body rest : List Char}
    (hbody : longBody q (body ++ (tripled q ++ rest)) = .found cs rest)
    (hhead : '\n' ∉ cs → ∀ c ∈ (body ++ (tripled q ++ rest)).head?, c ≠ '\n' ∧ c ≠ '\r') :
    text (long q cs body ++ rest) = .found cs rest := by
  have hopen : ∀ x, text (tripled q ++ x) = longBody q (skipNewline x) := by
    rcases hq with rfl | rfl <;> exact fun x => rfl
  rw [long, List.append_assoc, List.append_assoc, List.append_assoc, hopen]
  by_cases hn : '\n' ∈ cs
  · rw [if_pos (by simpa using hn), ← hbody]
    rfl
  · rw [if_neg (by simpa using hn), List.nil_append, skipNewline_of_head (hhead hn), hbody]

private theorem text_basic (cs : List Char) {rest : List Char} (hrest : EndsText rest) :
    text (written .basic cs ++ rest) = .found cs rest := by
  have hbody := basicBody_escapedBody cs rest 0
  rw [written, List.cons_append, List.cons_append, List.append_assoc, List.singleton_append]
  have hopen : ∀ x, escapedBody false 0 cs 0 ++ '"' :: rest ≠ '"' :: '"' :: x := by
    intro x heq
    cases cs with
    | nil =>
      have hx : rest = '"' :: x := (List.cons.inj heq).2
      exact (hrest '"' (by rw [hx]; rfl)).1 rfl
    | cons c cs =>
      rw [heq, basicBody_quote] at hbody
      cases hbody
  unfold text
  split
  · exact absurd (List.cons.inj ‹_›).2 (hopen _)
  · exact absurd (List.cons.inj ‹_›).1 (by decide)
  · cases ‹_ = _›
    exact hbody
  · rename_i hno
    exact absurd rfl (hno _)

private theorem text_literal {cs : List Char} (h : ∀ c ∈ cs, isLiteralChar c = true)
    {rest : List Char} (hrest : EndsText rest) :
    text (written .literal cs ++ rest) = .found cs rest := by
  have hbody := literalText_append h rest
  rw [written, List.append_assoc, List.singleton_append]
  unfold text
  split
  · exact absurd (List.cons.inj ‹_›).1 (by decide)
  · rename_i x heq
    have htail : cs ++ '\'' :: rest = '\'' :: '\'' :: x := (List.cons.inj heq).2
    cases cs with
    | nil =>
      have hx : rest = '\'' :: x := (List.cons.inj htail).2
      exact absurd rfl (hrest '\'' (by rw [hx]; rfl)).2
    | cons c cs =>
      have hc := h c List.mem_cons_self
      rw [(List.cons.inj htail).1] at hc
      exact absurd hc (by decide)
  · exact absurd (List.cons.inj ‹_›).1 (by decide)
  · exact hbody

private theorem text_longBasic (cs : List Char) {rest : List Char} (hrest : EndsText rest) :
    text (written .longBasic cs ++ rest) = .found cs rest := by
  refine text_long (.inl rfl)
    (longBody_escapedBody (fun c hc => (hrest c hc).1) cs 0 (Nat.zero_le 2)) ?_
  intro hn x hx
  cases cs with
  | nil =>
    cases hx
    decide
  | cons c cs =>
    rw [escapedBody] at hx
    by_cases hq : c = '"'
    · rw [if_pos hq, if_pos (by decide)] at hx
      cases hx
      decide
    · rw [if_neg hq, List.append_assoc] at hx
      rcases escaped_cases true hq with ⟨h, hplain⟩ | ⟨e, es, h, -⟩ | ⟨-, hc, -⟩
      · rw [h] at hx
        cases hx
        refine ⟨?_, ?_⟩ <;> (rintro rfl; exact absurd hplain (by decide))
      · rw [h] at hx
        cases hx
        decide
      · exact absurd List.mem_cons_self (hc ▸ hn)

private theorem text_longLiteral {cs : List Char} (h : ∀ c ∈ cs, needsEscape c = false)
    (hrun : longestRun '\'' cs 0 ≤ 2) {rest : List Char} (hrest : EndsText rest) :
    text (written .longLiteral cs ++ rest) = .found cs rest := by
  refine text_long (.inr rfl) (longBody_literal (fun c hc => (hrest c hc).2) h 0 hrun) ?_
  intro hn x hx
  cases cs with
  | nil =>
    cases hx
    decide
  | cons c cs =>
    cases hx
    refine ⟨?_, ?_⟩
    · rintro rfl
      exact hn List.mem_cons_self
    · rintro rfl
      exact absurd (h _ List.mem_cons_self) (by decide)

theorem not_mem_of_longestRun_eq_zero {q : Char} {cs : List Char} {n : Nat}
    (h : longestRun q cs n = 0) : q ∉ cs := by
  induction cs generalizing n with
  | nil => exact List.not_mem_nil
  | cons c cs ih =>
    rw [longestRun] at h
    by_cases hq : c = q
    · rw [if_pos hq] at h
      have hle := le_longestRun q cs (n + 1)
      omega
    · rw [if_neg hq] at h
      have hle := Nat.le_max_right n (longestRun q cs 0)
      have hcs : longestRun q cs 0 = 0 := by omega
      exact List.not_mem_cons_of_ne_of_not_mem (fun heq => hq heq.symm) (ih hcs)

theorem isLiteralChar_of_needsEscape {c : Char} (h : needsEscape c = false) (hn : c ≠ '\n')
    (hq : c ≠ '\'') : isLiteralChar c = true := by
  rw [isLiteralChar, isCommentChar_of_needsEscape h hn, Bool.true_and, bne_iff_ne]
  exact hq

/-- A written text is read back, and what follows it is left. -/
theorem text_quoted (s : String) {rest : List Char} (hrest : EndsText rest) :
    text (quoted s ++ rest) = .found s.toList rest := by
  rw [quoted]
  generalize s.toList = cs
  have hcontrol : cs.any needsEscape = false → ∀ c ∈ cs, needsEscape c = false := by
    intro h c hc
    simpa using List.any_eq_false.1 h c hc
  simp only [styleOf]
  split
  · exact text_basic cs hrest
  split
  · rename_i h
    simp only [Bool.and_eq_true, Bool.not_eq_true', decide_eq_true_eq, List.contains_iff_mem,
      Bool.eq_false_iff, ne_eq] at h
    obtain ⟨⟨hescape, hsingle⟩, hlines⟩ := h
    refine text_literal (fun c hc => ?_) hrest
    refine isLiteralChar_of_needsEscape (hcontrol (by simpa using hescape) c hc) ?_ ?_
    · rintro rfl
      exact hlines hc
    · rintro rfl
      exact not_mem_of_longestRun_eq_zero hsingle hc
  split
  · exact text_longBasic cs hrest
  split
  · rename_i h
    simp only [Bool.and_eq_true, Bool.not_eq_true', decide_eq_true_eq] at h
    exact text_longLiteral (hcontrol h.1) h.2 hrest
  split
  · exact text_longBasic cs hrest
  · exact text_basic cs hrest

end FleetConfig.Toml
