import FleetConfig.Document.Basic
import FleetConfig.Proofs.Number.Digits
import FleetConfig.Proofs.Results
import FleetConfig.Proofs.Text.Lines
import Mathlib.Data.List.Intervals

/-!
# Excerpts point at the line

The report of a fault names the line of the fault's place and shows the lines around it: those of
the text, under their own numbers, as far as the text has them. The marker stands at the named line
and at no other, and is missing only if a line would start at the end of the text. The lines are cut
out of the text between two places that always lie in it.

## Main definitions

* `Toml.shownLines` — the lines of an excerpt with their numbers.
* `Toml.Surrounds` — what these have to be.
* `Toml.Marked` — the marker stands at a line.
* `Toml.slice?`, `Toml.slicedLines?` — the part of a list between two places, if they lie in the
  list, and the lines of an excerpt cut out that way.
* `Toml.report`, `Toml.Reported` — the report of a fault at a place, and what it says.

## Main results

* `Toml.surrounds_shownLines` — an excerpt shows the lines around a number.
* `Toml.marked_excerptLine_iff` — where the marker stands.
* `Toml.slicedLines?_eq` — the bounds of an excerpt lie in the text.
* `Toml.split_excerpt` — an excerpt falls into its lines again.
* `Toml.reports_point_at_line` — all reports of faults.
-/

namespace FleetConfig.Toml

variable {cs line : List Char} {n number : Nat} {shown : List (List Char × Nat)}

/-! ### The lines that are shown -/

/-- The lines of an excerpt around the line `n`, with their numbers. -/
def shownLines (cs : List Char) (n : Nat) : List (List Char × Nat) :=
  (((Text.lines cs).take (n + 2)).drop (n - 2)).zipIdx (n - 2 + 1)

/-- Holds of the lines around the line `n` with their numbers: they are numbered one after another
from the line in front to the second one behind, as far as there are such lines, and each is the
line of its number. -/
structure Surrounds (cs : List Char) (n : Nat) (shown : List (List Char × Nat)) : Prop where
  numbers : shown.map Prod.snd =
    List.Ico (max 1 (n - 1)) (min (n + 2) (Text.lines cs).length + 1)
  own : ∀ e ∈ shown, (Text.lines cs)[e.2 - 1]? = some e.1

theorem excerptLines_eq (cs : List Char) (n : Nat) :
    excerptLines cs n = (shownLines cs n).map fun e => excerptLine n e.2 e.1 := by
  rw [excerptLines, List.mapIdx_eq_zipIdx_map, shownLines,
    List.zipIdx_eq_map_add (i := n - 2 + 1), List.map_map]
  refine List.map_congr_left fun e _ => ?_
  simp only [Function.comp_apply, Nat.add_right_comm]

/-- An excerpt shows the lines around a number, whether or not there is a line of that number. -/
theorem surrounds_shownLines (cs : List Char) (n : Nat) : Surrounds cs n (shownLines cs n) where
  numbers := by
    have hfirst : max 1 (n - 1) = n - 2 + 1 := by omega
    have hlength : min (n + 2) (Text.lines cs).length + 1 - (n - 2 + 1) =
        min (n + 2) (Text.lines cs).length - (n - 2) := by omega
    rw [List.Ico, hfirst, hlength, shownLines, List.zipIdx_map_snd, List.length_drop,
      List.length_take]
  own e he := by
    obtain ⟨line, number⟩ := e
    obtain ⟨hle, hline⟩ := List.mk_mem_zipIdx_iff_le_and_getElem?_sub.1 he
    obtain ⟨hlt, hline⟩ := List.getElem?_eq_some_iff.1 hline
    have hplace : n - 2 + (number - (n - 2 + 1)) = number - 1 := by omega
    rw [List.getElem_drop, List.getElem_take] at hline
    simp only [hplace] at hline
    exact hline ▸ List.getElem?_eq_getElem _

theorem Surrounds.mem_numbers_iff (h : Surrounds cs n shown) (hn : 0 < n) :
    n ∈ shown.map Prod.snd ↔ n ≤ (Text.lines cs).length := by
  rw [h.numbers, List.Ico.mem]
  omega

theorem Surrounds.newline_not_mem (h : Surrounds cs n shown) : ∀ e ∈ shown, '\n' ∉ e.1 :=
  fun e he => Text.not_mem_of_mem_lines (List.mem_of_getElem? (h.own e he))

/-! ### The marker -/

/-- Holds of lines that the marker stands at. -/
def Marked (line : String) : Prop := ">>>".toList <+: line.toList

/-- The marker stands at the line that is named and at no other. -/
theorem marked_excerptLine_iff : Marked (excerptLine n number line) ↔ number = n := by
  rw [Marked, excerptLine]
  simp only [String.toList_append, List.append_assoc]
  by_cases h : number = n
  · rw [if_pos h]
    exact iff_of_true (List.prefix_append _ _) h
  · rw [if_neg h]
    refine iff_of_false (fun hprefix => ?_) h
    exact absurd (List.cons_prefix_cons.1 hprefix).1 (by decide)

/-! ### The text of an excerpt -/

theorem newline_not_mem_toString (n : Nat) : '\n' ∉ (toString n).toList := by
  rw [Nat.toString_eq_repr, Nat.toList_repr]
  exact fun h => absurd (Number.isDigit_toDigits n _ h) (by decide)

theorem newline_not_mem_excerptLine (h : '\n' ∉ line) :
    '\n' ∉ (excerptLine n number line).toList := by
  have hmarker : '\n' ∉ (if number = n then ">>>" else "   ").toList := by split <;> decide
  have hspaces (k : Nat) : '\n' ∉ List.replicate k ' ' := fun hmem =>
    absurd (List.eq_of_mem_replicate hmem) (by decide)
  simp only [excerptLine, column, String.toList_append, String.toList_ofList, List.mem_append,
    not_or]
  exact ⟨⟨⟨⟨hmarker, by decide⟩, hspaces _, newline_not_mem_toString number⟩, by decide⟩, h⟩

/-- The text of an excerpt falls into its lines again, unless there are none. -/
theorem split_excerpt (h : excerptLines cs n ≠ []) :
    Text.split '\n' (excerpt cs n) = excerptLines cs n := by
  refine Text.split_join h fun s hs => ?_
  rw [excerptLines_eq] at hs
  obtain ⟨e, he, rfl⟩ := List.mem_map.1 hs
  exact newline_not_mem_excerptLine ((surrounds_shownLines cs n).newline_not_mem e he)

/-! ### Bounds -/

/-- The part of a list between two places, which have to lie in the list in this order. -/
def slice? {α : Type} (xs : List α) (start stop : Nat) : Option (List α) :=
  if start ≤ stop ∧ stop ≤ xs.length then some ((xs.take stop).drop start) else none

/-- The lines of an excerpt, cut out between two places that are clipped to the lines. -/
def slicedLines? (cs : List Char) (n : Nat) : Option (List String) :=
  let lines := Text.lines cs
  let start := min (n - 2) lines.length
  (slice? lines start (min (n + 2) lines.length)).map fun part =>
    part.mapIdx fun i line => excerptLine n (start + i + 1) line

/-- The two places lie in the text, for whatever number. -/
theorem slicedLines?_eq (cs : List Char) (n : Nat) :
    slicedLines? cs n = some (excerptLines cs n) := by
  have hbounds : min (n - 2) (Text.lines cs).length ≤ min (n + 2) (Text.lines cs).length ∧
      min (n + 2) (Text.lines cs).length ≤ (Text.lines cs).length := by omega
  rw [slicedLines?, slice?, if_pos hbounds, Option.map_some, Option.some.injEq, excerptLines]
  rcases Nat.le_total (n - 2) (Text.lines cs).length with h | h
  · rw [Nat.min_eq_left h, ← List.take_eq_take_min]
  · -- There is no line to be shown.
    have hnone (k : Nat) : ((Text.lines cs).take k).drop (n - 2) = [] :=
      List.drop_eq_nil_of_le (by rw [List.length_take]; omega)
    have hnone' (k : Nat) : ((Text.lines cs).take k).drop (Text.lines cs).length = [] :=
      List.drop_eq_nil_of_le (by rw [List.length_take]; omega)
    rw [Nat.min_eq_right h, hnone, hnone']
    rfl

/-! ### Reports -/

/-- The report of a fault at a place in a text: `before` stands in front of the place and `after`
behind it. -/
def report (before after : List Char) : String :=
  (⟨after.length⟩ : Fault).message (before ++ after)

theorem report_eq (before after : List Char) : report before after =
    "TOML parsing error at line " ++ toString (lineNumber before) ++ ":\n" ++
      excerpt (before ++ after) (lineNumber before) := by
  have hbefore : (before ++ after).take ((before ++ after).length - after.length) = before := by
    rw [List.length_append, Nat.add_sub_cancel]
    exact List.take_left
  unfold report Fault.message
  rw [hbefore]

/-- Each fault is reported for a place in the text. -/
theorem message_eq_report (fault : Fault) (cs : List Char) : fault.message cs =
    report (cs.take (cs.length - fault.left)) (cs.drop (cs.length - fault.left)) := by
  rw [report_eq, List.take_append_drop]
  unfold Fault.message
  rfl

/-- What is wrong with a document is reported for a place in its text. -/
theorem exists_report_of_parse {δ : Type} [Document δ] {s message : String}
    (h : (Document.parse s : Except String δ) = .error message) :
    ∃ before after, before ++ after = skipByteOrderMark s.toList ∧
      message = report before after := by
  unfold Document.parse at h
  generalize skipByteOrderMark s.toList = cs at h ⊢
  dsimp only at h
  cases hparse : (Document.parseChars cs : Except Fault δ) with
  | ok d =>
    rw [hparse] at h
    cases h
  | error fault =>
    rw [hparse] at h
    cases h
    exact ⟨_, _, List.take_append_drop _ _, message_eq_report fault cs⟩

/-- Holds of the number and the lines that a report names and shows for a place. -/
structure Reported (before after : List Char) (n : Nat) (shown : List (List Char × Nat)) :
    Prop where
  /-- The report names the number and shows the lines. -/
  text : report before after = "TOML parsing error at line " ++ toString n ++ ":\n" ++
    Text.join "\n" (shown.map fun e => excerptLine n e.2 e.1)
  /-- The lines can be told apart. -/
  split : shown ≠ [] →
    Text.split '\n' (Text.join "\n" (shown.map fun e => excerptLine n e.2 e.1)) =
      shown.map fun e => excerptLine n e.2 e.1
  /-- They are the lines around the one that is named. -/
  surrounds : Surrounds (before ++ after) n shown
  /-- The marker stands at the line that is named and at no other. -/
  marked : ∀ e ∈ shown, Marked (excerptLine n e.2 e.1) ↔ e.2 = n
  /-- The line that is named is shown if the text has it. -/
  named : (∃ e ∈ shown, e.2 = n) ↔ n ≤ (Text.lines (before ++ after)).length
  /-- The text does not have it only where a line would start at its end. -/
  missing : (Text.lines (before ++ after)).length < n ↔ Text.LineStart before ∧ after = []

theorem reported_shownLines (before after : List Char) :
    Reported before after (lineNumber before)
      (shownLines (before ++ after) (lineNumber before)) where
  text := by rw [report_eq, excerpt, excerptLines_eq]
  split hne := by
    rw [← excerptLines_eq]
    refine split_excerpt ?_
    rw [excerptLines_eq]
    exact mt List.map_eq_nil_iff.1 hne
  surrounds := surrounds_shownLines _ _
  marked _ _ := marked_excerptLine_iff
  named := by
    rw [← (surrounds_shownLines (before ++ after) (lineNumber before)).mem_numbers_iff
      (Nat.succ_pos _), List.mem_map]
  missing := by
    rw [lineNumber, Nat.lt_succ_iff, ← Nat.not_lt, Text.count_lt_length_lines_iff, not_not]

/-- An offset in bytes that lies between characters is a place in a text. -/
theorem exists_place_of_isValid {s : String} {offset : Nat}
    (h : (⟨offset⟩ : String.Pos.Raw).IsValid s) :
    ∃ before after, before ++ after = s.toList ∧ (String.ofList before).utf8ByteSize = offset := by
  obtain ⟨s₁, s₂, rfl, hoffset⟩ := String.Pos.Raw.isValid_iff_exists_append.1 h
  refine ⟨s₁.toList, s₂.toList, String.toList_append.symm, ?_⟩
  rw [String.ofList_toList, ← String.byteIdx_rawEndPos, ← hoffset]

/-- The report of a fault at an offset between characters names the number one above that of the
line feeds in front of it. It shows the lines of the text from the one before to the second one
after, under their own numbers, with the marker at the named line alone; only behind the end of the
last line there is none to mark. The bounds of what is shown lie in the text, whatever the number.
And whatever is wrong with a document is reported for such a place in its text. -/
theorem reports_point_at_line :
    (∀ (s : String) (offset : Nat), (⟨offset⟩ : String.Pos.Raw).IsValid s →
      ∃ before after, before ++ after = s.toList ∧
        (String.ofList before).utf8ByteSize = offset ∧
        ∃ shown, Reported before after (before.count '\n' + 1) shown) ∧
    (∀ (cs : List Char) (n : Nat), slicedLines? cs n = some (excerptLines cs n)) ∧
    ∀ {δ : Type} [Document δ] (s message : String),
      (Document.parse s : Except String δ) = .error message →
      ∃ before after, before ++ after = skipByteOrderMark s.toList ∧
        message = report before after ∧
        ∃ shown, Reported before after (before.count '\n' + 1) shown := by
  refine ⟨fun s offset hoffset => ?_, slicedLines?_eq, fun s message hfails => ?_⟩
  · obtain ⟨before, after, htext, hbytes⟩ := exists_place_of_isValid hoffset
    exact ⟨before, after, htext, hbytes, _, reported_shownLines before after⟩
  · obtain ⟨before, after, htext, hmessage⟩ := exists_report_of_parse hfails
    exact ⟨before, after, htext, hmessage, _, reported_shownLines before after⟩

/-- A document whose last line lacks a value and ends with a line feed. -/
def lackingValue : String := "[[servers]]\nname = \"time\"\npackage = \n"

/-- See `lackingValue`: there is no line after the one that is named. -/
def lackingValueReport : String :=
  "TOML parsing error at line 3:\n       2 | name = \"time\"\n>>>    3 | package = "

/-- The offset behind an accent of two bytes lies between characters, on the second line; and the
value is missed on the third line of its document. -/
theorem reports_point_at_line_lacking_value :
    (∃ before after, before ++ after = "a\né".toList ∧ (String.ofList before).utf8ByteSize = 4 ∧
      ∃ shown, Reported before after (before.count '\n' + 1) shown) ∧
    (Document.parse lackingValue : Except String Contract) = .error lackingValueReport ∧
    ∃ before after, before ++ after = skipByteOrderMark lackingValue.toList ∧
      lackingValueReport = report before after ∧
      ∃ shown, Reported before after (before.count '\n' + 1) shown := by
  have hoffset : (⟨4⟩ : String.Pos.Raw).IsValid "a\né" := String.Pos.Raw.isValid_rawEndPos
  have hfails : (Document.parse lackingValue : Except String Contract) =
      .error lackingValueReport := by
    decide +kernel
  exact ⟨reports_point_at_line.1 _ _ hoffset, hfails, reports_point_at_line.2.2 _ _ hfails⟩

end FleetConfig.Toml
