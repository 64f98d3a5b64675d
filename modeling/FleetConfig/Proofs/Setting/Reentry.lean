import FleetConfig.Proofs.Duration.RoundTrip
import FleetConfig.Proofs.Setting.Input
import FleetConfig.Proofs.Text.Joining

/-!
# Settings as input again

What input denotes is normal: a text is trimmed and not empty, a duration is longer than none, and a
list has items, which are trimmed, not empty and without commas. Every normal setting in range can
be written as input of its kind, and that input denotes it. So a setting that was read once is not
changed by being written and read again.

## Main definitions

* `Setting.Leaf.IsNormal` — the settings that input denotes.
* `Setting.Leaf.input` — the input that a setting is written as.

## Main results

* `Setting.Kind.isNormal_of_parse` — input denotes normal settings.
* `Setting.Kind.parse_input` — a normal setting in range is what its own input denotes.
* `Setting.Kind.exists_parse_iff` — no others are denoted, and all of these.
* `Setting.Kind.parsed_reenters` — what was read is normal and is read again from its own input.
-/

namespace FleetConfig

/-! ### Durations -/

/-- The canonical text of a duration is trimmed. -/
theorem Duration.trimmed_text (d : Duration) : Text.Trimmed d.text := by
  have hcount (n : Nat) (u : Unit) : Text.Trimmed (toString n ++ u.suffix) := by
    rw [Text.Trimmed, Text.trim, ← Item.text_count, trimList_count, Item.text_count,
      String.ofList_toList]
  rw [text]
  split
  · exact hcount 0 .second
  · exact hcount _ _

theorem Duration.text_ne_empty (d : Duration) : d.text ≠ "" := by
  rw [text]
  split
  · decide
  · exact fun h => absurd (String.append_eq_empty_iff.1 h).2 (by cases d.largestUnit <;> decide)

namespace Setting

/-! ### Lists -/

section Lists

variable {items : List String} {sep : String}

/-- What is put together from texts is not empty if they are not. -/
theorem join_ne_empty (hne : items ≠ []) (h : ∀ item ∈ items, item ≠ "") :
    Text.join sep items ≠ "" := by
  cases items with
  | nil => exact absurd rfl hne
  | cons item rest =>
    have hitem : item ≠ "" := h item List.mem_cons_self
    cases rest with
    | nil => exact hitem
    | cons next rest =>
      rw [Text.join]
      exact fun heq => hitem (String.append_eq_empty_iff.1 (String.append_eq_empty_iff.1 heq).1).1

/-- What is put together from trimmed texts that are not empty is trimmed. -/
theorem trimmed_join (h : ∀ item ∈ items, item ≠ "" ∧ Text.Trimmed item) :
    Text.Trimmed (Text.join sep items) := by
  induction items with
  | nil => rfl
  | cons item rest ih =>
    obtain ⟨⟨hitem, htrimmed⟩, hrest⟩ := List.forall_mem_cons.1 h
    cases rest with
    | nil => exact htrimmed
    | cons next rest =>
      have hne : Text.join sep (next :: rest) ≠ "" :=
        join_ne_empty (List.cons_ne_nil next rest) fun x hx => (hrest x hx).1
      exact Text.trimmed_append hitem htrimmed hne (ih hrest) sep

/-- An item of a list: trimmed, not empty and without commas. -/
structure IsItem (item : String) : Prop where
  ne_empty : item ≠ ""
  trimmed : Text.Trimmed item
  noComma : ',' ∉ item.toList

/-- The items that are read from a list are items. -/
theorem isItem_of_mem_parseList {s item : String} (h : item ∈ parseList s) : IsItem item := by
  obtain ⟨hmem, hne⟩ := List.mem_filter.1 h
  obtain ⟨piece, hpiece, rfl⟩ := List.mem_map.1 hmem
  obtain ⟨cs, hcs, rfl⟩ := List.mem_map.1 hpiece
  -- A piece has no comma, and trimming adds none.
  have hall : ∀ c ∈ cs, c ≠ ',' := fun c hc heq => Text.not_mem_of_mem_pieces hcs (heq ▸ hc)
  have hblank : ∀ c, Text.isBlank c = true → c ≠ ',' := by
    rintro _ hc rfl
    exact absurd hc (by decide)
  refine ⟨bne_iff_ne.1 hne, Text.trimmed_trim _, fun hcomma => ?_⟩
  rw [Text.trim, String.toList_ofList, String.toList_ofList] at hcomma
  exact (Text.forall_mem_trimList hblank).2 hall _ hcomma rfl

/-- Items with commas between them are read as these items. -/
theorem parseList_join (hne : items ≠ []) (h : ∀ item ∈ items, IsItem item) :
    parseList (Text.join "," items) = items := by
  have hsplit : Text.split ',' (Text.join "," items) = items :=
    Text.split_join hne fun item hitem => (h item hitem).noComma
  have htrim : items.map Text.trim = items :=
    (List.map_congr_left fun item hitem => (h item hitem).trimmed).trans items.map_id
  rw [parseList, hsplit, htrim, List.filter_eq_self]
  exact fun item hitem => bne_iff_ne.2 (h item hitem).ne_empty

end Lists

/-! ### Normal settings -/

/-- The text of a switch denotes it. -/
theorem parseSwitch?_switchText (b : Bool) : parseSwitch? (Leaf.switchText b) = some b := by
  cases b <;> decide +kernel

namespace Leaf

/-- Holds of the settings that input denotes. -/
def IsNormal : Leaf → Prop
  | text s => s ≠ "" ∧ Text.Trimmed s
  | switch _ => True
  | duration d => 0 < d.nanos
  | list items => items ≠ [] ∧ ∀ item ∈ items, IsItem item

/-- The input that a setting is written as: what is shown for it, but for a list its items alone,
with commas between them. -/
def input : Leaf → String
  | list items => Text.join "," items
  | l => l.display

variable {l : Leaf}

theorem IsNormal.input_ne_empty (h : l.IsNormal) : l.input ≠ "" := by
  cases l with
  | text s => exact h.1
  | switch b => cases b <;> decide
  | duration d => exact d.text_ne_empty
  | list items => exact join_ne_empty h.1 fun item hitem => (h.2 item hitem).ne_empty

theorem IsNormal.trimmed_input (h : l.IsNormal) : Text.Trimmed l.input := by
  cases l with
  | text s => exact h.2
  | switch b => cases b <;> decide
  | duration d => exact d.trimmed_text
  | list items =>
    exact trimmed_join fun item hitem => ⟨(h.2 item hitem).ne_empty, (h.2 item hitem).trimmed⟩

end Leaf

namespace Kind

variable {kind : Kind} {key input : String} {l : Leaf}

/-- Input denotes normal settings. -/
theorem isNormal_of_parse (h : kind.parse key input = .ok (some l)) : l.IsNormal := by
  have htrim : Text.trim input ≠ "" := fun htrim => by
    rw [parse, if_pos htrim] at h
    cases h
  rcases parseTrimmed_eq_some (parse_eq_some h) with
    ⟨-, rfl⟩ | ⟨-, b, -, rfl⟩ | ⟨-, d, -, hzero, rfl⟩ | ⟨-, hne, rfl⟩
  · exact ⟨htrim, Text.trimmed_trim input⟩
  · trivial
  · exact Nat.pos_of_ne_zero (beq_eq_false_iff_ne.1 hzero)
  · exact ⟨hne, fun _ => isItem_of_mem_parseList⟩

theorem parseTrimmed_input (h : l.IsNormal) (hrange : l.InRange) (key : String) :
    l.kind.parseTrimmed key l.input = .ok (some l) := by
  cases l with
  | text s => rfl
  | switch b =>
    simp only [parseTrimmed, Leaf.kind, Leaf.input, Leaf.display, parseSwitch?_switchText]
  | duration d =>
    have hparse : Duration.parse d.text = .ok d := Duration.parse_text d hrange
    have hzero : d.isZero = false := beq_eq_false_iff_ne.2 (Nat.ne_of_gt h)
    simp only [parseTrimmed, Leaf.kind, Leaf.input, Leaf.display, hparse, hzero,
      Bool.false_eq_true, if_false]
  | list items =>
    obtain ⟨item, rest, rfl⟩ := List.exists_cons_of_ne_nil h.1
    simp only [parseTrimmed, Leaf.kind, Leaf.input, parseList_join h.1 h.2]

/-- A normal setting in range is what its own input denotes, for whatever key. -/
theorem parse_input (h : l.IsNormal) (hrange : l.InRange) (key : String) :
    l.kind.parse key l.input = .ok (some l) := by
  have htrim : Text.trim l.input = l.input := h.trimmed_input
  rw [parse]
  simp only [htrim, if_neg h.input_ne_empty, parseTrimmed_input h hrange key]

/-- Input of a kind denotes the normal settings in range of that kind, all of them and no others. -/
theorem exists_parse_iff :
    (∃ input, kind.parse key input = .ok (some l)) ↔ l.kind = kind ∧ l.IsNormal ∧ l.InRange := by
  constructor
  · rintro ⟨input, h⟩
    exact ⟨(kind_of_parse h).1, isNormal_of_parse h, inRange_of_parse h⟩
  · rintro ⟨rfl, hnormal, hrange⟩
    exact ⟨_, parse_input hnormal hrange key⟩

/-- What input denotes is of the kind that was asked for and normal, and its own input denotes the
same again, under whatever key. Nothing more is asked of what some input denotes, except that its
duration be in range. -/
theorem parsed_reenters (kind : Kind) (l : Leaf) :
    (∀ key input, kind.parse key input = .ok (some l) →
      l.kind = kind ∧ l.IsNormal ∧ ∀ key', kind.parse key' l.input = .ok (some l)) ∧
    ∀ key, (∃ input, kind.parse key input = .ok (some l)) ↔
      l.kind = kind ∧ l.IsNormal ∧ l.InRange := by
  refine ⟨fun key input h => ?_, fun key => exists_parse_iff⟩
  obtain rfl := (kind_of_parse h).1
  exact ⟨rfl, isNormal_of_parse h, parse_input (isNormal_of_parse h) (inRange_of_parse h)⟩

/-- Blanks around items and items without characters are not written. -/
theorem parsed_reenters_spaced :
    list.parse "api.cors.methods" " GET ,, a b\t," = .ok (some (.list ["GET", "a b"])) ∧
      (Leaf.list ["GET", "a b"]).IsNormal ∧ (Leaf.list ["GET", "a b"]).input = "GET,a b" ∧
      list.parse "api.cors.methods" "GET,a b" = .ok (some (.list ["GET", "a b"])) := by
  have h : list.parse "api.cors.methods" " GET ,, a b\t," = .ok (some (.list ["GET", "a b"])) := rfl
  have hreenters := (parsed_reenters list (.list ["GET", "a b"])).1 _ _ h
  exact ⟨h, hreenters.2.1, rfl, hreenters.2.2 _⟩

end Kind

end Setting

end FleetConfig
