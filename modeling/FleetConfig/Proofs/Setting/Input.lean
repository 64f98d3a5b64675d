import FleetConfig.Proofs.Document.Range
import FleetConfig.Proofs.Text.Joining
import FleetConfig.Proofs.Text.Trimming
import FleetConfig.Setting.Kind

/-!
# Input for settings

Input for a key denotes a setting of the key's kind or nothing at all, never an empty list. Nothing
is what blank input denotes, and for a list also input that separates no items. A duration that is
denoted can be written and read back.

## Main definitions

* `Setting.Leaf.InRange` — a setting can be written and read back.
* `Setting.NamesNoItem` — input in which commas separate nothing but blanks.

## Main results

* `Setting.Kind.kind_of_parse` — input denotes a setting of its kind.
* `Setting.Kind.inRange_of_parse` — and one in range.
* `Setting.Kind.parse_eq_none_iff` — which input denotes nothing.
-/

namespace FleetConfig.Setting

/-- Holds of settings that can be written and read back. -/
def Leaf.InRange : Leaf → Prop
  | .duration t => t.InRange
  | _ => True

namespace Kind

variable {kind : Kind} {key input : String} {l : Leaf}

/-- What a kind reads from trimmed input: the four kinds with what each requires of its input. -/
theorem parseTrimmed_eq_some (h : kind.parseTrimmed key input = .ok (some l)) :
    (kind = .text ∧ l = .text input) ∨
      (kind = .switch ∧ ∃ b, parseSwitch? input = some b ∧ l = .switch b) ∨
      (kind = .duration ∧ ∃ t, Duration.parse input = .ok t ∧ t.isZero = false ∧ l = .duration t) ∨
      (kind = .list ∧ parseList input ≠ [] ∧ l = .list (parseList input)) := by
  cases kind with
  | text =>
    cases h
    exact .inl ⟨rfl, rfl⟩
  | switch =>
    rw [parseTrimmed] at h
    split at h
    · rename_i b hb
      cases h
      exact .inr (.inl ⟨rfl, b, hb, rfl⟩)
    · cases h
  | duration =>
    rw [parseTrimmed] at h
    split at h
    · cases h
    · rename_i t ht
      split at h
      · cases h
      · rename_i hzero
        cases h
        exact .inr (.inr (.inl ⟨rfl, t, ht, Bool.eq_false_iff.2 hzero, rfl⟩))
  | list =>
    rw [parseTrimmed] at h
    split at h
    · cases h
    · rename_i hlist
      cases h
      exact .inr (.inr (.inr ⟨rfl, hlist, rfl⟩))

theorem parse_eq_some (h : kind.parse key input = .ok (some l)) :
    kind.parseTrimmed key (Text.trim input) = .ok (some l) := by
  rw [parse] at h
  split at h
  · cases h
  · exact h

/-- Blank input clears a key. -/
theorem parse_empty : kind.parse key "" = .ok none := rfl

/-- Input denotes a setting of its kind, and no empty list. -/
theorem kind_of_parse (h : kind.parse key input = .ok (some l)) : l.kind = kind ∧ l ≠ .list [] := by
  rcases parseTrimmed_eq_some (parse_eq_some h) with
    ⟨rfl, rfl⟩ | ⟨rfl, b, -, rfl⟩ | ⟨rfl, t, -, -, rfl⟩ | ⟨rfl, hne, rfl⟩
  · exact ⟨rfl, nofun⟩
  · exact ⟨rfl, nofun⟩
  · exact ⟨rfl, nofun⟩
  · exact ⟨rfl, fun heq => hne (Leaf.list.inj heq)⟩

/-- Input denotes a setting that can be written and read back. -/
theorem inRange_of_parse (h : kind.parse key input = .ok (some l)) : l.InRange := by
  rcases parseTrimmed_eq_some (parse_eq_some h) with
    ⟨-, rfl⟩ | ⟨-, b, -, rfl⟩ | ⟨-, t, ht, -, rfl⟩ | ⟨-, -, rfl⟩
  · trivial
  · trivial
  · exact Duration.nanos_le_of_parse ht
  · trivial

end Kind

/-! ### Input that denotes nothing -/

/-- Holds of input with nothing but commas and blanks. -/
def NamesNoItem (input : String) : Prop := ∀ c ∈ input.toList, c = ',' ∨ Text.isBlank c = true

instance (input : String) : Decidable (NamesNoItem input) :=
  inferInstanceAs (Decidable (∀ c ∈ input.toList, c = ',' ∨ Text.isBlank c = true))

theorem parseList_eq_nil_iff {s : String} : parseList s = [] ↔ NamesNoItem s := by
  rw [parseList, Text.split, List.filter_eq_nil_iff, NamesNoItem, ← Text.forall_mem_pieces_iff]
  simp only [List.forall_mem_map, bne_iff_ne, not_not, Text.trim_eq_empty_iff, Text.isBlankText,
    String.toList_ofList, List.all_eq_true]

/-- Blanks around input do not count for whether it names an item. -/
theorem namesNoItem_trim {s : String} : NamesNoItem (Text.trim s) ↔ NamesNoItem s := by
  rw [NamesNoItem, Text.trim, String.toList_ofList]
  exact Text.forall_mem_trimList fun _ => Or.inr

theorem Kind.parseTrimmed_eq_none_iff {kind : Kind} {key input : String} :
    kind.parseTrimmed key input = .ok none ↔ kind = .list ∧ NamesNoItem input := by
  rw [← parseList_eq_nil_iff]
  cases kind with
  | text => exact ⟨nofun, nofun⟩
  | switch =>
    rw [parseTrimmed]
    cases parseSwitch? input <;> exact ⟨nofun, nofun⟩
  | duration =>
    rw [parseTrimmed]
    cases Duration.parse input with
    | error fault => exact ⟨nofun, nofun⟩
    | ok t =>
      dsimp only
      split <;> exact ⟨nofun, nofun⟩
  | list =>
    rw [parseTrimmed]
    cases hlist : parseList input with
    | nil => exact ⟨fun _ => ⟨rfl, rfl⟩, fun _ => rfl⟩
    | cons item items => exact ⟨nofun, nofun⟩

/-- Input denotes nothing if it is blank, and for a list if it has nothing but commas and blanks. -/
theorem Kind.parse_eq_none_iff {kind : Kind} {key input : String} :
    kind.parse key input = .ok none ↔
      Text.isBlankText input = true ∨ kind = .list ∧ NamesNoItem input := by
  rw [parse, ← Text.trim_eq_empty_iff, ← namesNoItem_trim]
  split
  · rename_i htrim
    exact ⟨fun _ => .inl htrim, fun _ => rfl⟩
  · rename_i htrim
    rw [parseTrimmed_eq_none_iff, or_iff_right htrim]

end FleetConfig.Setting
