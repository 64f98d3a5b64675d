import FleetConfig.Export
import FleetConfig.Proofs.Contract.Validity
import FleetConfig.Proofs.Sorted.Keys
import Mathlib.Data.List.Forall2
import Mathlib.Data.List.Nodup

/-!
# Placeholders of items

A contract declares *items*: the variables and flags that its servers require. An item's placeholder
is made of its text, the names of the server and of the variable or flag, and writing the
placeholder forgets the case of letters and which separator stands where. So items have one
placeholder if their texts are alike in this sense, and only then.

## Main definitions

* `Export.Item`, `Export.items` — the items that servers declare.
* `Export.Item.text`, `Export.Item.placeholder` — what stands for an item.
* `Export.Item.Alike` — two items have texts that differ in case and separators only.
* `Export.requirementCount` — the number of items, server by server.

## Main results

* `Export.Item.placeholder_eq_iff` — which items have one placeholder.
* `Export.nodup_items` — servers of different names declare different items.
-/

namespace FleetConfig.Export

/-! ### Letters -/

/-- Holds of the characters that all become underscores. -/
def IsSeparator (c : Char) : Prop := c = '-' ∨ c = '.' ∨ c = '_'

/-- Two characters are the same but for the case of an ASCII letter, or are both separators. -/
def AlikeChars (c d : Char) : Prop := c.toLower = d.toLower ∨ IsSeparator c ∧ IsSeparator d

private theorem toNat_toLower (c : Char) :
    c.toLower.toNat = if 65 ≤ c.toNat ∧ c.toNat ≤ 90 then c.toNat + 32 else c.toNat := by
  have hrange : (c.val ≥ 'A'.val ∧ c.val ≤ 'Z'.val) = (65 ≤ c.toNat ∧ c.toNat ≤ 90) := rfl
  delta Char.toLower
  simp only [hrange]
  split
  · show (c.val + ('a'.val - 'A'.val)).toNat = c.toNat + 32
    rw [UInt32.toNat_add]
    show (c.toNat + 32) % 2 ^ 32 = c.toNat + 32
    omega
  · rfl

private theorem toNat_toUpper (c : Char) :
    c.toUpper.toNat = if 97 ≤ c.toNat ∧ c.toNat ≤ 122 then c.toNat - 32 else c.toNat := by
  have hrange : ('a'.val ≤ c.val ∧ c.val ≤ 'z'.val) = (97 ≤ c.toNat ∧ c.toNat ≤ 122) := rfl
  delta Char.toUpper
  simp only [hrange]
  split
  · -- The distance of the letters is negative, so it is added modulo the word size.
    show (c.val + ('A'.val - 'a'.val)).toNat = c.toNat - 32
    rw [UInt32.toNat_add]
    show (c.toNat + 4294967264) % 2 ^ 32 = c.toNat - 32
    omega
  · rfl

theorem toNat_placeholderChar (c : Char) :
    (placeholderChar c).toNat =
      if c.toNat = 45 ∨ c.toNat = 46 then 95
      else if 97 ≤ c.toNat ∧ c.toNat ≤ 122 then c.toNat - 32 else c.toNat := by
  have hdash : c = '-' ↔ c.toNat = 45 := Char.toNat_inj.symm
  have hdot : c = '.' ↔ c.toNat = 46 := Char.toNat_inj.symm
  simp only [placeholderChar, hdash, hdot]
  split
  · rfl
  · exact toNat_toUpper c

private theorem isSeparator_iff (c : Char) :
    IsSeparator c ↔ c.toNat = 45 ∨ c.toNat = 46 ∨ c.toNat = 95 := by
  simp only [IsSeparator, ← Char.toNat_inj]
  rfl

theorem placeholderChar_eq_iff {c d : Char} :
    placeholderChar c = placeholderChar d ↔ AlikeChars c d := by
  rw [AlikeChars, isSeparator_iff, isSeparator_iff, ← Char.toNat_inj, ← Char.toNat_inj,
    toNat_placeholderChar, toNat_placeholderChar, toNat_toLower, toNat_toLower]
  repeat' split
  all_goals omega

theorem map_placeholderChar_eq_iff {cs ds : List Char} :
    cs.map placeholderChar = ds.map placeholderChar ↔ List.Forall₂ AlikeChars cs ds := by
  rw [← List.forall₂_eq_eq_eq, List.forall₂_map_left_iff, List.forall₂_map_right_iff]
  simp only [placeholderChar_eq_iff]

/-! ### Items -/

/-- What a server can require. -/
inductive ItemKind where
  | variable | flag
deriving DecidableEq, Repr

/-- A variable or flag that a server requires. -/
structure Item where
  server : String
  kind : ItemKind
  name : String
deriving DecidableEq, Repr

namespace Item

/-- The name that stands for an item. -/
def placeholder (i : Item) : String := Export.placeholder i.server i.name

/-- The names of an item without pairs of dashes in front, with two underscores between them. -/
def text (i : Item) : List Char :=
  dropDashPairs i.server.toList ++ ['_', '_'] ++ dropDashPairs i.name.toList

/-- The texts of two items agree up to the case of ASCII letters and the choice of separators. -/
def Alike (i j : Item) : Prop := List.Forall₂ AlikeChars i.text j.text

theorem toList_placeholder (i : Item) :
    i.placeholder.toList = "MCPD__".toList ++ i.text.map placeholderChar := by
  simp only [placeholder, Export.placeholder, segment, text, String.toList_append,
    String.toList_ofList, List.map_append, List.append_assoc]
  rfl

/-- Items have one placeholder if their texts are alike. -/
theorem placeholder_eq_iff {i j : Item} : i.placeholder = j.placeholder ↔ i.Alike j := by
  rw [← String.toList_inj, toList_placeholder, toList_placeholder, List.append_cancel_left_eq,
    map_placeholderChar_eq_iff]
  rfl

end Item

/-- The items that a server declares. -/
def itemsOf (s : Server) : List Item :=
  s.requiredEnv.toList.map (⟨s.name, .variable, ·⟩) ++
    s.requiredArgs.toList.map (⟨s.name, .flag, ·⟩)

/-- The items that servers declare. -/
def items (ss : List Server) : List Item := ss.flatMap itemsOf

/-- How many variables and flags servers require, counted for each server. -/
def requirementCount : List Server → Nat
  | [] => 0
  | s :: ss =>
    s.requiredEnv.toList.length + s.requiredArgs.toList.length + requirementCount ss

theorem length_items (ss : List Server) : (items ss).length = requirementCount ss := by
  induction ss with
  | nil => rfl
  | cons s ss ih =>
    rw [items, List.flatMap_cons, List.length_append, itemsOf, List.length_append, List.length_map,
      List.length_map, requirementCount, ← ih, items]

theorem flatMap_placeholders (ss : List Server) :
    ss.flatMap placeholders = (items ss).map Item.placeholder := by
  rw [items, List.map_flatMap]
  refine congrArg ss.flatMap (funext fun s => ?_)
  rw [placeholders, itemsOf, List.map_append, List.map_append, List.map_map, List.map_map]
  rfl

theorem server_of_mem_itemsOf {s : Server} {i : Item} (h : i ∈ itemsOf s) : i.server = s.name := by
  rcases List.mem_append.1 h with h | h
  · obtain ⟨_, -, rfl⟩ := List.mem_map.1 h
    rfl
  · obtain ⟨_, -, rfl⟩ := List.mem_map.1 h
    rfl

theorem nodup_itemsOf (s : Server) : (itemsOf s).Nodup := by
  refine List.nodup_append.2 ⟨?_, ?_, ?_⟩
  · exact List.Nodup.map (fun _ _ h => congrArg Item.name h) s.requiredEnv.nodup_toList
  · exact List.Nodup.map (fun _ _ h => congrArg Item.name h) s.requiredArgs.nodup_toList
  · intro i hi j hj heq
    obtain ⟨_, -, rfl⟩ := List.mem_map.1 hi
    obtain ⟨_, -, rfl⟩ := List.mem_map.1 hj
    cases heq

/-- Servers of different names declare different items. -/
theorem nodup_items {ss : List Server} (h : Contract.ValidServers ss) : (items ss).Nodup := by
  induction ss with
  | nil => exact List.nodup_nil
  | cons s ss ih =>
    obtain ⟨-, hnew, hss⟩ := roster_cons_iff.1 h
    rw [items, List.flatMap_cons]
    refine List.nodup_append.2 ⟨nodup_itemsOf s, ih hss, fun i hi j hj heq => ?_⟩
    obtain ⟨s', hs', hj⟩ := List.mem_flatMap.1 hj
    refine hnew s' hs' ?_
    rw [← server_of_mem_itemsOf hi, ← server_of_mem_itemsOf hj, heq]

end FleetConfig.Export
