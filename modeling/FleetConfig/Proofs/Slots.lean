import FleetConfig.Proofs.Roster
import Mathlib.Data.List.InsertIdx
import Mathlib.Data.List.Nodup

/-!
# Named things in their slots

In a list of things with different names, a change at the index of a name is a change of that name:
the thing of the name is replaced in its slot, taken out, or put between the others. The others keep
their content and their order, and the names stay different.

## Main definitions

* `Named.others` — the things that have other names.
* `Named.put` — a thing in the slot of its name, or at the end.
* `Named.putFirst`, `Named.rest` — the same if names are not different, where the first thing of a
  name counts: it is put there, or left out.

## Main results

* `Named.set_eq_put`, `Named.append_eq_put`, `Named.eraseIdx_eq_others` — changes at an index.
* `Named.find?_putFirst`, `Named.getElem?_putFirst` — the first thing of a name, and all else.
* `Named.exists_insertIdx_eq`, `Named.perm_insertIdx_others` — a thing that is put between others.
* `Named.nodup_put`, `Named.nodup_others`, `Named.nodup_insertIdx_others` — names stay different.
-/

namespace FleetConfig.Named

variable {α : Type} {name : α → String} {xs : List α} {x y : α} {m n : String}
  {i j : Nat}

/-- The things that have other names. -/
def others (name : α → String) (n : String) (xs : List α) : List α := xs.filter (name · ≠ n)

/-- Puts a thing into the slot of its name, or at the end if no thing has the name. -/
def put (name : α → String) (x : α) (xs : List α) : List α :=
  if name x ∈ xs.map name then xs.map fun y => if name y = name x then x else y else xs ++ [x]

theorem name_ne_of_mem_others (hy : y ∈ others name n xs) : name y ≠ n :=
  of_decide_eq_true (List.mem_filter.1 hy).2

theorem mem_names_others (hne : m ≠ n) : m ∈ (others name n xs).map name ↔ m ∈ xs.map name := by
  simp only [List.mem_map, others, List.mem_filter, decide_eq_true_eq]
  constructor
  · rintro ⟨y, ⟨hy, -⟩, hname⟩
    exact ⟨y, hy, hname⟩
  · rintro ⟨y, hy, rfl⟩
    exact ⟨y, ⟨hy, hne⟩, rfl⟩

/-! ### Changes at an index -/

/-- A name has an index if a thing has it. -/
theorem isSome_findIdx?_iff :
    (xs.findIdx? fun y => name y == n).isSome = true ↔ n ∈ xs.map name := by
  simp only [List.findIdx?_isSome, List.any_eq_true, beq_iff_eq, List.mem_map]

theorem mem_names_of_findIdx? (hi : (xs.findIdx? fun y => name y == n) = some i) :
    n ∈ xs.map name :=
  isSome_findIdx?_iff.1 (Option.isSome_of_eq_some hi)

/-- If names are different, a thing is found by its name. -/
theorem find?_of_mem (h : (xs.map name).Nodup) (hx : x ∈ xs) :
    xs.find? (fun y => name y == name x) = some x := by
  have hsome : (xs.find? fun y => name y == name x).isSome = true :=
    List.find?_isSome.2 ⟨x, hx, beq_self_eq_true _⟩
  obtain ⟨y, hy⟩ := Option.isSome_iff_exists.1 hsome
  have hname := List.find?_some hy
  rw [hy, List.inj_on_of_nodup_map h (List.mem_of_find?_eq_some hy) hx (beq_iff_eq.1 hname)]

/-- Different names have different indices. -/
theorem name_getElem_eq_iff (h : (xs.map name).Nodup)
    (hi : (xs.findIdx? fun y => name y == n) = some i) (hj : j < xs.length) :
    name xs[j] = n ↔ i = j := by
  obtain ⟨hlt, rfl⟩ := name_of_findIdx? hi
  have hi' : i < (xs.map name).length := by rwa [List.length_map]
  have hj' : j < (xs.map name).length := by rwa [List.length_map]
  have hinj : (xs.map name)[j] = (xs.map name)[i] ↔ j = i := h.getElem_inj_iff
  rw [List.getElem_map, List.getElem_map] at hinj
  rw [hinj, eq_comm]

/-- What is put at the index of its name is put into the slot of its name. -/
theorem set_eq_put (h : (xs.map name).Nodup)
    (hi : (xs.findIdx? fun y => name y == name x) = some i) : xs.set i x = put name x xs := by
  rw [put, if_pos (mem_names_of_findIdx? hi)]
  refine List.ext_getElem (by simp only [List.length_set, List.length_map]) fun j hj _ => ?_
  rw [List.length_set] at hj
  simp only [List.getElem_set, List.getElem_map, name_getElem_eq_iff h hi hj]

/-- What has a new name is put at the end. -/
theorem append_eq_put (hi : (xs.findIdx? fun y => name y == name x) = none) :
    xs ++ [x] = put name x xs := by
  refine (if_neg fun hmem => ?_).symm
  obtain ⟨y, hy, hname⟩ := List.mem_map.1 hmem
  exact name_ne_of_findIdx? hi y hy hname

theorem others_eq_self (h : ∀ y ∈ xs, name y ≠ n) : others name n xs = xs :=
  List.filter_eq_self.2 fun y hy => decide_eq_true (h y hy)

/-- What is left without the index of a name are the others. -/
theorem eraseIdx_eq_others (h : (xs.map name).Nodup)
    (hi : (xs.findIdx? fun y => name y == n) = some i) : xs.eraseIdx i = others name n xs := by
  obtain ⟨hlt, hname⟩ := name_of_findIdx? hi
  have hroster : Roster name (fun _ => True) xs := ⟨h, fun _ _ => trivial⟩
  rw [← others_eq_self (hroster.name_ne_of_mem_eraseIdx hi)]
  have hsplit : xs = xs.take i ++ xs[i] :: xs.drop (i + 1) := by simp
  conv_rhs => rw [hsplit]
  rw [List.eraseIdx_eq_take_drop_succ, others, others, List.filter_append, List.filter_append,
    List.filter_cons_of_neg (by simpa using hname)]

theorem others_others : others name n (others name n xs) = others name n xs :=
  others_eq_self fun _ => name_ne_of_mem_others

theorem others_append_cons (h : name x = n) (front back : List α) :
    others name n (front ++ x :: back) = others name n (front ++ back) := by
  rw [others, others, List.filter_append, List.filter_append,
    List.filter_cons_of_neg (by simpa using h)]

/-- A thing of another name stays where it is. -/
theorem mem_put_of_ne (hy : y ∈ xs) (hne : name y ≠ name x) : y ∈ put name x xs := by
  rw [put]
  split
  · exact List.mem_map.2 ⟨y, hy, if_neg hne⟩
  · exact List.mem_append_left _ hy

/-! ### The first of a name -/

/-- The things but for the first one of a name. -/
def rest (name : α → String) (n : String) (xs : List α) : List α := xs.eraseP (name · == n)

/-- What is left without the index of a name is all but the first thing of the name. -/
theorem eraseIdx_eq_rest (hi : (xs.findIdx? fun y => name y == n) = some i) :
    xs.eraseIdx i = rest name n xs := by
  rw [rest, List.eraseP_eq_eraseIdx, hi]

/-- Where no thing has a name, nothing is left out. -/
theorem rest_eq_self (hnone : (xs.findIdx? fun y => name y == n) = none) :
    rest name n xs = xs := by
  rw [rest, List.eraseP_eq_eraseIdx, hnone]

/-- If names are different, the first thing of a name is the only one. -/
theorem rest_eq_others (h : (xs.map name).Nodup) (n : String) :
    rest name n xs = others name n xs := by
  cases hi : xs.findIdx? fun y => name y == n with
  | some i => rw [← eraseIdx_eq_rest hi, eraseIdx_eq_others h hi]
  | none => rw [rest_eq_self hi, others_eq_self (name_ne_of_findIdx? hi)]

/-- Puts a thing in the place of the first one of its name, or at the end if no thing has the name.
-/
def putFirst (name : α → String) (x : α) (xs : List α) : List α :=
  match xs.findIdx? fun y => name y == name x with
  | some i => xs.set i x
  | none => xs ++ [x]

theorem putFirst_of_some (hi : (xs.findIdx? fun y => name y == name x) = some i) :
    putFirst name x xs = xs.set i x := by
  rw [putFirst, hi]

theorem putFirst_of_none (hnone : (xs.findIdx? fun y => name y == name x) = none) :
    putFirst name x xs = xs ++ [x] := by
  rw [putFirst, hnone]

theorem putFirst_eq_self (hi : (xs.findIdx? fun y => name y == name x) = some i)
    (hsame : xs[i]? = some x) : putFirst name x xs = xs := by
  obtain ⟨hlt, rfl⟩ := List.getElem?_eq_some_iff.1 hsame
  rw [putFirst_of_some hi, List.set_getElem_self]

/-- If names are different, the first thing of a name is the only one. -/
theorem putFirst_eq_put (h : (xs.map name).Nodup) : putFirst name x xs = put name x xs := by
  cases hi : xs.findIdx? fun y => name y == name x with
  | some i => rw [putFirst_of_some hi, set_eq_put h hi]
  | none => rw [putFirst_of_none hi, append_eq_put hi]

/-- What is put is found by its name. -/
theorem find?_putFirst (name : α → String) (x : α) (xs : List α) :
    (putFirst name x xs).find? (fun y => name y == name x) = some x := by
  cases hi : xs.findIdx? fun y => name y == name x with
  | some i =>
    obtain ⟨hlt, -, hbefore⟩ := List.findIdx?_eq_some_iff_getElem.1 hi
    have hlength : i < (xs.set i x).length := by rwa [List.length_set]
    rw [putFirst_of_some hi]
    refine List.find?_eq_some_iff_getElem.2 ⟨beq_self_eq_true _, i, hlength,
      List.getElem_set_self hlength, fun j hj => ?_⟩
    rw [List.getElem_set_ne (Nat.ne_of_gt hj), Bool.not_eq_true']
    exact Bool.eq_false_iff.2 (hbefore j hj)
  | none =>
    have hnew := List.find?_eq_none.2 fun y hy => mt beq_iff_eq.1 (name_ne_of_findIdx? hi y hy)
    rw [putFirst_of_none hi, List.find?_append, hnew, Option.none_or, List.find?_singleton,
      if_pos (beq_self_eq_true _)]

/-- To put what a change makes of the first thing of a name is to change that thing. -/
theorem putFirst_eq_modify {f : α → α} (hname : name (f y) = n)
    (hfind : xs.find? (name · == n) = some y) :
    putFirst name (f y) xs = xs.modify (xs.findIdx (name · == n)) f := by
  rw [List.find?_eq_bind_findIdx?_getElem?, Option.bind_eq_some_iff] at hfind
  obtain ⟨i, hi, hy⟩ := hfind
  have hi' : (xs.findIdx? fun z => name z == name (f y)) = some i := by rw [hname, hi]
  rw [putFirst_of_some hi', List.findIdx_eq_getD_findIdx?, hi, Option.getD_some,
    List.modify_eq_set_getElem?, hy]
  rfl

/-- Everything but the first thing of the name stays in its place. -/
theorem getElem?_putFirst (hj : j ≠ xs.findIdx fun y => name y == name x) :
    (putFirst name x xs)[j]? = xs[j]? := by
  rw [List.findIdx_eq_getD_findIdx?] at hj
  cases hi : xs.findIdx? fun y => name y == name x with
  | some i =>
    rw [hi, Option.getD_some] at hj
    rw [putFirst_of_some hi, List.getElem?_set_ne (Ne.symm hj)]
  | none =>
    rw [hi, Option.getD_none] at hj
    rw [putFirst_of_none hi]
    rcases Nat.lt_or_gt_of_ne hj with hlt | hgt
    · exact List.getElem?_append_left hlt
    · have hlength : (xs ++ [x]).length ≤ j := by
        rw [List.length_append, List.length_singleton]
        exact hgt
      rw [List.getElem?_eq_none hlength, List.getElem?_eq_none (Nat.le_of_lt hgt)]

/-- How many things there are but for the first one of a name. -/
theorem length_rest (name : α → String) (n : String) (xs : List α) :
    (rest name n xs).length =
      xs.length - if (xs.findIdx? fun y => name y == n).isSome then 1 else 0 := by
  cases hi : xs.findIdx? fun y => name y == n with
  | none =>
    rw [rest_eq_self hi]
    rfl
  | some i =>
    obtain ⟨hlt, -⟩ := name_of_findIdx? hi
    rw [← eraseIdx_eq_rest hi, List.length_eraseIdx_of_lt hlt]
    rfl

/-! ### Things between the others -/

theorem insertIdx_length_append (front back : List α) (x : α) :
    (front ++ back).insertIdx front.length x = front ++ x :: back := by
  induction front with
  | nil => rfl
  | cons y front ih =>
    rw [List.cons_append, List.length_cons, List.insertIdx_succ_cons, ih, List.cons_append]

/-- What is inserted stands between what is in front and what is behind. -/
theorem exists_insertIdx_eq (hj : j ≤ xs.length) (x : α) : ∃ front back,
    front.length = j ∧ front ++ back = xs ∧ xs.insertIdx j x = front ++ x :: back := by
  have hlength := List.length_take_of_le hj
  have hinsert := insertIdx_length_append (xs.take j) (xs.drop j) x
  rw [List.take_append_drop, hlength] at hinsert
  exact ⟨xs.take j, xs.drop j, hlength, List.take_append_drop j xs, hinsert⟩

/-- If names are different, the others are those in front of a thing and those behind it. -/
theorem exists_others_eq (h : (xs.map name).Nodup) (hx : x ∈ xs) :
    ∃ front back, xs = front ++ x :: back ∧ others name (name x) xs = front ++ back := by
  obtain ⟨front, back, rfl⟩ := List.append_of_mem hx
  rw [List.map_append, List.map_cons] at h
  have hnew := (List.nodup_middle.1 h).notMem
  rw [← List.map_append] at hnew
  refine ⟨front, back, rfl, ?_⟩
  rw [others_append_cons rfl]
  exact others_eq_self fun y hy heq => hnew (heq ▸ List.mem_map_of_mem hy)

/-- The others around a thing are the others that it is put between. -/
theorem others_insertIdx_others (hj : j ≤ (others name (name x) xs).length) :
    others name (name x) ((others name (name x) xs).insertIdx j x) =
      others name (name x) xs := by
  obtain ⟨front, back, -, hothers, hinsert⟩ := exists_insertIdx_eq hj x
  rw [hinsert, others_append_cons rfl, hothers, others_others]

/-- A thing between the others makes up what there was, in another order. -/
theorem perm_insertIdx_others (h : (xs.map name).Nodup) (hx : x ∈ xs)
    (hj : j ≤ (others name (name x) xs).length) :
    ((others name (name x) xs).insertIdx j x).Perm xs := by
  obtain ⟨front, back, hxs, hothers⟩ := exists_others_eq h hx
  refine (List.perm_insertIdx x _ hj).trans ?_
  rw [hothers, hxs]
  exact List.perm_middle.symm

/-! ### Names stay different -/

theorem nodup_others (h : (xs.map name).Nodup) : ((others name n xs).map name).Nodup :=
  (List.filter_sublist.map name).nodup h

theorem nodup_insertIdx_others (h : (xs.map name).Nodup) (j : Nat) :
    (((others name (name x) xs).insertIdx j x).map name).Nodup := by
  have hroster : Roster name (fun _ => True) (others name (name x) xs) :=
    ⟨nodup_others h, fun _ _ => trivial⟩
  exact (hroster.insertIdx trivial (fun _ hy => name_ne_of_mem_others hy) j).distinct

theorem nodup_put (h : (xs.map name).Nodup) : ((put name x xs).map name).Nodup := by
  rw [put]
  split
  · have hnames : (xs.map fun y => if name y = name x then x else y).map name = xs.map name := by
      rw [List.map_map]
      refine List.map_congr_left fun y _ => ?_
      rw [Function.comp_apply]
      split
      · rename_i hname
        exact hname.symm
      · rfl
    rwa [hnames]
  · rename_i hnew
    rw [List.map_append, List.map_singleton, ← List.concat_eq_append]
    exact h.concat hnew

end FleetConfig.Named
