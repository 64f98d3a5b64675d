import FleetConfig.Proofs.Files.Trees
import Mathlib.Data.List.Induction

/-!
# Where paths come to lead

A path leads nowhere while a directory on its way is missing. When the directory is made, the path
leads to the place that it names; and if it goes back over `..` on its way, there may have been a
file at that place all the time. So two paths that name one place are seen to do so only if both
lead there already, or if they are spelled alike.

## Main definitions

* `FileTree.Detours` — a path names the place of a file, and a directory on its way is missing.
* `FileTree.sameFile` — the comparison of two paths, as a function of the tree.
* `FileTree.ToldApart` — if two paths name one place, the comparison can see it.
* `FileTree.Plain` — a path without dots as names.

## Main results

* `FileTree.resolve_of_grown` — a path that comes to lead somewhere has led there, or has lacked a
  directory.
* `FileTree.not_detours` — a path without `..` makes no detour.
* `FileTree.toldApart_of_plain` — plain paths are told apart.
* `FileTree.destination_ne` — paths that are told apart and found different name different places.
-/

namespace FleetConfig.FileTree

variable {t t' : FileTree} {place : Place} {e : Entry} {p q : Path}

/-! ### Making directories -/

/-- A path that names the place of a file does not lead there, because a directory on its way is
missing. -/
def Detours (t : FileTree) (p : Path) : Prop :=
  t.resolve p = .error .missing ∧ ∃ bytes, t.get? (t.destination p) = some (.file bytes)

private theorem walk_of_grown (h : Grown t t') {start : Place} {names : List (List Char)}
    (hwalk : t'.walk start names = .ok place) :
    t.walk start names = .ok place ∨ t.walk start names = .error .missing := by
  induction names generalizing start with
  | nil => exact .inl hwalk
  | cons name names ih =>
    rw [walk] at hwalk ⊢
    split at hwalk
    · cases hwalk
    · cases hwalk
    · rename_i hdir
      rcases h.get? start with heq | ⟨hnone, -⟩
      · rw [← heq, hdir]
        split at hwalk
        · cases hwalk
        · rename_i hname
          simp only [if_neg hname]
          exact ih hwalk
      · rw [hnone]
        exact .inr rfl

/-- A path that comes to lead somewhere has led there, or has lacked a directory. -/
theorem resolve_of_grown (h : Grown t t') (hp : t'.resolve p = .ok place) :
    t.resolve p = .ok place ∨ t.resolve p = .error .missing := by
  obtain ⟨hempty, hspelling, hwalk⟩ := resolve_eq_ok_iff.1 hp
  rw [h.workingDir] at hwalk
  rw [resolve, if_neg hempty, hspelling]
  exact walk_of_grown h hwalk

/-- A file that could not be read when its path came to lead to it was at the end of a detour. -/
theorem detours_of_read_eq_error {fault : FileFault} {bytes : ByteArray} (h : Grown t t')
    (hp : t'.resolve p = .ok place) (hfile : t.get? place = some (.file bytes))
    (hread : t.read p = .error fault) : t.Detours p := by
  obtain rfl := eq_destination_of_resolve hp
  rw [h.destination_eq] at hp hfile
  rcases resolve_of_grown h hp with hresolve | hmissing
  · rw [read_eq_ok_iff.2 ⟨_, find?_eq_some_iff.2 ⟨hresolve, hfile⟩⟩] at hread
    cases hread
  · exact ⟨hmissing, bytes, hfile⟩

/-- Every file and directory lies in directories. -/
def InDirs (t : FileTree) : Prop :=
  ∀ place name e, t.get? (place ++ [name]) = some e → t.get? place = some .dir

theorem InDirs.get?_append (h : t.InDirs) (hplace : t.get? place = none) (names : List String) :
    t.get? (place ++ names) = none := by
  induction names using List.reverseRecOn with
  | nil => rwa [List.append_nil]
  | append_singleton names name ih =>
    rw [← List.append_assoc]
    cases hget : t.get? (place ++ names ++ [name]) with
    | none => rfl
    | some e =>
      rw [h _ _ _ hget] at ih
      cases ih

theorem exists_follow_eq {name : List Char} (h : name ≠ ['.', '.']) (place : Place) :
    ∃ names, follow place name = place ++ names := by
  by_cases hstay : name = [] ∨ name = ['.']
  · exact ⟨[], by rw [follow, if_pos hstay, List.append_nil]⟩
  · exact ⟨[String.ofList name], by rw [follow, if_neg hstay, if_neg h]⟩

private theorem exists_foldl_follow_eq {names : List (List Char)}
    (h : ∀ name ∈ names, name ≠ ['.', '.']) (start : Place) :
    ∃ rest, names.foldl follow start = start ++ rest := by
  induction names generalizing start with
  | nil => exact ⟨[], (List.append_nil start).symm⟩
  | cons name names ih =>
    obtain ⟨hname, hnames⟩ := List.forall_mem_cons.1 h
    obtain ⟨first, hfirst⟩ := exists_follow_eq hname start
    obtain ⟨rest, hrest⟩ := ih hnames (follow start name)
    exact ⟨first ++ rest, by rw [List.foldl_cons, hrest, hfirst, List.append_assoc]⟩

/-- Beyond a missing directory there is nothing. -/
private theorem get?_of_walk_missing (h : t.InDirs) {start : Place} {names : List (List Char)}
    (hnames : ∀ name ∈ names, name ≠ ['.', '.']) (hwalk : t.walk start names = .error .missing) :
    t.get? (names.foldl follow start) = none := by
  induction names generalizing start with
  | nil => cases hwalk
  | cons name names ih =>
    rw [walk] at hwalk
    split at hwalk
    · rename_i hnone
      obtain ⟨rest, hrest⟩ := exists_foldl_follow_eq hnames start
      rw [hrest]
      exact h.get?_append hnone rest
    · exact absurd (Except.error.inj hwalk) (by decide)
    · split at hwalk
      · exact absurd (Except.error.inj hwalk) (by decide)
      · exact ih (List.forall_mem_cons.1 hnames).2 hwalk

private theorem checkSpelling_ne_missing : p.checkSpelling ≠ .error .missing := by
  rw [Path.checkSpelling]
  split
  · exact fun h => absurd (Except.error.inj h) (by decide)
  · split
    · exact fun h => absurd (Except.error.inj h) (by decide)
    · exact nofun

/-- A path that does not go back makes no detour. -/
theorem not_detours (h : t.InDirs) (hworking : t.get? t.workingDir = some .dir)
    (hp : ∀ name ∈ p.segments, name ≠ ['.', '.']) : ¬t.Detours p := by
  rintro ⟨hmissing, bytes, hfile⟩
  have hnotFile : t.get? (t.destination p) = none ∨ t.get? (t.destination p) = some .dir := by
    rw [resolve] at hmissing
    by_cases hempty : p.text = ""
    · have hsegments : p.segments = [[]] := by rw [Path.segments, hempty]; rfl
      have habsolute : p.isAbsolute = false := by rw [Path.isAbsolute, hempty]; rfl
      rw [destination, hsegments, habsolute]
      exact .inr hworking
    · rw [if_neg hempty] at hmissing
      cases hspelling : p.checkSpelling with
      | error fault =>
        rw [hspelling] at hmissing
        have hfault : fault = .missing := Except.error.inj hmissing
        exact absurd (hfault ▸ hspelling) checkSpelling_ne_missing
      | ok u =>
        rw [hspelling] at hmissing
        exact .inl (get?_of_walk_missing h hp hmissing)
  rcases hnotFile with hnone | hdir
  · rw [hnone] at hfile
    cases hfile
  · rw [hdir] at hfile
    cases hfile

/-! ### Comparing paths -/

/-- The comparison of two paths: by where they lead if both lead somewhere, else by their names. -/
def sameFile (t : FileTree) (p q : Path) : Bool :=
  match t.find? p, t.find? q with
  | some a, some b => a.1 == b.1
  | _, _ => p.sameNames q

/-- If two paths name one place, the comparison can see it: both lead there, or their names are the
same. -/
def ToldApart (t : FileTree) (p q : Path) : Prop :=
  t.destination p = t.destination q →
    (t.find? p).isSome = true ∧ (t.find? q).isSome = true ∨ p.sameNames q = true

/-- A path whose names are all names of files or directories. -/
def Plain (p : Path) : Prop := ∀ name ∈ p.segments, name ≠ ['.'] ∧ name ≠ ['.', '.']

instance (p : Path) : Decidable (Plain p) :=
  inferInstanceAs (Decidable (∀ name ∈ p.segments, name ≠ ['.'] ∧ name ≠ ['.', '.']))

private theorem map_fst_stagesAfter {names : List (List Char)} (h : ∀ name ∈ names, name ≠ ['.'])
    (first : Bool) (before : List Char) :
    (Path.stagesAfter first before names).map Prod.fst = names.filter (· ≠ []) := by
  induction names generalizing first before with
  | nil => rfl
  | cons name names ih =>
    obtain ⟨hname, hnames⟩ := List.forall_mem_cons.1 h
    rw [Path.stagesAfter]
    by_cases hempty : name = []
    · rw [if_pos (.inl hempty), ih hnames, List.filter_cons_of_neg (by simpa using hempty)]
    · rw [if_neg (by simp [hempty, hname]), List.map_cons, ih hnames,
        List.filter_cons_of_pos (by simpa using hempty)]

private theorem foldl_follow_of_plain {names : List (List Char)}
    (h : ∀ name ∈ names, name ≠ ['.'] ∧ name ≠ ['.', '.']) (start : Place) :
    names.foldl follow start = start ++ (names.filter (· ≠ [])).map String.ofList := by
  induction names generalizing start with
  | nil => exact (List.append_nil start).symm
  | cons name names ih =>
    obtain ⟨hname, hnames⟩ := List.forall_mem_cons.1 h
    rw [List.foldl_cons, ih hnames]
    by_cases hempty : name = []
    · rw [follow, if_pos (.inl hempty), List.filter_cons_of_neg (by simpa using hempty)]
    · rw [follow, if_neg (by simp [hempty, hname.1]), if_neg hname.2,
        List.filter_cons_of_pos (by simpa using hempty), List.map_cons, List.append_assoc]
      rfl

/-- A plain path names the place of its components. -/
theorem Plain.destination_eq (hp : Plain p) :
    t.destination p = (if p.isAbsolute then [] else t.workingDir) ++ p.components := by
  rw [destination, foldl_follow_of_plain hp, Path.components, Path.stages, List.map_map]
  congr 1
  rw [← map_fst_stagesAfter (fun name hname => (hp name hname).1) true [], List.map_map]
  rfl

/-- Plain paths that both start at the root, or both do not, are told apart. -/
theorem toldApart_of_plain (hp : Plain p) (hq : Plain q) (hstart : p.isAbsolute = q.isAbsolute) :
    t.ToldApart p q := by
  intro heq
  rw [hp.destination_eq, hq.destination_eq, hstart] at heq
  have hnames : p.components = q.components := List.append_cancel_left heq
  right
  rw [Path.sameNames, hstart, hnames, beq_self_eq_true, beq_self_eq_true, Bool.and_self]

/-- Paths that are told apart and found different name different places. -/
theorem destination_ne (h : t.ToldApart p q) (hdiffer : t.sameFile p q = false) :
    t.destination p ≠ t.destination q := by
  intro heq
  refine Bool.eq_false_iff.1 hdiffer ?_
  have hseen := h heq
  rw [sameFile]
  cases hp : t.find? p with
  | none =>
    rw [hp] at hseen
    exact hseen.resolve_left fun hboth => Bool.false_ne_true hboth.1
  | some a =>
    cases hq : t.find? q with
    | none =>
      rw [hq] at hseen
      exact hseen.resolve_left fun hboth => Bool.false_ne_true hboth.2
    | some b =>
      rw [beq_iff_eq, eq_destination_of_resolve (find?_eq_some_iff.1 hp).1,
        eq_destination_of_resolve (find?_eq_some_iff.1 hq).1, heq]

end FleetConfig.FileTree
