import FleetConfig.Proofs.Files.Trees
import FleetConfig.Proofs.Number.Digits
import FleetConfig.Proofs.Text.Joining

/-!
# Replacing a file through a draft

On a disk a file is replaced in steps: the new bytes are written to a draft beside it, which then
takes its name, or is removed if it cannot. The path of the draft goes through the same directories
as that of the file. So while nothing bears the name of the draft, the steps come to putting the
file in its place at once, and fail where this fails.

## Main definitions

* `Path.Beside` — a path with the same segments as another, but for the last.
* `FileTree.NoDraft` — nothing bears the name of the draft of a file.

## Main results

* `Path.exists_beside_sibling`, `Path.exists_beside_draft` — siblings and drafts lead beside a path.
* `FileTree.replaceInSteps_eq` — the steps and what they come to.
-/

namespace FleetConfig

/-! ### Paths of drafts -/

namespace Path

variable {p : Path} {name child : String} {before f : List Char} {first : Bool}
  {ss front back : List (List Char)}
  {es : List (List Char × List Char)} {e : List Char × List Char}

/-- A segment that leads nowhere else. -/
def IsFiller (s : List Char) : Prop := s = [] ∨ s = ['.']

/-- There is no component among fillers only. -/
theorem isFiller_of_stagesAfter_eq_nil (h : stagesAfter first before ss = []) :
    ∀ s ∈ ss, IsFiller s := by
  induction ss generalizing first before with
  | nil => exact fun _ hs => absurd hs List.not_mem_nil
  | cons s ss ih =>
    rw [stagesAfter] at h
    split at h
    · rename_i hfiller
      exact List.forall_mem_cons.2 ⟨hfiller.imp_right And.left, ih h⟩
    · cases h

/-- A last segment adds a component, with all that stands before it, or is a filler. -/
theorem stagesAfter_concat (first : Bool) (before : List Char) (ss : List (List Char))
    (s : List Char) : stagesAfter first before (ss ++ [s]) = stagesAfter first before ss ++
      if s = [] ∨ (s = ['.'] ∧ ¬(first = true ∧ ss = [])) then []
      else [(s, before ++ (ss.flatMap (· ++ ['/']) ++ s))] := by
  induction ss generalizing first before with
  | nil => simp [stagesAfter]
  | cons s' ss ih =>
    rw [List.cons_append, stagesAfter, stagesAfter, ih]
    split <;> simp [List.append_assoc]

/-- Behind the last component there are fillers only. -/
theorem exists_of_stagesAfter_eq_concat (h : stagesAfter first before ss = es ++ [e]) :
    ∃ front back, ss = front ++ e.1 :: back ∧ (∀ s ∈ back, IsFiller s) ∧
      stagesAfter first before front = es ∧
      e.2 = before ++ (front.flatMap (· ++ ['/']) ++ e.1) ∧ e.1 ≠ [] := by
  induction ss using List.reverseRecOn generalizing es with
  | nil => cases List.append_ne_nil_of_right_ne_nil es (List.cons_ne_nil e []) h.symm
  | append_singleton ss s ih =>
    rw [stagesAfter_concat] at h
    split at h
    · rename_i hfiller
      rw [List.append_nil] at h
      obtain ⟨front, back, rfl, hback, hfront⟩ := ih h
      refine ⟨front, back ++ [s], by simp, ?_, hfront⟩
      exact List.forall_mem_append.2
        ⟨hback, List.forall_mem_singleton.2 (hfiller.imp_right And.left)⟩
    · rename_i hname
      obtain ⟨rfl, he⟩ := List.append_inj' h rfl
      cases he
      exact ⟨ss, [], rfl, fun _ hs => absurd hs List.not_mem_nil, rfl, rfl,
        fun hs => hname (.inl hs)⟩

/-- A path starts at the root if its first segment is empty and not the only one. -/
theorem isAbsolute_iff : p.isAbsolute = true ↔ ∃ s ss, p.segments = [] :: s :: ss := by
  rw [isAbsolute, beq_iff_eq, segments]
  cases p.text.toList with
  | nil =>
    refine iff_of_false nofun ?_
    rintro ⟨s, ss, ⟨⟩⟩
  | cons c cs =>
    obtain ⟨q, qs, hpieces⟩ := List.exists_cons_of_ne_nil (Text.pieces_ne_nil '/' cs)
    rw [List.head?_cons, Option.some.injEq, Text.pieces, hpieces]
    split
    · rename_i hc
      exact iff_of_true hc ⟨q, qs, rfl⟩
    · rename_i hc
      refine iff_of_false hc ?_
      rintro ⟨s, ss, ⟨⟩⟩

theorem isAbsolute_iff_of_segments {s : List Char} (h : p.segments = f :: (front ++ s :: back)) :
    p.isAbsolute = true ↔ f = [] := by
  obtain ⟨s', ss, hss⟩ := List.exists_cons_of_ne_nil
    (List.append_ne_nil_of_right_ne_nil front (List.cons_ne_nil s back))
  rw [isAbsolute_iff, h, hss]
  constructor
  · rintro ⟨_, _, heq⟩
    exact (List.cons.inj heq).1
  · rintro rfl
    exact ⟨s', ss, rfl⟩

/-- Paths with the same segments in front start at the same place. -/
theorem isAbsolute_eq_of_segments {q : Path} {s s' : List Char} (hfront : front ≠ [])
    (hp : p.segments = front ++ (ss ++ s :: back)) (hq : q.segments = front ++ [s']) :
    q.isAbsolute = p.isAbsolute := by
  obtain ⟨f, fs, rfl⟩ := List.exists_cons_of_ne_nil hfront
  rw [← List.append_assoc] at hp
  rw [Bool.eq_iff_iff, isAbsolute_iff_of_segments hp, isAbsolute_iff_of_segments hq]

/-- A path that has a name has a last component. -/
theorem exists_of_fileName? (h : p.fileName? = some name) :
    ∃ es e, stagesAfter true [] p.segments = es ++ [e] ∧ name = String.ofList e.1 ∧
      name ≠ "." ∧ name ≠ ".." := by
  rw [fileName?, Option.filter_eq_some_iff, components, stages] at h
  obtain ⟨hlast, hother⟩ := h
  obtain ⟨hdot, hdots⟩ := Bool.and_eq_true_iff.1 hother
  rcases List.eq_nil_or_concat (stagesAfter true [] p.segments) with hnil | ⟨es, e, hstages⟩
  · rw [hnil] at hlast
    cases hlast
  · rw [List.concat_eq_append] at hstages
    rw [hstages, List.map_append, List.map_append, List.map_singleton, List.map_singleton,
      List.getLast?_concat] at hlast
    exact ⟨es, e, hstages, (Option.some.inj hlast).symm, bne_iff_ne.1 hdot, bne_iff_ne.1 hdots⟩

theorem ne_of_fileName? (h : p.fileName? = some name) : name ≠ "" ∧ name ≠ "." ∧ name ≠ ".." := by
  obtain ⟨es, e, hstages, hname, hdot, hdots⟩ := exists_of_fileName? h
  obtain ⟨-, -, -, -, -, -, hne⟩ := exists_of_stagesAfter_eq_concat hstages
  refine ⟨fun hempty => hne ?_, hdot, hdots⟩
  rw [← String.toList_ofList (l := e.1), ← hname, hempty]
  rfl

theorem parent?_of_stagesAfter (h : stagesAfter true [] p.segments = es ++ [e]) :
    p.parent? = some ((es.getLast?.map fun e' => ⟨String.ofList e'.2⟩).getD p.start) := by
  rw [parent?, stages, h]
  rcases List.eq_nil_or_concat es with rfl | ⟨es', e', rfl⟩
  · rfl
  · rw [List.concat_eq_append]
    simp

/-- The name of a draft is no path. -/
theorem slash_not_mem_draftName (h : '/' ∉ name.toList) (stamp : Nat) :
    '/' ∉ (FileAccess.draftName name stamp).toList := by
  have hstamp : '/' ∉ Nat.toDigits 10 stamp := fun hdigit =>
    absurd (Number.isDigit_toDigits stamp _ hdigit) (by decide)
  simp [FileAccess.draftName, h, hstamp]

/-- A name under the start of a path is its only name. -/
theorem segments_start_join (hchild : '/' ∉ child.toList) :
    (p.start.join child).segments =
      if p.isAbsolute then [[], child.toList] else [child.toList] := by
  have hhead : child.toList.head? ≠ some '/' := fun h => hchild (List.mem_of_head? h)
  rw [start]
  split
  · have hlast : "/".toList.getLast? = some '/' := by decide
    rw [join, if_neg (not_or.2 ⟨by decide, hhead⟩), if_pos hlast, segments, String.toList_append]
    exact (Text.pieces_append List.not_mem_nil).trans
      (congrArg ([] :: ·) (Text.pieces_of_not_mem hchild))
  · rw [join, if_pos (.inl rfl), segments, Text.pieces_of_not_mem hchild]

/-- A name under a path that ends in a name follows it after a slash. -/
theorem segments_join {s : List Char} (hfront : ∀ f ∈ front, '/' ∉ f)
    (hs : '/' ∉ s) (hne : s ≠ []) (hchild : '/' ∉ child.toList) :
    ((⟨String.ofList (front.flatMap (· ++ ['/']) ++ s)⟩ : Path).join child).segments =
      front ++ [s, child.toList] := by
  have htext : String.ofList (front.flatMap (· ++ ['/']) ++ s) ≠ "" := by
    rw [ne_eq, ← String.toList_inj, String.toList_ofList]
    exact List.append_ne_nil_of_right_ne_nil _ hne
  have hhead : child.toList.head? ≠ some '/' := fun h => hchild (List.mem_of_head? h)
  have hlast : (front.flatMap (· ++ ['/']) ++ s).getLast? ≠ some '/' := by
    rw [List.getLast?_append_of_ne_nil _ hne]
    exact fun h => hs (List.mem_of_getLast? h)
  rw [join, if_neg (not_or.2 ⟨htext, hhead⟩), if_neg (by rwa [String.toList_ofList]), segments]
  simp only [String.toList_append, String.toList_ofList, List.append_assoc]
  rw [Text.pieces_flatMap_append hfront]
  show front ++ Text.pieces '/' (s ++ '/' :: child.toList) = _
  rw [Text.pieces_append hs, Text.pieces_of_not_mem hchild]

/-- One path leads beside another: behind the same segments it has a name of its own. -/
structure Beside (p q : Path) (name child : String) (front fillers back : List (List Char)) :
    Prop where
  segments : p.segments = front ++ (fillers ++ name.toList :: back)
  fillers : ∀ s ∈ fillers, IsFiller s
  back : ∀ s ∈ back, IsFiller s
  beside : q.segments = front ++ [child.toList]
  isAbsolute : q.isAbsolute = p.isAbsolute

/-- Beside a path of one component there are names under its start. -/
theorem exists_beside_of_start (h : p.segments = front ++ name.toList :: back) (hname : name ≠ "")
    (hfront : stagesAfter true [] front = []) (hback : ∀ s ∈ back, IsFiller s)
    (hchild : '/' ∉ child.toList) :
    ∃ front fillers, Beside p (p.start.join child) name child front fillers back := by
  have hjoin := segments_start_join (p := p) hchild
  cases front with
  | nil =>
    have habsolute : p.isAbsolute = false := by
      rw [← Bool.not_eq_true, isAbsolute_iff]
      rintro ⟨s, ss, heq⟩
      rw [h] at heq
      exact hname (String.toList_inj.1 (List.cons.inj heq).1)
    rw [habsolute] at hjoin
    refine ⟨[], [], h, fun _ hs => absurd hs List.not_mem_nil, hback, hjoin, ?_⟩
    rw [habsolute, ← Bool.not_eq_true, isAbsolute_iff]
    rintro ⟨s, ss, heq⟩
    have hone := List.cons.inj (hjoin.symm.trans heq)
    exact List.cons_ne_nil s ss hone.2.symm
  | cons f fs =>
    obtain ⟨-, hfillers⟩ := List.forall_mem_cons.1 (isFiller_of_stagesAfter_eq_nil hfront)
    have hf : f = [] := by
      rw [stagesAfter] at hfront
      split at hfront
      · rename_i hf
        exact hf.resolve_right fun hdot => hdot.2 rfl
      · cases hfront
    subst hf
    have habsolute : p.isAbsolute = true := (isAbsolute_iff_of_segments h).2 rfl
    rw [habsolute] at hjoin
    refine ⟨[[]], fs, h, hfillers, hback, hjoin, ?_⟩
    rw [habsolute, isAbsolute_iff]
    exact ⟨_, _, hjoin⟩

/-- Beside a path of more components there are names behind the last but one. -/
theorem beside_of_stage {s : List Char} {fillers : List (List Char)}
    (h : p.segments = front ++ s :: (fillers ++ name.toList :: back)) (hs : s ≠ [])
    (hfillers : ∀ s ∈ fillers, IsFiller s) (hback : ∀ s ∈ back, IsFiller s)
    (hchild : '/' ∉ child.toList) :
    Beside p ((⟨String.ofList (front.flatMap (· ++ ['/']) ++ s)⟩ : Path).join child) name child
      (front ++ [s]) fillers back := by
  have hslash : ∀ s ∈ p.segments, '/' ∉ s := fun s hs => Text.not_mem_of_mem_pieces hs
  rw [h, List.forall_mem_append, List.forall_mem_cons] at hslash
  have hjoin := segments_join hslash.1 hslash.2.1 hs hchild
  rw [List.append_cons] at h hjoin
  have hne : front ++ [s] ≠ [] := List.append_ne_nil_of_right_ne_nil _ (List.cons_ne_nil _ _)
  exact ⟨h, hfillers, hback, hjoin, isAbsolute_eq_of_segments hne h hjoin⟩

/-- A sibling of a path leads beside it. -/
theorem exists_beside_sibling (h : p.fileName? = some name) (hchild : '/' ∉ child.toList) :
    ∃ front fillers back, Beside p (p.sibling child) name child front fillers back := by
  obtain ⟨hempty, -⟩ := ne_of_fileName? h
  obtain ⟨es, e, hstages, rfl, -⟩ := exists_of_fileName? h
  obtain ⟨front, back, hsegments, hback, hfront, -, -⟩ := exists_of_stagesAfter_eq_concat hstages
  rw [sibling, parent?_of_stagesAfter hstages, Option.getD_some]
  rw [← String.toList_ofList (l := e.1)] at hsegments
  rcases List.eq_nil_or_concat es with rfl | ⟨es', e', rfl⟩
  · obtain ⟨front', fillers, hbeside⟩ :=
      exists_beside_of_start hsegments hempty hfront hback hchild
    exact ⟨front', fillers, back, hbeside⟩
  · rw [List.concat_eq_append] at hfront ⊢
    obtain ⟨front', fillers, rfl, hfillers, -, hpath, hne⟩ := exists_of_stagesAfter_eq_concat hfront
    rw [List.nil_append] at hpath
    rw [List.getLast?_concat, Option.map_some, Option.getD_some, hpath]
    rw [List.append_assoc, List.cons_append] at hsegments
    exact ⟨_, fillers, back, beside_of_stage hsegments hne hfillers hback hchild⟩

/-- The draft of a file leads beside it. -/
theorem exists_beside_draft (h : p.fileName? = some name) (stamp : Nat) :
    ∃ front fillers back, Beside p (FileAccess.draft stamp p) name
      (FileAccess.draftName name stamp) front fillers back := by
  have hslash : '/' ∉ name.toList := by
    obtain ⟨es, e, hstages, rfl, -⟩ := exists_of_fileName? h
    obtain ⟨front, back, hsegments, -⟩ := exists_of_stagesAfter_eq_concat hstages
    have hmem : e.1 ∈ p.segments := by
      rw [hsegments]
      exact List.mem_append_right _ List.mem_cons_self
    rw [String.toList_ofList]
    exact Text.not_mem_of_mem_pieces hmem
  rw [FileAccess.draft, h, Option.getD_some]
  exact exists_beside_sibling h (slash_not_mem_draftName hslash stamp)

end Path

/-! ### Drafts in file trees -/

namespace FileTree

open FileAccess (draft draftName)
open FleetConfig.Path (IsFiller)

variable {t u : FileTree} {p : Path} {name : String} {start dir place q : Place} {e : Entry}
  {bytes : ByteArray} {names fillers back : List (List Char)}

/-- Nothing bears the name of the draft of a file. -/
def NoDraft (t : FileTree) (p : Path) : Prop := t.find? (draft t.stamp p) = none

/-- What is put where nothing was can be taken away again. -/
theorem erase_put (h : t.get? q = none) : (t.put q e).erase q = t := by
  have hq : q ≠ [] := by
    rintro rfl
    cases h
  rw [get?, if_neg hq, List.lookup_eq_none_iff] at h
  have hentries : t.entries.filter (fun x => x.1 != q) = t.entries :=
    List.filter_eq_self.2 fun x hx => bne_iff_ne.2 (bne_iff_ne.1 (h x hx)).symm
  rw [put, erase, erase]
  dsimp only
  rw [hentries, List.filter_cons_of_neg (by simp), hentries]

/-! ### Paths beside one another -/

theorem walk_append (t : FileTree) (start : Place) (names names' : List (List Char)) :
    t.walk start (names ++ names') = t.walk start names >>= (t.walk · names') := by
  induction names generalizing start with
  | nil => rfl
  | cons name names ih =>
    rw [List.cons_append, walk, walk]
    split
    · rfl
    · rfl
    · split
      · rfl
      · exact ih _

theorem follow_of_isFiller {s : List Char} (h : IsFiller s) (place : Place) :
    follow place s = place :=
  if_pos h

/-- A filler asks for a directory, as the name behind it does. -/
theorem walk_fillers_append (h : ∀ s ∈ fillers, IsFiller s) (hne : names ≠ []) :
    t.walk start (fillers ++ names) = t.walk start names := by
  induction fillers with
  | nil => rfl
  | cons s fillers ih =>
    obtain ⟨hs, hfillers⟩ := List.forall_mem_cons.1 h
    have hshort : ¬maxName < (String.ofList s).utf8ByteSize := by
      rcases hs with rfl | rfl <;> decide
    rw [List.cons_append, walk]
    simp only [if_neg hshort, follow_of_isFiller hs, ih hfillers]
    obtain ⟨name, names, rfl⟩ := List.exists_cons_of_ne_nil hne
    cases hget : t.get? start with
    | none => rw [walk, hget]
    | some e =>
      cases e with
      | file bytes => rw [walk, hget]
      | dir => rfl

/-- Behind a name, fillers ask for nothing but a directory there. -/
theorem walk_fillers_congr (h : ∀ s ∈ back, IsFiller s) (hget : u.get? place = t.get? place) :
    u.walk place back = t.walk place back := by
  induction back with
  | nil => rfl
  | cons s back ih =>
    obtain ⟨hs, hback⟩ := List.forall_mem_cons.1 h
    rw [walk, walk, hget, follow_of_isFiller hs, ih hback]

theorem foldl_follow_fillers (h : ∀ s ∈ back, IsFiller s) (place : Place) :
    back.foldl follow place = place := by
  induction back with
  | nil => rfl
  | cons s back ih =>
    obtain ⟨hs, hback⟩ := List.forall_mem_cons.1 h
    rw [List.foldl_cons, follow_of_isFiller hs, ih hback]

theorem follow_name (hname : name ≠ "" ∧ name ≠ "." ∧ name ≠ "..") (place : Place) :
    follow place name.toList = place ++ [name] := by
  obtain ⟨hempty, hdot, hdots⟩ := hname
  have hfiller : ¬(name.toList = [] ∨ name.toList = ['.']) := by
    rintro (h | h)
    · exact hempty (String.toList_inj.1 h)
    · exact hdot (String.toList_inj.1 h)
  have hparent : name.toList ≠ ['.', '.'] := fun h => hdots (String.toList_inj.1 h)
  rw [follow, if_neg hfiller, if_neg hparent, String.ofList_toList]

theorem length_draftName (name : String) (stamp : Nat) :
    (draftName name stamp).length = name.length + (toString stamp).length + 6 := by
  simp only [draftName, String.length_append]
  have hdot : ".".length = 1 := rfl
  have htmp : ".tmp".length = 4 := rfl
  omega

theorem follow_draftName (name : String) (stamp : Nat) (place : Place) :
    follow place (draftName name stamp).toList = place ++ [draftName name stamp] := by
  have hlength := length_draftName name stamp
  refine follow_name ⟨fun h => ?_, fun h => ?_, fun h => ?_⟩ place <;> rw [h] at hlength
  · have hempty : "".length = 0 := rfl
    omega
  · have hdot : ".".length = 1 := rfl
    omega
  · have hdots : "..".length = 2 := rfl
    omega

/-- The draft of a file stands in the directory that the file is looked for in. -/
theorem exists_dir_of_draft (hname : p.fileName? = some name)
    (hdraft : t.resolve (draft t.stamp p) = .ok q) :
    ∃ dir back, q = dir ++ [draftName name t.stamp] ∧ t.get? dir = some .dir ∧
      (∀ s ∈ back, IsFiller s) ∧
      ∀ u : FileTree, u.workingDir = t.workingDir →
        (∀ r, t.get? r = some .dir → u.get? r = some .dir) →
        u.resolve p = p.checkSpelling >>= fun _ => u.walk dir (name.toList :: back) := by
  obtain ⟨front, fillers, back, hbeside⟩ := Path.exists_beside_draft hname t.stamp
  obtain ⟨-, -, hwalk⟩ := resolve_eq_ok_iff.1 hdraft
  rw [hbeside.beside, hbeside.isAbsolute, walk_append] at hwalk
  obtain ⟨dir, hdir, hlast⟩ := bind_eq_ok.1 hwalk
  rw [walk] at hlast
  split at hlast
  · cases hlast
  · cases hlast
  · rename_i hget
    split at hlast
    · cases hlast
    · rw [follow_draftName] at hlast
      cases hlast
      refine ⟨dir, back, rfl, hget, hbeside.back, fun u hworking hdirs => ?_⟩
      have htext : p.text ≠ "" := by
        intro hempty
        obtain rfl : p = ⟨""⟩ := congrArg Path.mk hempty
        cases hname
      rw [resolve, if_neg htext, hworking, hbeside.segments, walk_append,
        walk_of_dirs hdirs hdir]
      show (p.checkSpelling >>= fun _ => u.walk dir (fillers ++ name.toList :: back)) = _
      rw [walk_fillers_append hbeside.fillers (List.cons_ne_nil _ _)]

/-- A new draft is not on the way to the file, and not at its place. -/
theorem resolve_put_draft (hname : p.fileName? = some name)
    (hdraft : t.resolve (draft t.stamp p) = .ok q) (hq : t.get? q = none) (e : Entry) :
    (t.put q e).resolve p = t.resolve p ∧ ∀ place, t.resolve p = .ok place → place ≠ q := by
  obtain ⟨dir, back, rfl, hdir, hback, hresolve⟩ := exists_dir_of_draft hname hdraft
  let u := t.put (dir ++ [draftName name t.stamp]) e
  have hne : dir ++ [name] ≠ dir ++ [draftName name t.stamp] := by
    intro heq
    have hlength := length_draftName name t.stamp
    rw [← (List.cons.inj (List.append_cancel_left heq)).1] at hlength
    omega
  have hdirs : ∀ r, t.get? r = some .dir → u.get? r = some .dir := by
    refine fun r hr => get?_put_of_dir (fun hdir => ?_) hr
    cases hq.symm.trans hdir
  have hfollow := follow_name (Path.ne_of_fileName? hname) dir
  refine ⟨?_, fun place hplace => ?_⟩
  · rw [hresolve u rfl hdirs, hresolve t rfl fun _ => id]
    rw [walk, walk, hdirs dir hdir, hdir, hfollow, walk_fillers_congr hback (get?_put_of_ne hne)]
  · rw [hresolve t rfl fun _ => id] at hplace
    obtain ⟨-, -, hwalk⟩ := bind_eq_ok.1 hplace
    rw [walk_eq_foldl hwalk, List.foldl_cons, hfollow, foldl_follow_fillers hback]
    exact hne

/-! ### The steps -/

theorem update_bind {ε α : Type} (f : FileTree → Except ε FileTree)
    (g : Except ε Unit → StateM FileTree α) (t : FileTree) :
    (update f >>= g) t = match f t with
      | .ok u => g (.ok ()) u
      | .error fault => g (.error fault) t := by
  show g (update f t).1 (update f t).2 = _
  rw [update]
  cases f t <;> rfl

/-- The draft is written, and renamed or removed. -/
theorem replaceInSteps_apply (p : Path) (bytes : ByteArray) (t : FileTree) :
    replaceInSteps p bytes t =
      match t.write (draft t.stamp p) bytes with
      | .error fault => (.error (.draft (draft t.stamp p) fault), t)
      | .ok u =>
        match u.rename (draft t.stamp p) p with
        | .ok u' => (.ok (), u')
        | .error fault => (.error (.target fault), (update (·.remove (draft t.stamp p)) u).2) := by
  rw [replaceInSteps, FileAccess.replaceByDraft, update_bind]
  cases t.write (draft t.stamp p) bytes with
  | error fault => rfl
  | ok u =>
    dsimp only
    rw [update_bind]
    cases u.rename (draft t.stamp p) p <;> rfl

theorem write_eq_ok (hp : t.resolve p = .ok place) (hget : t.get? place = none) :
    t.write p bytes = .ok (t.put place (.file bytes)) := by
  rw [write, hp]
  dsimp only [bind, Except.bind]
  rw [hget]

/-- To rename a new draft is to write the file, and succeeds where this does. -/
theorem rename_draft (hname : p.fileName? = some name)
    (hdraft : t.resolve (draft t.stamp p) = .ok q) (hq : t.get? q = none)
    (hdraft' : (t.put q (.file bytes)).find? (draft t.stamp p) = some (q, .file bytes)) :
    (t.put q (.file bytes)).rename (draft t.stamp p) p = t.write p bytes := by
  obtain ⟨hresolve, hne⟩ := resolve_put_draft hname hdraft hq (.file bytes)
  obtain ⟨hold, hget⟩ := find?_eq_some_iff.1 hdraft'
  rw [rename, write, hold, hresolve]
  cases hp : t.resolve p with
  | error fault => rfl
  | ok place =>
    dsimp only [bind, Except.bind]
    rw [hget, get?_put_of_ne (hne place hp), erase_put hq]

/-- While nothing bears the name of the draft, the steps come to putting the file in its place, and
leave the files as they were if this fails. -/
theorem replaceInSteps_eq (hname : p.fileName?.isNone = false) (hdraft : t.NoDraft p)
    (bytes : ByteArray) : replaceInSteps p bytes t = update (·.replace p bytes) t := by
  obtain ⟨name, hname⟩ := Option.isSome_iff_exists.1 (Option.isNone_eq_false_iff.1 hname)
  rw [replaceInSteps_apply, update, FileTree.replace]
  cases hresolve : t.resolve (draft t.stamp p) with
  | error fault =>
    rw [write, hresolve]
    rfl
  | ok q =>
    have hq : t.get? q = none := by
      rw [NoDraft, find?, hresolve] at hdraft
      exact Option.map_eq_none_iff.1 hdraft
    have hdir : t.get? q ≠ some .dir := by
      intro hdir
      cases hq.symm.trans hdir
    have hfind := find?_put (e := .file bytes) hresolve hdir
    obtain ⟨hold, hget⟩ := find?_eq_some_iff.1 hfind
    rw [write_eq_ok hresolve hq]
    dsimp only
    rw [rename_draft hname hresolve hq hfind, update, remove_eq_ok hold hget, erase_put hq]
    cases t.write p bytes <;> rfl

example : NoDraft { entries := [], workingDir := [] } ⟨"a/b.toml"⟩ := rfl

end FileTree

end FleetConfig
