import FleetConfig.Proofs.Text.Joining
import FleetConfig.Proofs.Url.Authority

/-!
# The parts of an address

An address with a host is a scheme, slashes, an authority and what follows it. There the first
question mark or number sign parts the path from a query or a fragment. Dot segments are resolved
when a path is read. Without them a path is read as it is written, so one that is read as empty, or
as a single slash, holds slashes alone.

## Main definitions

* `Url.isDots` — dot segments.
* `Url.Parts`, `Url.Parts.WellFormed` — the parts behind a scheme.

## Main results

* `Url.not_endsPath_of_withRest` — without a query and a fragment the path is all that is left.
* `Url.isSlash_of_readPath` — a path that is read as none.
* `Url.exists_parts_of_parse` — the parts that an address with a host is made of.
-/

namespace FleetConfig.Url

variable {family : Family} {rest : List Char}

/-! ### Characters that count -/

theorem mem_dropWhile {p : Char → Bool} {c : Char} {cs : List Char} (hc : c ∈ cs)
    (hp : p c = false) : c ∈ cs.dropWhile p := by
  rw [← List.takeWhile_append_dropWhile (p := p) (l := cs), List.mem_append] at hc
  refine hc.resolve_left fun hfront => ?_
  have htrue : p c = true := List.mem_takeWhile_imp hfront
  rw [hp] at htrue
  cases htrue

/-- Tabs and the ends of lines are dropped at the ends as well. -/
theorem isBreak_eq_false {c : Char} (h : isEdge c = false) : isBreak c = false := by
  rw [← Bool.not_eq_true] at h ⊢
  refine mt (fun hbreak => ?_) h
  simp only [isBreak, Bool.or_eq_true, beq_iff_eq] at hbreak
  obtain (rfl | rfl) | rfl := hbreak <;> rfl

/-- What is no blank is not dropped. -/
theorem mem_clean {c : Char} {cs : List Char} (hc : c ∈ cs) (hedge : isEdge c = false) :
    c ∈ clean cs := by
  refine List.mem_filter.2 ⟨?_, by rw [isBreak_eq_false hedge]; rfl⟩
  exact List.mem_reverse.2 (mem_dropWhile (List.mem_reverse.2 (mem_dropWhile hc hedge)) hedge)

/-- From a text without blanks nothing is dropped. -/
theorem clean_of_no_blanks {cs : List Char} (h : ∀ c ∈ cs, isEdge c = false) : clean cs = cs := by
  have hdrop {ds : List Char} (hds : ds ⊆ cs) : ([] ++ ds).dropWhile isEdge = ds :=
    Text.dropWhile_run nofun fun c hc => h c (hds (List.mem_of_head? hc))
  have hfront := hdrop (List.Subset.refl cs)
  have hback := hdrop (List.reverse_subset.2 (List.Subset.refl cs))
  have hbreak : ∀ c ∈ cs, (!isBreak c) = true := fun c hc => by
    rw [isBreak_eq_false (h c hc)]
    rfl
  rw [List.nil_append] at hfront hback
  rw [clean, hfront, hback, List.reverse_reverse, List.filter_eq_self.2 hbreak]

/-! ### Queries and fragments -/

/-- Without a query and a fragment no character ends the path. -/
theorem not_endsPath_of_withRest {url : Url} (hquery : (url.withRest family rest).query = none)
    (hfragment : (url.withRest family rest).fragment = none) :
    ∀ c ∈ rest, endsPath c = false := by
  change queryOf (rest.dropWhile (!endsPath ·)) = none at hquery
  change fragmentOf (rest.dropWhile (!endsPath ·)) = none at hfragment
  have htail : rest.dropWhile (!endsPath ·) = [] := by
    cases htail : rest.dropWhile (!endsPath ·) with
    | nil => rfl
    | cons c tail =>
      rw [htail] at hquery hfragment
      have hends : endsPath c = true := by
        have hhead := List.head?_dropWhile_not (!endsPath ·) rest
        rw [htail] at hhead
        simpa using hhead
      obtain hc | hc := Bool.or_eq_true _ _ ▸ hends
      · rw [beq_iff_eq.1 hc] at hquery
        cases hquery
      · rw [beq_iff_eq.1 hc] at hfragment
        cases hfragment
  intro c hc
  simpa using List.dropWhile_eq_nil_iff.1 htail c hc

/-! ### Paths -/

/-- Holds of the segments that are resolved when a path is read. -/
def isDots (segment : List Char) : Bool := isSingleDot segment || isDoubleDot segment

/-- Segments that are no dot segments are kept. -/
theorem resolve_of_no_dots {stack ss : List (List Char)} (h : ∀ s ∈ ss, isDots s = false) :
    resolve stack ss = stack.reverse ++ ss := by
  induction ss generalizing stack with
  | nil => exact (List.append_nil _).symm
  | cons s ss ih =>
    obtain ⟨hsingle, hdouble⟩ := Bool.or_eq_false_iff.1 (h s List.mem_cons_self)
    have hss : ∀ s ∈ ss, isDots s = false := fun s hs => h s (List.mem_cons_of_mem _ hs)
    cases ss with
    | nil => simp [resolve, hsingle, hdouble]
    | cons next ss =>
      rw [resolve, if_neg (by simp [hdouble]), if_neg (by simp [hsingle]), ih hss,
        List.reverse_cons, List.append_assoc]
      rfl

/-- A slash at the front leaves an empty segment in front of it. -/
theorem segments_cons_of_isSlash {c : Char} {cs : List Char} (h : isSlash family c = true) :
    segments family (c :: cs) = [] :: segments family cs := by
  rw [segments, List.map_cons, if_pos h, Text.pieces, if_pos rfl]
  rfl

/-- Without backslashes the segments are the pieces between slashes. -/
theorem segments_eq_pieces {cs : List Char} (h : '\\' ∉ cs) :
    segments family cs = Text.pieces '/' cs := by
  have hupright : ∀ c ∈ cs, (if isSlash family c then '/' else c) = c := by
    intro c hc
    split
    · rename_i hslash
      exact ((mem_of_isSlash hslash).resolve_right fun heq => h (heq ▸ hc)).symm
    · rfl
  rw [segments, List.map_congr_left hupright, List.map_id']

/-- A path of a text's own segments is the text behind a slash, with its slashes upright. If it is
no more than a slash, the text holds slashes alone, and nothing unless it is a file's. -/
theorem isSlash_of_pathOf {text : List Char}
    (h : pathOf family (segments family text) = [] ∨
      pathOf family (segments family text) = ['/']) :
    (∀ c ∈ text, isSlash family c = true) ∧ (family ≠ .file → text = []) := by
  have hupright : (segments family text).flatMap ('/' :: ·) =
      '/' :: text.map fun c => if isSlash family c then '/' else c := Text.flatMap_pieces _ _
  rw [pathOf, hupright] at h
  split at h
  · rename_i hfile
    refine ⟨fun c hc => ?_, fun hne => absurd hfile hne⟩
    have hnil : ('/' :: text.map fun c => if isSlash family c then '/' else c).dropWhile
        (· == '/') = [] := List.tail_eq_of_cons_eq (h.resolve_left (List.cons_ne_nil _ _))
    have hall := List.dropWhile_eq_nil_iff.1 hnil (if isSlash family c then '/' else c)
      (List.mem_cons_of_mem _ (List.mem_map_of_mem hc))
    split at hall
    · rename_i hslash
      exact hslash
    · rw [isSlash, hall]
      rfl
  · have hnil : text = [] := List.map_eq_nil_iff.1
      (List.tail_eq_of_cons_eq (h.resolve_left (List.cons_ne_nil _ _)))
    rw [hnil]
    exact ⟨List.forall_mem_nil _, fun _ => rfl⟩

/-- A path without dot segments that is read as empty, or as a slash, holds slashes alone; only a
file's path can hold more than one. -/
theorem isSlash_of_readPath (hpath : readPath family rest = [] ∨ readPath family rest = ['/'])
    (hdots : ∀ segment ∈ segments family rest, isDots segment = false) :
    (∀ c ∈ rest, isSlash family c = true) ∧ (family ≠ .file → rest.length ≤ 1) := by
  cases rest with
  | nil => exact ⟨List.forall_mem_nil _, fun _ => Nat.zero_le 1⟩
  | cons c cs =>
    rw [readPath] at hpath
    split at hpath
    · rename_i hslash
      rw [segments_cons_of_isSlash hslash] at hdots
      rw [resolve_of_no_dots fun s hs => hdots s (List.mem_cons_of_mem _ hs)] at hpath
      obtain ⟨hcs, hnil⟩ := isSlash_of_pathOf hpath
      refine ⟨List.forall_mem_cons.2 ⟨hslash, hcs⟩, fun hfile => ?_⟩
      rw [hnil hfile]
      exact Nat.le_refl 1
    · rw [resolve_of_no_dots hdots] at hpath
      obtain ⟨hcs, hnil⟩ := isSlash_of_pathOf hpath
      exact ⟨hcs, fun hfile => absurd (hnil hfile) (List.cons_ne_nil _ _)⟩

/-! ### Addresses with a host -/

/-- What stands behind the colon of a scheme, part by part. -/
structure Parts where
  slashes : List Char
  /-- The user information and its at sign. -/
  user : List Char
  host : List Char
  /-- The port and its colon. -/
  port : List Char
  tail : List Char

namespace Parts

/-- The parts together. -/
def text (p : Parts) : List Char :=
  p.slashes ++ (p.user ++ (p.host ++ (p.port ++ p.tail)))

/-- Slashes may lean either way, user information may be absent, and so may a port or its digits.
There is always a host. -/
structure WellFormed (p : Parts) : Prop where
  slashes : ∀ c ∈ p.slashes, c = '/' ∨ c = '\\'
  user : p.user = [] ∨ p.user.getLast? = some '@'
  user_chars : ∀ c ∈ p.user, c ∉ ['/', '?', '#']
  host : IsHost p.host
  port : IsPortPart p.port
  tail : ∀ c ∈ p.tail.head?, c ∈ ['/', '\\', '?', '#']

/-- If what follows the authority starts neither a query nor a fragment, no part does. -/
theorem WellFormed.endsPath_eq_false {p : Parts} (h : p.WellFormed)
    (htail : ∀ c ∈ p.tail, endsPath c = false) : ∀ c ∈ p.text, endsPath c = false := by
  intro c hmem
  rw [← Bool.not_eq_true]
  intro hends
  have hc : c ∈ ['?', '#'] := by
    simpa only [endsPath, Bool.or_eq_true, beq_iff_eq, List.mem_cons, List.not_mem_nil, or_false]
      using hends
  have hfacts : ∀ c ∈ ['?', '#'], ¬(c = '/' ∨ c = '\\') ∧ c ∈ ['/', '?', '#'] ∧
      c ∈ ['@', '/', '\\', '?', '#'] ∧ c ≠ ':' ∧ c.isDigit = false := by decide
  obtain ⟨hslash, huser, hhost, hcolon, hdigit⟩ := hfacts c hc
  simp only [text, List.mem_append] at hmem
  obtain hmem | hmem | hmem | hmem | hmem := hmem
  · exact hslash (h.slashes c hmem)
  · exact h.user_chars c hmem huser
  · exact h.host.not_mem hhost hmem
  · exact h.port.not_mem hcolon hdigit hmem
  · rw [htail c hmem] at hends
    cases hends

end Parts

/-- Slashes and an authority with a host are well formed. -/
theorem exists_parts_of_takeAuthority {slashes userinfo host tail cs : List Char}
    (hslashes : ∀ c ∈ slashes, c = '/' ∨ c = '\\')
    (h : takeAuthority family cs = .ok (userinfo, some host, tail)) :
    ∃ p : Parts, slashes ++ cs = p.text ∧ p.WellFormed ∧ p.tail = tail := by
  obtain ⟨user, text, port, hcs, huser, hchars, hhost, hport, htail⟩ := exists_of_takeAuthority h
  have hat : user = [] ∨ user.getLast? = some '@' := huser.imp_right fun h => by
    rw [h]
    exact List.getLast?_concat
  exact ⟨⟨slashes, user, text, port, tail⟩, congrArg (slashes ++ ·) hcs, ⟨hslashes, hat,
    fun c hc => not_mem_of_endsAuthority (hchars c hc), hhost, hport, htail⟩, rfl⟩

/-- What follows the slashes of a file with a host is the host and what ends it. -/
theorem exists_of_parseFile {url : Url} {cs : List Char} (h : parseFile cs = .ok url)
    (hhost : url.host ≠ none) :
    ∃ (host tail : List Char) (base : Url), cs = host ++ tail ∧ IsHost host ∧
      (∀ c ∈ tail.head?, endsAuthority .file c = true) ∧ url = base.withRest .file tail := by
  have hcs := List.takeWhile_append_dropWhile (p := (!endsAuthority .file ·)) (l := cs)
  have hhead : ∀ c ∈ (cs.dropWhile (!endsAuthority .file ·)).head?,
      endsAuthority .file c = true := by
    intro c hc
    have hnot := List.head?_dropWhile_not (!endsAuthority .file ·) cs
    rw [hc] at hnot
    simpa using hnot
  rw [parseFile] at h
  split at h
  · cases h
    exact absurd rfl hhost
  · obtain ⟨host, hparse, h⟩ := bind_eq_ok.1 h
    split at h
    · cases h
      exact absurd rfl hhost
    · cases h
      exact ⟨_, _, _, hcs.symm, (Host.isHost_of_parse hparse).1, hhead, rfl⟩

/-- What stands behind the colon of a scheme is well-formed parts if there is a host. -/
theorem exists_parts_of_parseAfterScheme {scheme : String} {cs : List Char} {url : Url}
    (h : parseAfterScheme scheme cs = .ok url) (hhost : url.host ≠ none) :
    ∃ (p : Parts) (base : Url) (family : Family), cs = p.text ∧ p.WellFormed ∧
      url = base.withRest family p.tail := by
  unfold parseAfterScheme at h
  split at h
  · -- On the web there may be any number of slashes.
    rename_i cs _ _ _
    obtain ⟨⟨userinfo, host, tail⟩, hread, h⟩ := bind_eq_ok.1 h
    cases h
    obtain ⟨host, rfl⟩ := Option.ne_none_iff_exists'.1 hhost
    have hslashes : ∀ c ∈ cs.takeWhile (isSlash .web), c = '/' ∨ c = '\\' := fun c hc =>
      mem_of_isSlash (List.mem_takeWhile_imp hc)
    obtain ⟨p, hp, hwell, rfl⟩ := exists_parts_of_takeAuthority hslashes hread
    rw [List.takeWhile_append_dropWhile] at hp
    exact ⟨p, _, _, hp, hwell, rfl⟩
  · rename_i c d rest _
    split at h
    · rename_i hslashes
      rw [Bool.and_eq_true] at hslashes
      obtain ⟨host, tail, base, rfl, hhost', htail, rfl⟩ := exists_of_parseFile h hhost
      refine ⟨⟨[c, d], [], host, [], tail⟩, base, _, rfl, ?_, rfl⟩
      exact {
        slashes := by
          simp only [List.forall_mem_cons]
          exact ⟨mem_of_isSlash hslashes.1, mem_of_isSlash hslashes.2, nofun⟩
        user := .inl rfl
        user_chars := nofun
        host := hhost'
        port := .none
        tail := fun c hc => mem_of_endsAuthority (htail c hc) }
    · cases h
      exact absurd rfl hhost
  · cases h
    exact absurd rfl hhost
  · obtain ⟨⟨userinfo, host, tail⟩, hread, h⟩ := bind_eq_ok.1 h
    cases h
    obtain ⟨host, rfl⟩ := Option.ne_none_iff_exists'.1 hhost
    have hslashes : ∀ c ∈ ['/', '/'], c = '/' ∨ c = '\\' := by decide
    obtain ⟨p, hp, hwell, rfl⟩ := exists_parts_of_takeAuthority hslashes hread
    exact ⟨p, _, _, hp, hwell, rfl⟩
  · cases h
    exact absurd rfl hhost

/-- An address with a host, without the characters that do not count, is a scheme, a colon and
well-formed parts. -/
theorem exists_parts_of_parse {s : String} {url : Url} (h : parse s = .ok url)
    (hhost : url.host ≠ none) :
    ∃ (scheme : List Char) (p : Parts) (base : Url) (family : Family),
      clean s.toList = scheme ++ ':' :: p.text ∧ IsScheme scheme ∧ p.WellFormed ∧
        url = base.withRest family p.tail := by
  obtain ⟨⟨scheme, rest⟩, hscheme, h⟩ := bind_eq_ok.1 h
  obtain ⟨name, hclean, hname, -⟩ := exists_of_takeScheme hscheme
  obtain ⟨p, base, family, rfl, hwell, hurl⟩ := exists_parts_of_parseAfterScheme h hhost
  exact ⟨name, p, base, family, hclean, hname, hwell, hurl⟩

end FleetConfig.Url
