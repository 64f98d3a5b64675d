import FleetConfig.Proofs.Net.Hosts
import FleetConfig.Proofs.Results
import FleetConfig.Proofs.Url.Domains
import FleetConfig.Url.Basic
import Mathlib.Data.List.TakeWhile

/-!
# The parts in front of a path

An address is read from the front: its scheme, the user information, the host and the port. What is
read and what is left make up the address again. A host that is accepted is a version 6 address in
brackets, or has no character that parts an address.

## Main definitions

* `Url.IsScheme`, `Url.IsHost`, `Url.IsPortPart` — schemes, hosts, and ports with their colons.

## Main results

* `Url.exists_of_takeScheme` — the scheme and the rest.
* `Url.Host.isHost_of_parse`, `Url.Host.isHost_of_parseOpaque` — which hosts are accepted.
* `Url.exists_of_takeAuthority` — user information, host, port and rest.
-/

namespace FleetConfig.Url

variable {family : Family} {cs text rest : List Char}

/-! ### Schemes -/

/-- A scheme starts with a letter and has letters, digits, `+`, `-` and `.` alone. -/
structure IsScheme (cs : List Char) : Prop where
  head : ∃ c, cs.head? = some c ∧ c.isAlpha = true
  chars : ∀ c ∈ cs, c.isAlphanum = true ∨ c = '+' ∨ c = '-' ∨ c = '.'

theorem isSchemeChar_iff {c : Char} :
    isSchemeChar c = true ↔ c.isAlphanum = true ∨ c = '+' ∨ c = '-' ∨ c = '.' := by
  simp only [isSchemeChar, Bool.or_eq_true, beq_iff_eq, or_assoc]

theorem IsScheme.not_mem {c : Char} (h : IsScheme cs) (hc : isSchemeChar c = false) : c ∉ cs := by
  intro hmem
  rw [isSchemeChar_iff.2 (h.chars c hmem)] at hc
  cases hc

/-- The scheme stands in front of the first colon. -/
theorem exists_of_takeScheme {scheme : String} (h : takeScheme cs = .ok (scheme, rest)) :
    ∃ name, cs = name ++ ':' :: rest ∧ IsScheme name ∧ scheme = (String.ofList name).toLower := by
  rw [takeScheme] at h
  split at h
  · rename_i rest' hhead hrest
    cases h
    refine ⟨cs.takeWhile isSchemeChar, ?_, ⟨?_, fun c hc => ?_⟩, rfl⟩
    · rw [← hrest, List.takeWhile_append_dropWhile]
    · obtain _ | ⟨c, cs⟩ := cs
      · cases hhead
      · have halpha : c.isAlpha = true := hhead
        have hscheme : isSchemeChar c = true := by
          simp [isSchemeChar, Char.isAlphanum, halpha]
        exact ⟨c, by rw [List.takeWhile_cons_of_pos hscheme]; rfl, halpha⟩
    · exact isSchemeChar_iff.1 (List.mem_takeWhile_imp hc)
  · cases h

/-! ### Hosts -/

/-- The host of an address as it is written: a version 6 address in brackets, or a text without the
characters that part an address. -/
inductive IsHost : List Char → Prop
  | ipv6 {inner : List Char} (h : Net.WritesIpv6 inner) : IsHost ('[' :: (inner ++ [']']))
  | plain {host : List Char} (hne : host ≠ []) (h : ∀ c ∈ host, c ∉ delimiters) : IsHost host

theorem IsHost.ne_nil (h : IsHost cs) : cs ≠ [] := by
  cases h with
  | ipv6 => exact List.cons_ne_nil _ _
  | plain hne => exact hne

/-- Between brackets a colon is no delimiter. -/
theorem IsHost.not_mem {d : Char} (h : IsHost cs) (hd : d ∈ ['@', '/', '\\', '?', '#']) :
    d ∉ cs := by
  have hfacts : ∀ d ∈ ['@', '/', '\\', '?', '#'], d ∈ delimiters ∧ Number.isHexDigit d = false ∧
      d ≠ ':' ∧ d ≠ '.' ∧ d ≠ '[' ∧ d ≠ ']' := by decide
  obtain ⟨hdelimiter, hhex, hcolon, hdot, hopen, hclose⟩ := hfacts d hd
  cases h with
  | ipv6 h =>
    rw [List.mem_cons, List.mem_append, List.mem_singleton, not_or, not_or]
    exact ⟨hopen, h.not_mem hhex hcolon hdot, hclose⟩
  | plain _ h => exact fun hmem => h d hmem hdelimiter

theorem IsHost.getLast?_ne (h : IsHost cs) : cs.getLast? ≠ some ':' := by
  cases h with
  | @ipv6 inner =>
    rw [← List.cons_append, List.getLast?_concat]
    decide
  | plain _ h => exact fun hlast => h ':' (List.mem_of_getLast? hlast) List.mem_cons_self

namespace Host

theorem isHost_of_parseBracketed {host : List Char} (h : parseBracketed cs = .ok host) :
    IsHost ('[' :: cs) ∧ host = '[' :: cs := by
  rw [parseBracketed] at h
  split at h
  · rename_i hclosed
    rw [Bool.and_eq_true, decide_eq_true_eq] at hclosed
    obtain ⟨hlast, hinner⟩ := hclosed
    cases h
    refine ⟨?_, rfl⟩
    rw [← List.dropLast_append_getLast? _ hlast]
    exact .ipv6 (Net.isIpv6_iff.1 hinner)
  · cases h

/-- On the web a host is a version 6 address in brackets or a domain. -/
theorem isHost_of_parse {host : List Char} (h : parse cs = .ok host) : IsHost cs ∧ host ≠ [] := by
  unfold parse at h
  split at h
  · cases h
  · obtain ⟨hhost, rfl⟩ := isHost_of_parseBracketed h
    exact ⟨hhost, List.cons_ne_nil _ _⟩
  · rename_i hne _
    rw [parseDomain] at h
    split at h
    · cases h
    · rename_i domain hdomain
      split_ifs at h with hempty hnumber
      cases h
      refine ⟨.plain hne fun c hc hd => Domain.not_mem_of_folded? hd hdomain hc, ?_⟩
      exact mt List.isEmpty_iff.2 hempty

/-- Outside the web a host is taken as it is written. -/
theorem isHost_of_parseOpaque {host : List Char} (h : parseOpaque cs = .ok host)
    (hne : host ≠ []) : IsHost cs := by
  unfold parseOpaque at h
  split at h
  · exact (isHost_of_parseBracketed h).1
  · split at h
    · cases h
    · rename_i hforbidden
      cases h
      rw [Bool.not_eq_true, List.any_eq_false] at hforbidden
      refine .plain hne fun c hc hd => hforbidden c hc ?_
      have hfacts : ∀ d ∈ delimiters, isForbidden d = true := by decide
      exact hfacts c hd

end Host

/-! ### The end of an authority -/

theorem mem_of_isSlash {c : Char} (h : isSlash family c = true) : c = '/' ∨ c = '\\' := by
  simp only [isSlash, Bool.or_eq_true, Bool.and_eq_true, beq_iff_eq] at h
  exact h.imp_right And.left

theorem mem_of_endsAuthority {c : Char} (h : endsAuthority family c = true) :
    c ∈ ['/', '\\', '?', '#'] := by
  simp only [endsAuthority, Bool.or_eq_true, beq_iff_eq] at h
  simp only [List.mem_cons, List.not_mem_nil, or_false]
  obtain (h | h) | h := h
  · exact (mem_of_isSlash h).imp_right .inl
  · exact .inr (.inr (.inl h))
  · exact .inr (.inr (.inr h))

/-- What is left out is the backslash, which ends no authority outside the web. -/
theorem not_mem_of_endsAuthority {c : Char} (h : endsAuthority family c = false) :
    c ∉ ['/', '?', '#'] := by
  intro hc
  have hfacts : ∀ c ∈ ['/', '?', '#'], endsAuthority family c = true := by cases family <;> decide
  rw [hfacts c hc] at h
  cases h

/-! ### User information -/

/-- User information stands in front of an at sign, and the at sign behind it is the last one. -/
theorem exists_of_takeUserinfo {userinfo : List Char}
    (h : takeUserinfo family cs = .ok (userinfo, rest)) :
    ∃ user, cs = user ++ rest ∧ (user = [] ∨ user = userinfo ++ ['@']) ∧
      ∀ c ∈ user, endsAuthority family c = false := by
  have hcs := List.takeWhile_append_dropWhile (p := (!endsAuthority family ·)) (l := cs)
  have hchars : ∀ c ∈ cs.takeWhile (!endsAuthority family ·), endsAuthority family c = false := by
    intro c hc
    have hfree : (!endsAuthority family c) = true :=
      List.mem_takeWhile_imp (p := (!endsAuthority family ·)) hc
    rwa [Bool.not_eq_true'] at hfree
  rw [takeUserinfo] at h
  split at h
  · cases h
    exact ⟨[], rfl, .inl rfl, nofun⟩
  · rename_i hcut
    obtain ⟨hauthority, -⟩ := Text.cutLast_eq_some_iff.1 hcut
    rw [hauthority] at hcs hchars
    split at h
    · rename_i hempty
      cases h
      rw [List.isEmpty_iff] at hempty
      rw [hempty] at hcs
      exact ⟨['@'], hcs.symm, .inr rfl, hchars⟩
    · cases h
  · rename_i userinfo' host _ hcut
    obtain ⟨hauthority, -⟩ := Text.cutLast_eq_some_iff.1 hcut
    rw [hauthority] at hcs hchars
    cases h
    refine ⟨userinfo ++ ['@'], ?_, .inr rfl, fun c hc => hchars c ?_⟩
    · refine hcs.symm.trans ?_
      simp
    · rw [List.append_cons]
      exact List.mem_append_left _ hc

/-! ### Host and port -/

theorem append_of_takeHost (family : Family) (inBrackets : Bool) (cs : List Char) :
    (takeHost family inBrackets cs).1 ++ (takeHost family inBrackets cs).2 = cs := by
  fun_induction takeHost family inBrackets cs with
  | case1 => rfl
  | case2 => rfl
  | case3 b c cs hc host rest heq ih =>
    rw [heq] at ih
    exact congrArg (c :: ·) ih

/-- What follows a host ends the authority, or is a colon. -/
theorem head_of_takeHost (family : Family) (inBrackets : Bool) (cs : List Char) :
    ∀ c ∈ (takeHost family inBrackets cs).2.head?, endsAuthority family c = true ∨ c = ':' := by
  fun_induction takeHost family inBrackets cs with
  | case1 => exact nofun
  | case2 b c cs hc =>
    intro x hx
    cases hx
    rw [Bool.or_eq_true, Bool.and_eq_true, beq_iff_eq] at hc
    exact hc.imp_right And.left
  | case3 b c cs hc host rest heq ih =>
    rw [heq] at ih
    exact ih

/-- A port with its colon; its digits may be absent. -/
inductive IsPortPart : List Char → Prop
  | none : IsPortPart []
  | digits {ds : List Char} (hdigits : ∀ c ∈ ds, c.isDigit = true)
      (hle : Number.ofDigits 10 ds ≤ 65535) : IsPortPart (':' :: ds)

theorem IsPortPart.not_mem {c : Char} (h : IsPortPart cs) (hcolon : c ≠ ':')
    (hdigit : c.isDigit = false) : c ∉ cs := by
  cases h with
  | none => exact List.not_mem_nil
  | digits hdigits =>
    refine List.not_mem_cons_of_ne_of_not_mem hcolon fun hmem => ?_
    rw [hdigits c hmem] at hdigit
    cases hdigit

/-- What follows a host and a port ends the authority. -/
theorem exists_of_skipPort {tail : List Char} (h : skipPort rest = .ok tail)
    (hrest : ∀ c ∈ rest.head?, endsAuthority family c = true ∨ c = ':') :
    ∃ port, rest = port ++ tail ∧ IsPortPart port ∧
      ∀ c ∈ tail.head?, c ∈ ['/', '\\', '?', '#'] := by
  unfold skipPort at h
  split at h
  · rename_i cs
    have hcs := List.takeWhile_append_dropWhile (p := Char.isDigit) (l := cs)
    have hport (hle : ¬65535 < Number.ofDigits 10 (cs.takeWhile Char.isDigit)) :
        IsPortPart (':' :: cs.takeWhile Char.isDigit) :=
      .digits (fun c hc => List.mem_takeWhile_imp hc) (Nat.le_of_not_lt hle)
    dsimp only at h
    split at h
    · cases h
    · rename_i hle
      split at h
      · rename_i hend
        cases h
        rw [hend] at hcs
        refine ⟨_, by rw [List.cons_append, hcs], hport hle, fun x hx => ?_⟩
        cases hx
      · rename_i c cs' hcut
        split at h
        · rename_i hc
          cases h
          refine ⟨_, by rw [List.cons_append, hcs], hport hle, fun x hx => ?_⟩
          rw [hcut] at hx
          cases hx
          exact List.contains_iff_mem.1 hc
        · cases h
  · rename_i hcolon
    cases h
    refine ⟨[], rfl, .none, fun c hc => ?_⟩
    obtain _ | ⟨c, cs⟩ := rest
    · cases hc
    cases hc
    obtain hends | rfl := hrest c rfl
    · exact mem_of_endsAuthority hends
    · exact absurd rfl (hcolon cs)

/-- An authority with a host is user information, a host that is accepted and a port. -/
theorem exists_of_takeAuthority {userinfo host tail : List Char}
    (h : takeAuthority family cs = .ok (userinfo, some host, tail)) :
    ∃ user text port, cs = user ++ (text ++ (port ++ tail)) ∧
      (user = [] ∨ user = userinfo ++ ['@']) ∧ (∀ c ∈ user, endsAuthority family c = false) ∧
      IsHost text ∧ IsPortPart port ∧ ∀ c ∈ tail.head?, c ∈ ['/', '\\', '?', '#'] := by
  obtain ⟨⟨userinfo', rest⟩, huser, hread⟩ := bind_eq_ok.1 h
  obtain ⟨user, hcs, hat, hchars⟩ := exists_of_takeUserinfo huser
  have htext := append_of_takeHost family false rest
  have hhead := head_of_takeHost family false rest
  dsimp only at hread
  generalize takeHost family false rest = parts at htext hhead hread
  obtain ⟨text, rest'⟩ := parts
  obtain ⟨host', hhost, hread⟩ := bind_eq_ok.1 hread
  -- A colon behind an empty host is an error.
  split at hread
  · cases hread
  · obtain ⟨tail', hskip, hread⟩ := bind_eq_ok.1 hread
    obtain ⟨port, hport, hpart, htail⟩ := exists_of_skipPort hskip hhead
    -- Without a host there is an error, or none is given.
    split_ifs at hread with hempty hcredentials
    · cases hread
    · cases hread
      rw [List.isEmpty_iff] at hempty
      refine ⟨user, text, port, by rw [← hport, htext, hcs], hat, hchars, ?_, hpart, htail⟩
      split at hhost
      · exact Host.isHost_of_parseOpaque hhost hempty
      · exact (Host.isHost_of_parse hhost).1

end FleetConfig.Url
