import FleetConfig.Proofs.Text.Encoding
import FleetConfig.Proofs.Text.Joining
import FleetConfig.Url.Host

/-!
# Delimiters do not stand in domains

The host of a web address is percent-decoded, folded, composed and decoded label by label before
its characters are checked. None of these steps drops a character that parts an address, or makes
it part of another one, so a text in which such a character stands is no domain.

## Main definitions

* `Url.delimiters` — the characters that part an address.

## Main results

* `Url.mem_of_decodeText?`, `Url.Domain.mem_of_fold?`, `Url.Domain.mem_of_meaning?` — each step
  keeps a delimiter.
* `Url.Domain.not_mem_of_folded?` — a domain has no delimiters.
-/

namespace FleetConfig.Url

/-- The characters that part an address. -/
def delimiters : List Char := [':', '@', '/', '\\', '?', '#', '[', ']']

variable {d : Char} {cs : List Char}

/-! ### Percent encoding -/

/-- A byte that is neither a percent sign nor a hexadecimal digit is no part of an encoded one. -/
theorem mem_percentDecode {b : UInt8} {bs : List UInt8} (hb : b ∈ bs) (hpercent : b ≠ 37)
    (hhex : hexValue? b = none) : b ∈ percentDecode bs := by
  fun_induction percentDecode bs with
  | case1 => cases hb
  | case2 hi lo rest h l hlo hhi ih =>
    simp only [List.mem_cons] at hb
    obtain rfl | rfl | rfl | hb := hb
    · exact absurd rfl hpercent
    · rw [hhex] at hhi
      cases hhi
    · rw [hhex] at hlo
      cases hlo
    · exact List.mem_cons_of_mem _ (ih hb)
  | case3 hi lo rest hnot ih =>
    exact List.mem_cons_of_mem _ (ih ((List.mem_cons.1 hb).resolve_left hpercent))
  | case4 short hshort ih =>
    exact List.mem_cons_of_mem _ (ih ((List.mem_cons.1 hb).resolve_left hpercent))
  | case5 c rest hc ih =>
    rw [List.mem_cons] at hb ⊢
    exact hb.imp_right ih

theorem mem_of_decodeText? {decoded : List Char} (hd : d ∈ delimiters)
    (h : decodeText? cs = some decoded) (hmem : d ∈ cs) : d ∈ decoded := by
  have hbyte : ∀ d ∈ delimiters, d.toNat < 128 ∧ UInt8.ofNat d.toNat ≠ 37 ∧
      hexValue? (UInt8.ofNat d.toNat) = none := by decide
  obtain ⟨hlt, hpercent, hhex⟩ := hbyte d hd
  obtain ⟨s, hs, rfl⟩ := Option.map_eq_some_iff.1 h
  have hbytes : Duration.Scan.encode s.toList = percentDecode (Duration.Scan.encode cs) := by
    have hdecode := Text.fromUTF8?_eq_some_iff.1 hs
    rw [← Text.toList_toUTF8, ← Text.toList_toUTF8, String.ofList_toList, ← hdecode,
      Text.toList_eq_data]
  rw [← Text.byte_mem_encode_iff hlt, hbytes]
  exact mem_percentDecode ((Text.byte_mem_encode_iff hlt).2 hmem) hpercent hhex

namespace Domain

/-! ### Composition -/

theorem isAmong_of_lt {base count n : Nat} (h : n < base) : isAmong base count n = false :=
  Bool.and_eq_false_iff.2 (.inl (decide_eq_false (Nat.not_le.2 h)))

/-- A delimiter is no part of a pair. -/
theorem pair?_of_delimiter (hd : d ∈ delimiters) (c : Char) :
    pair? d c = none ∧ pair? c d = none := by
  have hsmall : ∀ d ∈ delimiters, d.toNat < 0x100 := by decide
  have hlt := hsmall d hd
  have hfirst : ∀ row ∈ pairRows, ∀ e ∈ row.2, ∀ d ∈ delimiters, d.toNat ≠ e.1 := by
    decide +kernel
  have hsecond : ∀ row ∈ pairRows, ∀ d ∈ delimiters, d.toNat ≠ row.1 := by decide +kernel
  constructor
  · have hlisted : ((pairRows.lookup c.toNat).bind fun row => row.lookup d.toNat) = none := by
      rw [Option.bind_eq_none_iff]
      intro row hrow
      obtain ⟨front, back, hrows, -⟩ := List.lookup_eq_some_iff.1 hrow
      have hmem : (c.toNat, row) ∈ pairRows := hrows ▸ List.mem_append_right _ List.mem_cons_self
      exact List.lookup_eq_none_iff.2 fun e he => bne_iff_ne.2 (hfirst _ hmem e he d hd)
    have hsyllable : syllable? d.toNat c.toNat = none := by
      have hletter : isAmong 0x1100 firstCount d.toNat = false := isAmong_of_lt (by omega)
      have hbase : d.toNat < syllableBase := Nat.lt_trans hlt (by decide)
      rw [syllable?, hletter, isAmong_of_lt hbase]
      rfl
    rw [pair?, hlisted, hsyllable]
    rfl
  · have hlisted : pairRows.lookup d.toNat = none :=
      List.lookup_eq_none_iff.2 fun row hrow => bne_iff_ne.2 (hsecond row hrow d hd)
    have hsyllable : syllable? c.toNat d.toNat = none := by
      have hsecond : isAmong 0x1161 secondCount d.toNat = false := isAmong_of_lt (by omega)
      have hthird : isAmong 0x11A8 (thirdCount - 1) d.toNat = false := isAmong_of_lt (by omega)
      rw [syllable?, hsecond, hthird, Bool.and_false, Bool.and_false]
      rfl
    rw [pair?, hlisted, hsyllable]
    rfl

/-- Composing keeps a delimiter. -/
theorem mem_composeAfter (hd : d ∈ delimiters) {start : Char} {marks : List Char}
    (h : d = start ∨ d ∈ marks ∨ d ∈ cs) : d ∈ composeAfter start marks cs := by
  fun_induction composeAfter start marks cs with
  | case1 start marks =>
    rw [List.mem_cons]
    exact h.imp_right fun h => h.resolve_right List.not_mem_nil
  | case2 start marks c cs whole hpair ih =>
    have hpair : pair? start c = some whole := by
      split at hpair
      · exact hpair
      · cases hpair
    obtain rfl | h | h := h
    · rw [(pair?_of_delimiter hd c).1] at hpair
      cases hpair
    · exact ih (.inr (.inl h))
    · obtain rfl | h := List.mem_cons.1 h
      · rw [(pair?_of_delimiter hd start).2] at hpair
        cases hpair
      · exact ih (.inr (.inr h))
  | case3 start marks c cs _ _ ih =>
    rw [List.mem_append, List.mem_cons]
    obtain h | h | h := h
    · exact .inl (.inl h)
    · exact .inl (.inr h)
    · exact .inr (ih ((List.mem_cons.1 h).imp_right .inr))
  | case4 start marks c cs _ _ ih =>
    obtain h | h | h := h
    · exact ih (.inl h)
    · exact ih (.inr (.inl (List.mem_append_left _ h)))
    · obtain rfl | h := List.mem_cons.1 h
      · exact ih (.inr (.inl (List.mem_append_right _ (List.mem_singleton_self _))))
      · exact ih (.inr (.inr h))

theorem mem_compose (hd : d ∈ delimiters) (h : d ∈ cs) : d ∈ compose cs := by
  fun_induction compose cs with
  | case1 => cases h
  | case2 c cs _ => exact mem_composeAfter hd ((List.mem_cons.1 h).imp_right .inr)
  | case3 c cs _ ih =>
    rw [List.mem_cons] at h ⊢
    exact h.imp_right ih

theorem mem_insertMark_iff {c : Char} : d ∈ insertMark c cs ↔ d = c ∨ d ∈ cs := by
  fun_induction insertMark c cs with
  | case1 => exact List.mem_cons
  | case2 x xs _ ih => rw [List.mem_cons, ih, List.mem_cons, or_left_comm]
  | case3 => exact List.mem_cons

/-- Ordering marks keeps all characters. -/
theorem mem_ordered_iff : d ∈ ordered cs ↔ d ∈ cs := by
  fun_induction ordered cs with
  | case1 => exact Iff.rfl
  | case2 c cs _ ih => rw [List.mem_cons, List.mem_cons, ih]
  | case3 c cs _ ih => rw [mem_insertMark_iff, List.mem_cons, ih]

theorem mem_composed (hd : d ∈ delimiters) (h : d ∈ cs) : d ∈ composed cs := by
  have hparts : ∀ d ∈ delimiters, d ∈ parts d := by decide
  exact mem_compose hd (mem_ordered_iff.2 (List.mem_flatMap.2 ⟨d, h, hparts d hd⟩))

/-! ### Folding -/

/-- What is made of an item is among the results. -/
theorem exists_of_mapM {α β : Type} {f : α → Option β} {as : List α} {bs : List β} {a : α}
    (h : as.mapM f = some bs) (ha : a ∈ as) : ∃ b ∈ bs, f a = some b := by
  induction as generalizing bs with
  | nil => cases ha
  | cons x as ih =>
    rw [List.mapM_cons] at h
    obtain ⟨b, hb, h⟩ := Option.bind_eq_some_iff.1 h
    obtain ⟨bs', hbs', h⟩ := Option.bind_eq_some_iff.1 h
    cases h
    obtain rfl | ha := List.mem_cons.1 ha
    · exact ⟨b, List.mem_cons_self, hb⟩
    · obtain ⟨b', hb', heq⟩ := ih hbs' ha
      exact ⟨b', List.mem_cons_of_mem b hb', heq⟩

theorem mem_of_fold? {folded : List Char} (hd : d ∈ delimiters) (h : fold? cs = some folded)
    (hmem : d ∈ cs) : d ∈ folded := by
  have hself : ∀ d ∈ delimiters, foldChar? d = some [d] := by decide
  obtain ⟨parts, hparts, rfl⟩ := Option.map_eq_some_iff.1 h
  obtain ⟨part, hpart, heq⟩ := exists_of_mapM hparts hmem
  rw [hself d hd] at heq
  cases heq
  exact mem_composed hd (List.mem_flatten.2 ⟨_, hpart, List.mem_singleton_self d⟩)

/-! ### Labels -/

namespace Punycode

theorem mem_of_readDelta {bias position weight sum sum' : Nat} {rest : List Char}
    (hdigit : digit? d = none) (h : readDelta bias cs position weight sum = some (sum', rest))
    (hmem : d ∈ cs) : d ∈ rest := by
  fun_induction readDelta bias cs position weight sum with
  | case1 => cases h
  | case2 => cases h
  | case3 => cases h
  | case4 c cs position weight sum n hn =>
    obtain ⟨-, rfl⟩ := Prod.mk.inj (Option.some.inj h)
    refine (List.mem_cons.1 hmem).resolve_left ?_
    rintro rfl
    rw [hdigit] at hn
    cases hn
  | case5 c cs position weight sum n hn _ _ _ _ ih =>
    refine ih h ((List.mem_cons.1 hmem).resolve_left ?_)
    rintro rfl
    rw [hdigit] at hn
    cases hn

/-- All digits are read, and no character is dropped. -/
theorem mem_of_insertAll {out decoded : List Char} {code index bias : Nat}
    (hdigit : digit? d = none) (h : insertAll cs out code index bias = some decoded)
    (hmem : d ∈ cs ∨ d ∈ out) : d ∈ decoded := by
  fun_induction insertAll cs out code index bias with
  | case1 out =>
    cases h
    exact hmem.resolve_left List.not_mem_nil
  | case2 => cases h
  | case3 => cases h
  | case4 out code index bias c cs index' rest hread count code' place _ ih =>
    refine ih h (hmem.imp (mem_of_readDelta hdigit hread) fun hout => ?_)
    rw [← List.take_append_drop place out, List.mem_append] at hout
    rw [List.mem_append, List.mem_cons]
    exact hout.imp_right .inr

theorem mem_cutAtLastDash (hdash : d ≠ '-') (hmem : d ∈ cs) :
    d ∈ (cutAtLastDash cs).2 ∨ d ∈ (cutAtLastDash cs).1 := by
  have hcs : cs = (cs.reverse.dropWhile (· != '-')).reverse ++
      (cs.reverse.takeWhile (· != '-')).reverse := by
    rw [← List.reverse_append, List.takeWhile_append_dropWhile, List.reverse_reverse]
  have hcut : d ∈ (cs.reverse.takeWhile (· != '-')).reverse ∨
      d ∈ cs.take (cs.length - (cs.reverse.takeWhile (· != '-')).reverse.length - 1) := by
    generalize hafter : (cs.reverse.takeWhile (· != '-')).reverse = after at hcs ⊢
    cases hbefore : cs.reverse.dropWhile (· != '-') with
    | nil =>
      rw [hbefore, List.reverse_nil, List.nil_append] at hcs
      exact .inl (hcs ▸ hmem)
    | cons x before =>
      -- What stops the run is a dash.
      have hx : x = '-' := by
        have hstop := List.head?_dropWhile_not (· != '-') cs.reverse
        rw [hbefore] at hstop
        simpa using hstop
      rw [hbefore, List.reverse_cons, List.append_assoc] at hcs
      rw [hcs, List.mem_append, List.singleton_append, List.mem_cons] at hmem
      have htake : cs.take (cs.length - after.length - 1) = before.reverse := by
        rw [hcs, List.length_append, List.length_append, List.length_singleton,
          show before.reverse.length + (1 + after.length) - after.length - 1 =
            before.reverse.length by omega, List.take_left]
      rw [htake]
      obtain hmem | hmem | hmem := hmem
      · exact .inr hmem
      · exact absurd (hmem.trans hx) hdash
      · exact .inl hmem
  rw [cutAtLastDash]
  split
  · exact .inl hmem
  · exact hcut

theorem mem_of_decode? {decoded : List Char} (hdigit : digit? d = none) (hdash : d ≠ '-')
    (h : decode? cs = some decoded) (hmem : d ∈ cs) : d ∈ decoded := by
  have hdecode : decode? cs = if (cutAtLastDash cs).1.all (fun c => c.toNat < 128) then
      insertAll (cutAtLastDash cs).2 (cutAtLastDash cs).1 128 0 72 else none := rfl
  rw [hdecode] at h
  split at h
  · exact mem_of_insertAll hdigit h (mem_cutAtLastDash hdash hmem)
  · cases h

end Punycode

theorem mem_of_meaning? {label : List Char} (hd : d ∈ delimiters) (h : meaning? cs = some label)
    (hmem : d ∈ cs) : d ∈ label := by
  have hfacts : ∀ d ∈ delimiters, d ∉ "xn--".toList ∧ Punycode.digit? d = none ∧ d ≠ '-' := by
    decide
  obtain ⟨hmark, hdigit, hdash⟩ := hfacts d hd
  rw [meaning?] at h
  split at h
  · rename_i encoded hencoded
    rw [Text.afterStart?_eq_some_iff.1 hencoded, List.mem_append] at hmem
    split at h
    · cases h
    · exact Punycode.mem_of_decode? hdigit hdash (Option.filter_eq_some_iff.1 h).1
        (hmem.resolve_left hmark)
  · cases h
    exact hmem

/-! ### Domains -/

/-- A domain has no delimiters. -/
theorem not_mem_of_folded? {domain : List Char} (hd : d ∈ delimiters)
    (h : folded? cs = some domain) : d ∉ cs := by
  intro hmem
  have hfacts : ∀ d ∈ delimiters, d ≠ '.' ∧ isForbidden d = true := by decide
  obtain ⟨hdot, hforbidden⟩ := hfacts d hd
  obtain ⟨decoded, hdecoded, h⟩ := Option.bind_eq_some_iff.1 h
  obtain ⟨folded, hfolded, h⟩ := Option.bind_eq_some_iff.1 h
  obtain ⟨labels, hlabels, h⟩ := Option.bind_eq_some_iff.1 h
  have hmem : d ∈ folded := mem_of_fold? hd hfolded (mem_of_decodeText? hd hdecoded hmem)
  rw [← Text.intercalate_pieces '.' folded] at hmem
  obtain heq | ⟨piece, hpiece, hmem⟩ := Text.mem_of_mem_intercalate hmem
  · exact hdot heq
  obtain ⟨label, hlabel, heq⟩ := exists_of_mapM hlabels hpiece
  split at h
  · rename_i hfit
    rw [Bool.and_eq_true, List.all_eq_true] at hfit
    have hlabel := hfit.1 label hlabel
    rw [isLabel, Bool.and_eq_true, Bool.and_eq_true, Bool.and_eq_true, Bool.not_eq_true',
      List.any_eq_false] at hlabel
    exact hlabel.1.1.1 d (mem_of_meaning? hd heq hmem) hforbidden
  · cases h

end Domain

end FleetConfig.Url
