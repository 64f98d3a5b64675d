import FleetConfig.Net.Origin
import FleetConfig.Proofs.Net.Hosts
import FleetConfig.Proofs.Results

/-!
# Listen addresses and host names with ports

A listen address is a host and a port with a colon between them, and an origin that is no web
address is a host name with or without a port. The checks accept all texts of these forms. They also
accept a plus sign in front of a port, and a listen address with a version 6 address that is not in
brackets, so that its last group is taken for the port.

## Main definitions

* `Net.IsPort`, `Net.PortIsRead` — ports, and texts that are read as ports.
* `Net.IsHost` — hosts of listen addresses.

## Main results

* `Net.Address.check_eq_ok_iff`, `Net.Origin.check_eq_ok_iff` — what is accepted.
* `Net.addresses_accepted` — both together.
-/

namespace FleetConfig.Net

variable {cs host port : List Char}

/-! ### Ports -/

/-- A port is digits that denote a number from 1 to 65535. -/
structure IsPort (cs : List Char) : Prop where
  ne_nil : cs ≠ []
  digits : ∀ c ∈ cs, c.isDigit = true
  pos : 1 ≤ Number.ofDigits 10 cs
  le : Number.ofDigits 10 cs ≤ 65535

/-- A text is read as a port: a port, or a plus sign and a port. -/
def PortIsRead (cs : List Char) : Prop := IsPort cs ∨ ∃ ds, cs = '+' :: ds ∧ IsPort ds

/-- The digits of base ten are the decimal digits. -/
theorem isDigitIn_ten (c : Char) : Number.isDigitIn 10 c = c.isDigit := by
  cases hdigit : c.isDigit with
  | true =>
    obtain ⟨-, hhi⟩ := Number.isDigit_iff.1 hdigit
    have hlt : c.toNat - 48 < 10 := by omega
    rw [Number.isDigitIn, Number.isHexDigit, Number.digitValue_of_isDigit hdigit, hdigit]
    exact decide_eq_true hlt
  | false =>
    -- The value of a letter is ten or more.
    have hletter : Number.isHexDigit c = true → ¬Number.digitValue c < 10 := by
      rw [Number.isHexDigit, Number.digitValue, hdigit]
      simp only [Bool.false_or, Bool.or_eq_true, Bool.and_eq_true, decide_eq_true_eq, Char.le_def,
        UInt32.le_iff_toNat_le]
      intro h
      have ha : ('a' : Char).val.toNat = 97 := rfl
      have hA : ('A' : Char).val.toNat = 65 := rfl
      have hc : c.toNat = c.val.toNat := rfl
      split_ifs <;> omega
    rw [Number.isDigitIn, Bool.and_eq_false_iff, decide_eq_false_iff_not]
    cases hhex : Number.isHexDigit c with
    | true => exact .inr (hletter hhex)
    | false => exact .inl rfl

theorem natural?_eq_some_iff {n : Nat} : Number.natural? 10 cs = some n ↔
    cs ≠ [] ∧ (∀ c ∈ cs, c.isDigit = true) ∧ Number.ofDigits 10 cs = n := by
  rw [Number.natural?]
  split
  · rename_i h
    simp only [Bool.and_eq_true, Bool.not_eq_true', List.isEmpty_eq_false_iff, List.all_eq_true,
      isDigitIn_ten] at h
    rw [Option.some.injEq, ← and_assoc, and_iff_right h]
  · rename_i h
    simp only [Bool.and_eq_true, Bool.not_eq_true', List.isEmpty_eq_false_iff, List.all_eq_true,
      isDigitIn_ten] at h
    exact ⟨nofun, fun ⟨hne, hdigits, _⟩ => absurd ⟨hne, hdigits⟩ h⟩

theorem Port.check_eq_ok_iff : Port.check (String.ofList cs) = .ok () ↔ IsPort (unsigned cs) := by
  have hnumber {n : Nat} : Port.number? (String.ofList cs) = some n ↔
      (unsigned cs ≠ [] ∧ (∀ c ∈ unsigned cs, c.isDigit = true) ∧
        Number.ofDigits 10 (unsigned cs) = n) ∧ n ≤ Port.maxNumber := by
    rw [Port.number?, String.toList_ofList, Option.filter_eq_some_iff, natural?_eq_some_iff,
      decide_eq_true_eq]
  rw [Port.check]
  constructor
  · intro h
    split at h
    · cases h
    · rename_i n hn
      obtain ⟨⟨hne, hdigits, hvalue⟩, -⟩ := hnumber.1 hn
      split at h
      · rename_i hrange
        exact ⟨hne, hdigits, hvalue ▸ hrange.1, hvalue ▸ hrange.2⟩
      · cases h
  · intro h
    have hmax : Number.ofDigits 10 (unsigned cs) ≤ Port.maxNumber := Nat.le_trans h.le (by decide)
    rw [hnumber.2 ⟨⟨h.ne_nil, h.digits, rfl⟩, hmax⟩]
    exact if_pos ⟨h.pos, h.le⟩

/-- A plus sign in front of a port is skipped. -/
theorem isPort_unsigned_iff : IsPort (Port.unsigned cs) ↔ PortIsRead cs := by
  unfold Port.unsigned
  split
  · rename_i ds
    refine ⟨fun h => .inr ⟨ds, rfl, h⟩, ?_⟩
    rintro (h | ⟨ds', heq, h⟩)
    · exact absurd (h.digits '+' List.mem_cons_self) (by decide)
    · cases heq
      exact h
  · rename_i hplus
    exact ⟨.inl, fun h => h.resolve_right fun ⟨ds, heq, _⟩ => hplus ds heq⟩

theorem PortIsRead.not_mem {c : Char} (h : PortIsRead cs) (hdigit : c.isDigit = false)
    (hplus : c ≠ '+') : c ∉ cs := by
  have hport {ds : List Char} (h : IsPort ds) : c ∉ ds := fun hmem => by
    rw [h.digits c hmem] at hdigit
    cases hdigit
  obtain h | ⟨ds, rfl, h⟩ := h
  · exact hport h
  · exact List.not_mem_cons_of_ne_of_not_mem hplus (hport h)

/-! ### Hosts -/

/-- The host of a listen address: nothing, a version 4 address, a version 6 address in brackets or a
host name. -/
inductive IsHost : List Char → Prop
  | all : IsHost []
  | ipv4 {host : List Char} (h : WritesIpv4 host) : IsHost host
  | ipv6 {inner : List Char} (h : WritesIpv6 inner) : IsHost ('[' :: (inner ++ [']']))
  | hostname {host : List Char} (h : IsHostname host) : IsHost host

namespace Address

theorem checkHostname_eq_ok_iff : checkHostname host = .ok () ↔ IsHostname host := by
  rw [checkHostname, ← isHostname_iff]
  split
  · rename_i h
    exact iff_of_true rfl h
  · rename_i h
    exact iff_of_false nofun h

theorem checkBracketed_eq_ok_iff : checkBracketed cs = .ok () ↔
    ∃ inner, cs = inner ++ [']'] ∧ WritesIpv6 inner := by
  rw [checkBracketed]
  constructor
  · intro h
    split_ifs at h with hclose hinner
    exact ⟨cs.dropLast, (List.dropLast_append_getLast? _ hclose).symm, isIpv6_iff.1 hinner⟩
  · rintro ⟨inner, rfl, h⟩
    rw [List.getLast?_concat, if_pos rfl, List.dropLast_concat, if_pos (isIpv6_iff.2 h)]

/-- The hosts that are accepted are those of the grammar, and version 6 addresses without brackets.
-/
theorem checkHost_eq_ok_iff : checkHost host = .ok () ↔ IsHost host ∨ WritesIpv6 host := by
  unfold checkHost
  split
  · exact iff_of_true rfl (.inl .all)
  · rename_i inner
    rw [checkBracketed_eq_ok_iff]
    constructor
    · rintro ⟨inner, rfl, h⟩
      exact .inl (.ipv6 h)
    · -- No other form starts with a bracket.
      rintro (h | h)
      · cases h with
        | ipv4 h => exact absurd List.mem_cons_self (h.not_mem (by decide) (by decide))
        | ipv6 h => exact ⟨_, rfl, h⟩
        | hostname h =>
          exact absurd List.mem_cons_self (h.not_mem (by decide) (by decide) (by decide))
      · exact absurd List.mem_cons_self (h.not_mem (by decide) (by decide) (by decide))
  · rename_i hne hbracket
    split
    · rename_i h
      rw [Bool.or_eq_true, isIpv4_iff, isIpv6_iff] at h
      exact iff_of_true rfl (h.imp .ipv4 id)
    · rename_i h
      rw [Bool.or_eq_true, isIpv4_iff, isIpv6_iff, not_or] at h
      rw [checkHostname_eq_ok_iff]
      refine ⟨fun h => .inl (.hostname h), ?_⟩
      rintro (h' | h')
      · cases h' with
        | all => exact absurd rfl hne
        | ipv4 h' => exact absurd h' h.1
        | ipv6 _ => exact absurd rfl (hbracket _)
        | hostname h' => exact h'
      · exact absurd h' h.2

theorem checkPort_eq_ok_iff : checkPort port = .ok () ↔ PortIsRead port := by
  rw [checkPort, mapError_eq_ok, Port.check_eq_ok_iff, isPort_unsigned_iff]

/-- A listen address is accepted if it is a host, a colon and a text that is read as a port. -/
theorem check_eq_ok_iff {s : String} : check s = .ok () ↔ ∃ host port,
    s.toList = host ++ ':' :: port ∧ PortIsRead port ∧ (IsHost host ∨ WritesIpv6 host) := by
  rw [check]
  constructor
  · intro h
    split at h
    · cases h
    · rename_i host port hcut
      obtain ⟨_, hport, hhost⟩ := bind_eq_ok.1 h
      exact ⟨host, port, (Text.cutLast_eq_some_iff.1 hcut).1, checkPort_eq_ok_iff.1 hport,
        checkHost_eq_ok_iff.1 hhost⟩
  · rintro ⟨host, port, hs, hport, hhost⟩
    rw [hs, Text.cutLast_append (hport.not_mem (by decide) (by decide))]
    exact bind_eq_ok.2 ⟨(), checkPort_eq_ok_iff.2 hport, checkHost_eq_ok_iff.2 hhost⟩

end Address

/-! ### Origins -/

theorem Origin.checkHostPort_eq_ok_iff : Origin.checkHostPort cs = .ok () ↔
    IsHostname cs ∨ ∃ host port, cs = host ++ ':' :: port ∧ PortIsRead port ∧ IsHostname host := by
  rw [Origin.checkHostPort, mapError_eq_ok]
  cases hcut : Text.cutLast ':' cs with
  | none =>
    rw [Text.cutLast_eq_none_iff] at hcut
    refine Address.checkHostname_eq_ok_iff.trans (or_iff_left ?_).symm
    rintro ⟨host, port, rfl, -⟩
    exact hcut (List.mem_append_right _ List.mem_cons_self)
  | some p =>
    obtain ⟨rfl, -⟩ := Text.cutLast_eq_some_iff.1 hcut
    have hcolon : ¬IsHostname (p.1 ++ ':' :: p.2) := fun h =>
      h.not_mem (by decide) (by decide) (by decide) (List.mem_append_right _ List.mem_cons_self)
    rw [or_iff_right hcolon]
    constructor
    · intro h
      obtain ⟨_, hport, hhost⟩ := bind_eq_ok.1 h
      exact ⟨p.1, p.2, rfl, Address.checkPort_eq_ok_iff.1 hport,
        Address.checkHostname_eq_ok_iff.1 hhost⟩
    · rintro ⟨host, port, heq, hport, hhost⟩
      rw [heq, Text.cutLast_append (hport.not_mem (by decide) (by decide))] at hcut
      cases hcut
      exact bind_eq_ok.2 ⟨(), Address.checkPort_eq_ok_iff.2 hport,
        Address.checkHostname_eq_ok_iff.2 hhost⟩

/-- An origin that is no web address is accepted if it is a star, a host name, or a host name, a
colon and a text that is read as a port. -/
theorem Origin.check_eq_ok_iff {s : String} (h : ¬"://".toList <:+: s.toList) :
    Origin.check s = .ok () ↔ s = "*" ∨ IsHostname s.toList ∨ ∃ host port,
      s.toList = host ++ ':' :: port ∧ PortIsRead port ∧ IsHostname host := by
  have hweb : ¬Text.occursIn "://".toList s.toList = true := mt Text.occursIn_iff.1 h
  rw [Origin.check]
  by_cases hstar : s = "*"
  · rw [if_pos hstar]
    exact iff_of_true rfl (.inl hstar)
  · rw [if_neg hstar, or_iff_right hstar, ← Origin.checkHostPort_eq_ok_iff]
    show (if _ then _ else _) = _ ↔ _
    rw [if_neg hweb]

/-! ### All forms -/

/-- A text is accepted as a listen address exactly if it is a host, a colon and a port, where a plus
sign may stand in front of the port's digits, and a version 6 address may stand without brackets in
place of the host. A text without `://` is accepted as an origin exactly if it is a star, a host
name, or a host name, a colon and a port, where again a plus sign may stand in front of the digits.
-/
theorem addresses_accepted (s : String) :
    (Address.check s = .ok () ↔ ∃ host port, s.toList = host ++ ':' :: port ∧
      (IsPort port ∨ ∃ digits, port = '+' :: digits ∧ IsPort digits) ∧
      (IsHost host ∨ WritesIpv6 host)) ∧
    (¬"://".toList <:+: s.toList →
      (Origin.check s = .ok () ↔ s = "*" ∨ IsHostname s.toList ∨
        ∃ host port, s.toList = host ++ ':' :: port ∧
          (IsPort port ∨ ∃ digits, port = '+' :: digits ∧ IsPort digits) ∧ IsHostname host)) :=
  ⟨Address.check_eq_ok_iff, Origin.check_eq_ok_iff⟩

/-- The port of a text stands behind its last colon. -/
theorem cutLast_of_isPort (hcs : cs = host ++ ':' :: port) (hport : IsPort port) :
    Text.cutLast ':' cs = some (host, port) := by
  have hcolon : ':' ∉ port := fun hmem => absurd (hport.digits ':' hmem) (by decide)
  rw [hcs, Text.cutLast_append hcolon]

theorem isPort_eighty : IsPort ['8', '0'] := ⟨by decide, by decide, by decide, by decide⟩

theorem isHostname_example : IsHostname "example.com".toList := isHostname_iff.1 (by decide)

/-- A version 6 address without brackets is accepted in front of a port, and so is a plus sign in
it. -/
theorem plus_and_open_ipv6_are_accepted :
    Address.check "::1:80" = .ok () ∧ Address.check ":+80" = .ok () ∧
      Origin.check "example.com:+80" = .ok () ∧
      (¬∃ host port, "::1:80".toList = host ++ ':' :: port ∧ IsPort port ∧ IsHost host) ∧
      (¬∃ host port, ":+80".toList = host ++ ':' :: port ∧ IsPort port ∧ IsHost host) ∧
      ¬("example.com:+80" = "*" ∨ IsHostname "example.com:+80".toList ∨
        ∃ host port, "example.com:+80".toList = host ++ ':' :: port ∧ IsPort port ∧
          IsHostname host) := by
  have hplus : PortIsRead ['+', '8', '0'] := .inr ⟨_, rfl, isPort_eighty⟩
  have hnoport : ¬IsPort ['+', '8', '0'] := fun h =>
    absurd (h.digits '+' List.mem_cons_self) (by decide)
  refine ⟨?_, ?_, ?_, ?_, ?_, ?_⟩
  · exact Address.check_eq_ok_iff.2 ⟨[':', ':', '1'], _, rfl, .inl isPort_eighty,
      .inr (isIpv6_iff.1 (by decide))⟩
  · exact Address.check_eq_ok_iff.2 ⟨[], _, rfl, hplus, .inl .all⟩
  · exact (Origin.check_eq_ok_iff (mt Text.occursIn_iff.2 (by decide))).2
      (.inr (.inr ⟨"example.com".toList, _, rfl, hplus, isHostname_example⟩))
  · rintro ⟨host, port, hs, hport, hhost⟩
    have hcut : some ([':', ':', '1'], ['8', '0']) = some (host, port) :=
      cutLast_of_isPort hs hport
    cases hcut
    have hcolon : ':' ∈ [':', ':', '1'] := by decide
    cases hhost with
    | ipv4 h => exact h.not_mem (by decide) (by decide) hcolon
    | hostname h => exact h.not_mem (by decide) (by decide) (by decide) hcolon
  · rintro ⟨host, port, hs, hport, -⟩
    have hcut : some ([], ['+', '8', '0']) = some (host, port) := cutLast_of_isPort hs hport
    cases hcut
    exact hnoport hport
  · rintro (h | h | ⟨host, port, hs, hport, -⟩)
    · exact absurd h (by decide)
    · exact h.not_mem (c := ':') (by decide) (by decide) (by decide) (by decide)
    · have hcut : some ("example.com".toList, ['+', '8', '0']) = some (host, port) :=
        cutLast_of_isPort hs hport
      cases hcut
      exact hnoport hport

/-- A host name with a port and no more is accepted as an origin. -/
theorem example_is_accepted : ¬"://".toList <:+: "example.com:80".toList ∧
    (Origin.check "example.com:80" = .ok () ↔ "example.com:80" = "*" ∨
      IsHostname "example.com:80".toList ∨
        ∃ host port, "example.com:80".toList = host ++ ':' :: port ∧
          (IsPort port ∨ ∃ digits, port = '+' :: digits ∧ IsPort digits) ∧ IsHostname host) ∧
    Origin.check "example.com:80" = .ok () := by
  have hweb : ¬"://".toList <:+: "example.com:80".toList := mt Text.occursIn_iff.2 (by decide)
  have hforms := (addresses_accepted "example.com:80").2 hweb
  exact ⟨hweb, hforms, hforms.2 (.inr (.inr ⟨"example.com".toList, _, rfl, .inl isPort_eighty,
    isHostname_example⟩))⟩

end FleetConfig.Net
