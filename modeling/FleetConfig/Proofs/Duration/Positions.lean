import FleetConfig.Duration.Scanner
import FleetConfig.Proofs.Number.Digits

/-!
# Positions between characters

Whoever goes over the bytes of a text stops between characters if the bytes tell the characters of
one kind from all others: all bytes of the one are of a kind, and the first byte of the others is
not. Digits and points are such characters, for all others but themselves have bytes of their own.

## Main definitions

* `Duration.Scan.encode`, `Duration.Scan.position` — the bytes of characters, and where they end.
* `Duration.Scan.Tells` — holds of bytes that tell characters apart.

## Main results

* `Duration.Scan.skip_eq` — the characters that are skipped.
* `Duration.Scan.cut_eq`, `Duration.Scan.cut_takeWhile` — the characters that are cut out.
-/

namespace FleetConfig.Duration.Scan

variable {kind : UInt8 → Bool} {p : Char → Bool} {c : Char}

/-! ### Bytes -/

/-- The bytes of characters. -/
def encode (cs : List Char) : List UInt8 := cs.flatMap String.utf8EncodeChar

/-- The position behind characters. -/
def position (cs : List Char) : Nat := (encode cs).length

theorem encode_append (cs ds : List Char) : encode (cs ++ ds) = encode cs ++ encode ds :=
  List.flatMap_append

theorem position_append (cs ds : List Char) : position (cs ++ ds) = position cs + position ds := by
  rw [position, encode_append, List.length_append, position, position]

theorem bytes_ofList (cs : List Char) : bytes (String.ofList cs) = encode cs := by
  simp [bytes, encode, List.utf8Encode]

theorem isEmpty_ofList (cs : List Char) : (String.ofList cs).isEmpty = cs.isEmpty := by
  rw [Bool.eq_iff_iff, String.isEmpty_iff, List.isEmpty_iff, String.ofList_eq_empty_iff]

theorem isEmpty_ofList_of_ne_nil {cs : List Char} (h : cs ≠ []) :
    (String.ofList cs).isEmpty = false := by
  rw [isEmpty_ofList, List.isEmpty_eq_false_iff]
  exact h

theorem utf8ByteSize_ofList (cs : List Char) : (String.ofList cs).utf8ByteSize = position cs := by
  rw [position, ← bytes_ofList]
  rfl

/-- Behind characters the bytes of the others follow. -/
theorem drop_bytes (front rest : List Char) :
    (bytes (String.ofList (front ++ rest))).drop (position front) = encode rest := by
  rw [bytes_ofList, encode_append, position, List.drop_left]

/-- A character of seven bits is its own byte. -/
theorem utf8EncodeChar_of_lt (h : c.toNat < 128) :
    String.utf8EncodeChar c = [UInt8.ofNat c.toNat] := by
  rw [String.utf8EncodeChar]
  exact if_pos (Nat.le_of_lt_succ h)

/-- The bytes of all other characters have eight bits. -/
theorem le_of_mem_utf8EncodeChar (h : 128 ≤ c.toNat) :
    ∀ b ∈ String.utf8EncodeChar c, 128 ≤ b.toNat := by
  have hc : ¬c.val.toNat ≤ 0x7f := Nat.not_le.2 h
  have hbyte {n : Nat} (hn : 128 ≤ n ∧ n < 256) : 128 ≤ (UInt8.ofNat n).toNat := by
    rw [UInt8.toNat_ofNat_of_lt' hn.2]
    exact hn.1
  rw [String.utf8EncodeChar]
  simp only [if_neg hc]
  split
  · simp only [List.forall_mem_cons]
    exact ⟨hbyte (by omega), hbyte (by omega), nofun⟩
  · split
    · simp only [List.forall_mem_cons]
      exact ⟨hbyte (by omega), hbyte (by omega), hbyte (by omega), nofun⟩
    · simp only [List.forall_mem_cons]
      exact ⟨hbyte (by omega), hbyte (by omega), hbyte (by omega), hbyte (by omega), nofun⟩

/-! ### Kinds -/

/-- Holds of a kind of bytes that tells the characters with a property from all others. -/
structure Tells (kind : UInt8 → Bool) (p : Char → Bool) : Prop where
  /-- All bytes of a character with the property are of the kind. -/
  all : ∀ c, p c = true → ∀ b ∈ String.utf8EncodeChar c, kind b = true
  /-- The first byte of any other character is not. -/
  first : ∀ c, p c = false → ∃ b bs, String.utf8EncodeChar c = b :: bs ∧ kind b = false

/-- Bytes tell characters apart by their number if all numbers of eight bits and more are alike. -/
theorem Tells.of_number (q : Nat → Bool) (hkind : ∀ b, kind b = q b.toNat)
    (hp : ∀ c : Char, p c = q c.toNat) (hq : ∀ n, 128 ≤ n → q n = q 128) : Tells kind p where
  all c hc b hb := by
    rcases Nat.lt_or_ge c.toNat 128 with h | h
    · rw [utf8EncodeChar_of_lt h, List.mem_singleton] at hb
      rw [hb, hkind, UInt8.toNat_ofNat_of_lt' (Nat.lt_trans h (by decide)), ← hp, hc]
    · rw [hkind, hq _ (le_of_mem_utf8EncodeChar h b hb), ← hq _ h, ← hp, hc]
  first c hc := by
    rcases Nat.lt_or_ge c.toNat 128 with h | h
    · refine ⟨_, [], utf8EncodeChar_of_lt h, ?_⟩
      rw [hkind, UInt8.toNat_ofNat_of_lt' (Nat.lt_trans h (by decide)), ← hp, hc]
    · obtain ⟨b, bs, hbs⟩ := List.exists_cons_of_ne_nil (String.utf8EncodeChar_ne_nil (c := c))
      have hb := le_of_mem_utf8EncodeChar h b (hbs ▸ List.mem_cons_self)
      exact ⟨b, bs, hbs, by rw [hkind, hq _ hb, ← hq _ h, ← hp, hc]⟩

theorem isDigit_eq (b : UInt8) : isDigit b = decide (48 ≤ b.toNat ∧ b.toNat ≤ 57) := by
  simp [isDigit, UInt8.le_iff_toNat_le]

theorem isPoint_eq (b : UInt8) : isPoint b = decide (b.toNat = 46) := by
  simp [isPoint, ← UInt8.toNat_inj, Bool.beq_eq_decide_eq]

theorem charIsDigit_eq (c : Char) : c.isDigit = decide (48 ≤ c.toNat ∧ c.toNat ≤ 57) := by
  rw [Bool.eq_iff_iff, decide_eq_true_eq, Number.isDigit_iff]

theorem charIsPoint_eq (c : Char) : (c == '.') = decide (c.toNat = 46) := by
  simp [← Char.toNat_inj, Bool.beq_eq_decide_eq]

theorem tells_isDigit : Tells isDigit Char.isDigit :=
  .of_number (fun n => decide (48 ≤ n ∧ n ≤ 57)) isDigit_eq charIsDigit_eq fun n hn => by
    simp
    omega

theorem tells_isPoint : Tells isPoint (· == '.') :=
  .of_number (fun n => decide (n = 46)) isPoint_eq charIsPoint_eq fun n hn => by
    simp
    omega

theorem tells_inName : Tells inName inUnitName := by
  let q (n : Nat) : Bool := !decide (48 ≤ n ∧ n ≤ 57) && !decide (n = 46)
  refine .of_number q (fun b => ?_) (fun c => ?_) fun n hn => ?_
  · rw [inName, isDigit_eq, isPoint_eq]
  · rw [inUnitName, bne, charIsDigit_eq, charIsPoint_eq]
  · simp [q]
    omega

/-- The bytes of a run of characters are a run of bytes. -/
theorem Tells.takeWhile_encode (h : Tells kind p) (cs : List Char) :
    (encode cs).takeWhile kind = encode (cs.takeWhile p) := by
  induction cs with
  | nil => rfl
  | cons c cs ih =>
    by_cases hc : p c
    · rw [List.takeWhile_cons_of_pos hc, encode, List.flatMap_cons,
        List.takeWhile_append_of_pos (h.all c hc), ← encode, ih]
      rfl
    · obtain ⟨b, bs, hbs, hb⟩ := h.first c (by simpa using hc)
      rw [List.takeWhile_cons_of_neg hc, encode, List.flatMap_cons, hbs, List.cons_append,
        List.takeWhile_cons_of_neg (by simp [hb])]
      rfl

/-! ### Steps -/

/-- A run of characters is skipped. -/
theorem Tells.skip_eq (h : Tells kind p) (front rest : List Char) :
    skip kind (String.ofList (front ++ rest)) (position front) =
      position (front ++ rest.takeWhile p) := by
  rw [skip, drop_bytes, h.takeWhile_encode, position_append]
  rfl

/-- A byte tells whether the next character has the property. -/
theorem Tells.any_getElem? (h : Tells kind p) (front rest : List Char) :
    ((bytes (String.ofList (front ++ rest)))[position front]?).any kind = rest.head?.any p := by
  rw [← List.head?_drop, drop_bytes]
  cases rest with
  | nil => rfl
  | cons c cs =>
    rw [encode, List.flatMap_cons, List.head?_cons, Option.any_some]
    by_cases hc : p c
    · obtain ⟨b, bs, hbs⟩ := List.exists_cons_of_ne_nil (String.utf8EncodeChar_ne_nil (c := c))
      have hb := h.all c hc b (hbs ▸ List.mem_cons_self)
      rw [hbs, List.cons_append, List.head?_cons, Option.any_some, hb, hc]
    · obtain ⟨b, bs, hbs, hb⟩ := h.first c (by simpa using hc)
      rw [hbs, List.cons_append, List.head?_cons, Option.any_some, hb]
      simpa using hc

/-- Characters are cut out between the positions around them. -/
theorem cut_eq (front part rest : List Char) :
    cut (String.ofList (front ++ (part ++ rest))) (position front) (position (front ++ part)) =
      .ok (String.ofList part) := by
  have hsplit : String.ofList (front ++ (part ++ rest)) =
      String.ofList front ++ (String.ofList part ++ String.ofList rest) := by
    rw [String.ofList_append, String.ofList_append]
  have hstart : (⟨position front⟩ : String.Pos.Raw).IsValid
      (String.ofList (front ++ (part ++ rest))) := by
    rw [String.Pos.Raw.isValid_iff_exists_append]
    refine ⟨_, _, hsplit, ?_⟩
    rw [String.Pos.Raw.ext_iff, String.byteIdx_rawEndPos, utf8ByteSize_ofList]
  have hstop : (⟨position (front ++ part)⟩ : String.Pos.Raw).IsValid
      (String.ofList (front ++ (part ++ rest))) := by
    rw [String.Pos.Raw.isValid_iff_exists_append]
    refine ⟨String.ofList (front ++ part), String.ofList rest, ?_, ?_⟩
    · rw [← List.append_assoc, String.ofList_append]
    · rw [String.Pos.Raw.ext_iff, String.byteIdx_rawEndPos, utf8ByteSize_ofList]
  have hle : position front ≤ position (front ++ part) := by
    rw [position_append]
    exact Nat.le_add_right _ _
  have hsize (cs : List Char) : position cs = (String.ofList cs).toByteArray.size := by
    rw [String.size_toByteArray, utf8ByteSize_ofList]
  rw [cut, dif_pos ⟨hstart, hstop, hle⟩, Except.ok.injEq, ← String.toByteArray_inj,
    String.toByteArray_extract]
  show (String.ofList (front ++ (part ++ rest))).toByteArray.extract (position front)
    (position (front ++ part)) = _
  rw [hsplit, String.toByteArray_append, String.toByteArray_append, position_append]
  refine (ByteArray.extract_append_size_add' (i := 0) (hsize front)).trans ?_
  exact ByteArray.extract_append_eq_left (hsize part)

/-- A run of characters is cut out. -/
theorem cut_takeWhile (p : Char → Bool) (front rest : List Char) :
    cut (String.ofList (front ++ rest)) (position front) (position (front ++ rest.takeWhile p)) =
      .ok (String.ofList (rest.takeWhile p)) := by
  have hcut := cut_eq front (rest.takeWhile p) (rest.dropWhile p)
  rwa [List.takeWhile_append_dropWhile] at hcut

end FleetConfig.Duration.Scan
