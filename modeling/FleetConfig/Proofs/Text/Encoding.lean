import FleetConfig.Proofs.Duration.Positions

/-!
# Texts and their bytes

A text is read from the bytes that it is written with, and from no others. A byte of seven bits
stands for one character wherever it stands.

## Main results

* `Text.fromUTF8?_eq_some_iff` — bytes are read as the text that they encode.
* `Text.toList_toUTF8` — the bytes of a text, character by character.
* `Text.byte_mem_encode_iff` — a byte of seven bits is there if its character is.
-/

namespace FleetConfig.Text

open Duration.Scan (encode)

theorem fromUTF8?_eq_some_iff {bytes : ByteArray} {s : String} :
    String.fromUTF8? bytes = some s ↔ bytes = s.toUTF8 := by
  rw [String.fromUTF8?]
  constructor
  · intro h
    split at h
    · cases h
      rfl
    · cases h
  · rintro rfl
    exact dif_pos s.isValidUTF8

/-! ### Bytes in a list -/

theorem toList_loop (bytes : ByteArray) (i : Nat) (front : List UInt8) :
    ByteArray.toList.loop bytes i front = front.reverse ++ bytes.data.toList.drop i := by
  fun_induction ByteArray.toList.loop bytes i front with
  | case1 i front hi ih =>
    have hi : i < bytes.data.toList.length := hi
    have hget : bytes.get! i = bytes.data.toList[i] := by
      show bytes.data[i]! = _
      rw [getElem!_pos bytes.data i hi, Array.getElem_toList]
    rw [ih, List.drop_eq_getElem_cons hi, List.reverse_cons, List.append_assoc, hget]
    rfl
  | case2 i front hi =>
    rw [List.drop_eq_nil_of_le (Nat.le_of_not_lt hi), List.append_nil]

theorem toList_eq_data (bytes : ByteArray) : bytes.toList = bytes.data.toList :=
  toList_loop bytes 0 []

/-- The bytes of a text are those of its characters. -/
theorem toList_toUTF8 (cs : List Char) : (String.ofList cs).toUTF8.toList = encode cs :=
  (toList_eq_data _).trans (Duration.Scan.bytes_ofList cs)

/-- The byte of a character of seven bits stands for that character alone. -/
theorem byte_mem_encode_iff {c : Char} {cs : List Char} (hc : c.toNat < 128) :
    UInt8.ofNat c.toNat ∈ encode cs ↔ c ∈ cs := by
  have hsize : UInt8.size = 256 := rfl
  have hvalue : (UInt8.ofNat c.toNat).toNat = c.toNat := UInt8.toNat_ofNat_of_lt' (by omega)
  rw [encode, List.mem_flatMap]
  constructor
  · rintro ⟨x, hx, hbyte⟩
    by_cases hlt : x.toNat < 128
    · rw [Duration.Scan.utf8EncodeChar_of_lt hlt, List.mem_singleton] at hbyte
      have hnat := congrArg UInt8.toNat hbyte
      rw [hvalue, UInt8.toNat_ofNat_of_lt' (by omega)] at hnat
      exact Char.toNat_inj.1 hnat ▸ hx
    · have hle := Duration.Scan.le_of_mem_utf8EncodeChar (Nat.le_of_not_lt hlt) _ hbyte
      omega
  · intro hmem
    refine ⟨c, hmem, ?_⟩
    rw [Duration.Scan.utf8EncodeChar_of_lt hc]
    exact List.mem_singleton_self _

end FleetConfig.Text
