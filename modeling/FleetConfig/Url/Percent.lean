/-!
# Percent encoding

In an address a byte may be written as a percent sign and two hexadecimal digits. A percent sign
that no two digits follow stands for itself.

## Main definitions

* `Url.percentDecode` — the bytes that encoded bytes stand for.
* `Url.decodeText?` — the text of percent-encoded text, if the bytes are UTF-8.
-/

namespace FleetConfig.Url

/-- The value of a hexadecimal digit. -/
def hexValue? (b : UInt8) : Option UInt8 :=
  if 48 ≤ b && b ≤ 57 then some (b - 48)
  else if 65 ≤ b && b ≤ 70 then some (b - 55)
  else if 97 ≤ b && b ≤ 102 then some (b - 87)
  else none

/-- The bytes that encoded bytes stand for. -/
def percentDecode : List UInt8 → List UInt8
  | [] => []
  | b :: rest =>
    if b = 37 then
      match rest with
      | hi :: lo :: rest' =>
        match hexValue? hi, hexValue? lo with
        | some h, some l => (16 * h + l) :: percentDecode rest'
        | _, _ => b :: percentDecode (hi :: lo :: rest')
      | short => b :: percentDecode short
    else b :: percentDecode rest

/-- The text that percent-encoded text stands for, if its bytes are UTF-8. -/
def decodeText? (cs : List Char) : Option (List Char) :=
  let bytes := percentDecode (String.ofList cs).toUTF8.toList
  (String.fromUTF8? ⟨bytes.toArray⟩).map String.toList

end FleetConfig.Url
