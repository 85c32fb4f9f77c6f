/-
UTF-16.

Two bytes make a unit, in either order. A high surrogate and the low one after it make one code
point; a surrogate that stands alone is kept as it is.
-/
import JsonRpc.Text.Decoding

namespace JsonRpc.Utf16

/-- The unit of two bytes. -/
def unit (bigEndian : Bool) (a b : UInt8) : CodePoint :=
  if bigEndian then .ofNat (a.toNat * 256 + b.toNat) else .ofNat (b.toNat * 256 + a.toNat)

/-- The text that bytes from position `pos` on encode. -/
def decodeFrom (bigEndian : Bool) (pos : Nat) : Bytes → Except DecodeError Text
  | [] => .ok []
  | [a] => .error ⟨.utf16 bigEndian, .truncated, pos, 1, a⟩
  | a :: b :: rest =>
    let u := unit bigEndian a b
    match rest with
    | c :: d :: rest₂ =>
      let v := unit bigEndian c d
      if u.isHighSurrogate && v.isLowSurrogate then
        (decodeFrom bigEndian (pos + 4) rest₂).map (.ofPair u v :: ·)
      else (decodeFrom bigEndian (pos + 2) (c :: d :: rest₂)).map (u :: ·)
    | rest => (decodeFrom bigEndian (pos + 2) rest).map (u :: ·)

end JsonRpc.Utf16
