/-
UTF-32.

Four bytes make a unit, in either order, and every unit is a code point.
-/
import JsonRpc.Text.Decoding

namespace JsonRpc.Utf32

/-- The number of four bytes. -/
def unit (bigEndian : Bool) (a b c d : UInt8) : Nat :=
  let number (w x y z : UInt8) : Nat := ((w.toNat * 256 + x.toNat) * 256 + y.toNat) * 256 + z.toNat
  if bigEndian then number a b c d else number d c b a

/-- The text that bytes from position `pos` on encode. -/
def decodeFrom (bigEndian : Bool) (pos : Nat) : Bytes → Except DecodeError Text
  | [] => .ok []
  | a :: b :: c :: d :: rest =>
    let u := unit bigEndian a b c d
    if u < 0x110000 then (decodeFrom bigEndian (pos + 4) rest).map (.ofNat u :: ·)
    else .error ⟨.utf32 bigEndian, .range, pos, 4, a⟩
  | a :: rest => .error ⟨.utf32 bigEndian, .truncated, pos, rest.length + 1, a⟩

end JsonRpc.Utf32
