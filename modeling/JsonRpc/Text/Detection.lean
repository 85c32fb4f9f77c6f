/-
The encoding of a document's bytes.

A byte order mark names the encoding. Without one, the text is taken to start with two characters
below 0x100, so that the zero bytes among the first four tell the width of a unit and the byte
order; bytes without such zeros are UTF-8.
-/
import JsonRpc.Text.Utf8
import JsonRpc.Text.Utf16
import JsonRpc.Text.Utf32

namespace JsonRpc

/-- The encoding of bytes and the length of the mark they start with. -/
def Encoding.detect : Bytes → Encoding × Nat
  | 0xFF :: 0xFE :: 0x00 :: 0x00 :: _ => (.utf32 false, 4)
  | 0x00 :: 0x00 :: 0xFE :: 0xFF :: _ => (.utf32 true, 4)
  | 0xFF :: 0xFE :: _ => (.utf16 false, 2)
  | 0xFE :: 0xFF :: _ => (.utf16 true, 2)
  | 0xEF :: 0xBB :: 0xBF :: _ => (.utf8, 3)
  | a :: b :: c :: d :: _ =>
    if a = 0 then (if b = 0 then .utf32 true else .utf16 true, 0)
    else if b = 0 then (if c = 0 ∧ d = 0 then .utf32 false else .utf16 false, 0)
    else (.utf8, 0)
  | [a, b] =>
    (if a = 0 then .utf16 true else if b = 0 then .utf16 false else .utf8, 0)
  | _ => (.utf8, 0)

/-- The text that bytes in a detected encoding hold, without their mark. Lone surrogates are kept.
Positions in an error count the mark, except in UTF-8, where they count from behind it. -/
def Text.ofBytes (bytes : Bytes) : Except DecodeError Text :=
  match Encoding.detect bytes with
  | (.utf8, mark) => Utf8.decodeKeeping (bytes.drop mark)
  | (.utf16 bigEndian, mark) => Utf16.decodeFrom bigEndian mark (bytes.drop mark)
  | (.utf32 bigEndian, mark) => Utf32.decodeFrom bigEndian mark (bytes.drop mark)

end JsonRpc
