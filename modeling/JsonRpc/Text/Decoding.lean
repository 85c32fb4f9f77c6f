/-
Bytes that are not text.

A decoder that meets bytes it cannot read says which encoding it was reading, which bytes stopped
it and why. Positions count bytes from the start of what the decoder was given.
-/
import JsonRpc.Text.Decimal

namespace JsonRpc

abbrev Bytes := List UInt8

/-- The encodings that text arrives in. -/
inductive Encoding where
  | utf8
  | utf16 (bigEndian : Bool)
  | utf32 (bigEndian : Bool)
deriving DecidableEq

def Encoding.name : Encoding → Text
  | .utf8 => Text.of "utf-8"
  | .utf16 false => Text.of "utf-16-le"
  | .utf16 true => Text.of "utf-16-be"
  | .utf32 false => Text.of "utf-32-le"
  | .utf32 true => Text.of "utf-32-be"

/-- Why bytes are not text. -/
inductive DecodeFault where
  /-- No character starts with this byte. -/
  | startByte
  /-- The character begun is not carried on. -/
  | continuationByte
  /-- The bytes end inside a character. -/
  | endOfData
  /-- The bytes end inside a unit. -/
  | truncated
  /-- The unit is no code point. -/
  | range
deriving DecidableEq

def DecodeFault.message : DecodeFault → Text
  | .startByte => Text.of "invalid start byte"
  | .continuationByte => Text.of "invalid continuation byte"
  | .endOfData => Text.of "unexpected end of data"
  | .truncated => Text.of "truncated data"
  | .range => Text.of "code point not in range(0x110000)"

/-- The `count` bytes from position `start` on, the first of which is `byte`, are not text. -/
structure DecodeError where
  encoding : Encoding
  fault : DecodeFault
  start : Nat
  count : Nat
  byte : UInt8
deriving DecidableEq

/-- Names the byte if it is the only one, and the range of positions otherwise. -/
def DecodeError.message (e : DecodeError) : Text :=
  Text.of "'" ++ e.encoding.name ++ Text.of "' codec can't decode "
    ++ (if e.count = 1 then
        Text.of "byte 0x" ++ Text.hex 2 e.byte.toNat ++ Text.of " in position " ++ Text.ofNat e.start
      else
        Text.of "bytes in position " ++ Text.ofNat e.start ++ Text.of "-"
          ++ Text.ofNat (e.start + e.count - 1))
    ++ Text.of ": " ++ e.fault.message

end JsonRpc
