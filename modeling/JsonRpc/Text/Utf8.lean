/-
UTF-8.

A character is a lead byte and up to three continuation bytes. The lead byte fixes how many follow
and which range the first of them must lie in, and so rules out overlong forms, surrogates and
numbers past the last code point; every later one lies in 0x80 to 0xBF. The decoder takes one byte
at a time and keeps the character it is in.

Read strictly, an encoded surrogate is an error. A reader that keeps lone surrogates lets the three
bytes that would encode one pass.
-/
import JsonRpc.Text.Decoding

namespace JsonRpc.Utf8

/-- What a lead byte announces: its own bits, the number of bytes that are to follow, and the range
of the first of these. -/
structure Lead where
  bits : Nat
  owed : Nat
  low : Nat
  high : Nat

/-- The lead bytes, by their ranges. -/
def lead? (b : Nat) : Option Lead :=
  if b < 0x80 then some ⟨b, 0, 0x80, 0xBF⟩
  else if b < 0xC2 then none
  else if b < 0xE0 then some ⟨b - 0xC0, 1, 0x80, 0xBF⟩
  else if b = 0xE0 then some ⟨0, 2, 0xA0, 0xBF⟩
  else if b = 0xED then some ⟨0xD, 2, 0x80, 0x9F⟩
  else if b < 0xF0 then some ⟨b - 0xE0, 2, 0x80, 0xBF⟩
  else if b = 0xF0 then some ⟨0, 3, 0x90, 0xBF⟩
  else if b < 0xF4 then some ⟨b - 0xF0, 3, 0x80, 0xBF⟩
  else if b = 0xF4 then some ⟨4, 3, 0x80, 0x8F⟩
  else none

/-- A character that has begun: its lead byte and where that stands, the bits read so far, the
number of bytes still owed, which is not zero, and the range of the next one. -/
structure Begun where
  byte : UInt8
  start : Nat
  bits : Nat
  owed : Nat
  low : Nat
  high : Nat

/-- The character that a lead byte at position `pos` begins. -/
def Lead.begin (l : Lead) (byte : UInt8) (pos : Nat) : Begun :=
  ⟨byte, pos, l.bits, l.owed, l.low, l.high⟩

/-- The character `p` after the continuation byte `b`. -/
def Begun.push (p : Begun) (b : UInt8) : Begun :=
  { p with bits := p.bits * 64 + b.toNat % 64, owed := p.owed - 1, low := 0x80, high := 0xBF }

def Begun.error (p : Begun) (fault : DecodeFault) (pos : Nat) : DecodeError :=
  ⟨.utf8, fault, p.start, pos - p.start, p.byte⟩

/-- The surrogate that three bytes would encode. -/
def surrogate? (a b c : UInt8) : Option CodePoint :=
  if a.toNat = 0xED ∧ 0xA0 ≤ b.toNat ∧ b.toNat ≤ 0xBF ∧ 0x80 ≤ c.toNat ∧ c.toNat ≤ 0xBF then
    some (.ofNat (0xD000 + b.toNat % 64 * 64 + c.toNat % 64))
  else none

/-- The text that bytes from position `pos` on encode, where the character `begun`, if any, is
still to be completed. With `keep` an encoded surrogate passes. -/
def decodeFrom (keep : Bool) (pos : Nat) (begun : Option Begun) :
    Bytes → Except DecodeError Text
  | [] =>
    match begun with
    | none => .ok []
    | some p => .error (p.error .endOfData pos)
  | b :: rest =>
    match begun with
    | none =>
      let ordinary : Except DecodeError Text :=
        match lead? b.toNat with
        | none => .error ⟨.utf8, .startByte, pos, 1, b⟩
        | some l =>
          if l.owed = 0 then (decodeFrom keep (pos + 1) none rest).map (.ofNat l.bits :: ·)
          else decodeFrom keep (pos + 1) (some (l.begin b pos)) rest
      match keep, rest with
      | true, b₂ :: b₃ :: rest₃ =>
        match surrogate? b b₂ b₃ with
        | some c => (decodeFrom keep (pos + 3) none rest₃).map (c :: ·)
        | none => ordinary
      | _, _ => ordinary
    | some p =>
      if p.low ≤ b.toNat ∧ b.toNat ≤ p.high then
        let q := p.push b
        if q.owed = 0 then (decodeFrom keep (pos + 1) none rest).map (.ofNat q.bits :: ·)
        else decodeFrom keep (pos + 1) (some q) rest
      else .error (p.error .continuationByte pos)

/-- The text that bytes encode, with no surrogate among it. -/
def decode (bytes : Bytes) : Except DecodeError Text := decodeFrom false 0 none bytes

/-- The text that bytes encode; encoded surrogates are kept. -/
def decodeKeeping (bytes : Bytes) : Except DecodeError Text := decodeFrom true 0 none bytes

/-- The bytes that encode a code point. -/
def encodeCodePoint (c : CodePoint) : Bytes :=
  let n := c.val
  let tail (k : Nat) : UInt8 := .ofNat (0x80 + n / k % 64)
  if n < 0x80 then [.ofNat n]
  else if n < 0x800 then [.ofNat (0xC0 + n / 64), tail 1]
  else if n < 0x10000 then [.ofNat (0xE0 + n / 4096), tail 64, tail 1]
  else [.ofNat (0xF0 + n / 262144), tail 4096, tail 64, tail 1]

/-- The bytes that encode a text. -/
def encode (t : Text) : Bytes := t.flatMap encodeCodePoint

/-- Surrogates side by side in a text that is to be encoded: the first of them, where it stands, and
how many they are. -/
structure EncodeError where
  first : CodePoint
  start : Nat
  count : Nat
deriving DecidableEq

/-- What is wrong with a text that is not encoded. -/
def EncodeError.message (e : EncodeError) : Text :=
  let place :=
    if e.count ≤ 1 then
      Text.of "character '\\u" ++ Text.hex 4 e.first.val ++ Text.of "' in position "
        ++ Text.ofNat e.start
    else
      Text.of "characters in position " ++ Text.ofNat e.start ++ Text.of "-"
        ++ Text.ofNat (e.start + e.count - 1)
  Text.of "'utf-8' codec can't encode " ++ place ++ Text.of ": surrogates not allowed"

/-- The first surrogates in a text, if there are any. -/
def unencodable? (t : Text) : Option EncodeError :=
  let start := (t.takeWhile fun c => !c.isSurrogate).length
  match t.drop start with
  | [] => none
  | c :: rest => some ⟨c, start, 1 + (rest.takeWhile CodePoint.isSurrogate).length⟩

/-- The bytes that encode a text with no surrogate in it. -/
def encodeStrict (t : Text) : Except EncodeError Bytes :=
  match unencodable? t with
  | some e => .error e
  | none => .ok (encode t)

end JsonRpc.Utf8
