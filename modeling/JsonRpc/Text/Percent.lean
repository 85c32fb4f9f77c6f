/-
Percent-encoding.

A percent sign and two hexadecimal digits stand for a byte; a percent sign without these stands for
itself, as every other ASCII character does. Together the bytes are text in UTF-8. What is not ASCII
stands for itself too and ends the bytes before it, so that each stretch of ASCII is read on its own.
-/
import JsonRpc.Text.Utf8

namespace JsonRpc.Percent

/-- The byte that three code points stand for. -/
def byte? (sign high low : CodePoint) : Option UInt8 :=
  match high.hexDigit?, low.hexDigit? with
  | some h, some l => if sign = '%' then some (.ofNat (h.val * 16 + l.val)) else none
  | _, _ => none

/-- The bytes that ASCII text stands for. -/
def bytes : Text → Bytes
  | c :: high :: low :: rest =>
    match byte? c high low with
    | some b => b :: bytes rest
    | none => .ofNat c.val :: bytes (high :: low :: rest)
  | t => t.map fun c => .ofNat c.val

/-- The text that a stretch stands for, where all of it or nothing is ASCII. -/
def decodeStretch (t : Text) : Except DecodeError Text :=
  if t.isAscii then Utf8.decode (bytes t) else .ok t

/-- The text that a text stands for. -/
def decode (t : Text) : Except DecodeError Text := do
  let parts ← (t.splitBy fun c d => c.isAscii == d.isAscii).mapM decodeStretch
  return parts.flatten

end JsonRpc.Percent
