/-
String literals.

A literal stands between double quotes. A character is written as it is or as an escape: a
backslash and a letter, or a backslash, `u` and the four hexadecimal digits of a 16-bit unit. Two
units next to each other that form a surrogate pair are one character; any other unit is a code
point of its own, even a surrogate. Control characters have to be escaped.

Written by this library a literal is printable ASCII, unless the writer is told to leave characters
as they are.
-/
import JsonRpc.Json.Error

namespace JsonRpc.Json.StringLiteral

/-- What a literal is made of: characters, and units named by their numbers. -/
inductive Piece where
  | char (c : CodePoint)
  | unit (u : CodePoint)
deriving DecidableEq

/-- The text that pieces make, surrogate pairs of units joined. -/
def assemble : List Piece → Text
  | [] => []
  | .char c :: ps => c :: assemble ps
  | .unit u :: .unit v :: ps =>
    if u.isHighSurrogate && v.isLowSurrogate then .ofPair u v :: assemble ps
    else u :: assemble (.unit v :: ps)
  | .unit u :: ps => u :: assemble ps

/-- The character that a backslash and a letter stand for. -/
def escaped? (letter : CodePoint) : Option CodePoint :=
  if letter = '"' ∨ letter = '\\' ∨ letter = '/' then some letter
  else if letter = 'b' then some (.ofChar '\x08')
  else if letter = 'f' then some (.ofChar '\x0c')
  else if letter = 'n' then some (.ofChar '\n')
  else if letter = 'r' then some (.ofChar '\r')
  else if letter = 't' then some (.ofChar '\t')
  else none

/-- The unit of four hexadecimal digits. -/
def unit? (a b c d : CodePoint) : Option CodePoint := do
  let a ← a.hexDigit?
  let b ← b.hexDigit?
  let c ← c.hexDigit?
  let d ← d.hexDigit?
  return .ofNat (((a.val * 16 + b.val) * 16 + c.val) * 16 + d.val)

/-- The pieces of a literal and what follows it, from behind its opening quote; `opening` is the
text from that quote on. Four hexadecimal digits have to have something behind them, since the
literal has not ended there. -/
def pieces (opening : Text) : Text → Except (ReadError Text) (List Piece × Text)
  | [] => .error (.malformed .unterminated opening)
  | c :: rest =>
    if c = '"' then .ok ([], rest)
    else if c = '\\' then
      match rest with
      | [] => .error (.malformed .unterminated opening)
      | letter :: rest₂ =>
        if letter = 'u' then
          match rest₂ with
          | h₁ :: h₂ :: h₃ :: h₄ :: next :: rest₃ =>
            match unit? h₁ h₂ h₃ h₄ with
            | some u => do
              let (ps, after) ← pieces opening (next :: rest₃)
              return (.unit u :: ps, after)
            | none => .error (.malformed .unicodeEscape (letter :: rest₂))
          | _ => .error (.malformed .unicodeEscape (letter :: rest₂))
        else
          match escaped? letter with
          | some e => do
            let (ps, after) ← pieces opening rest₂
            return (.char e :: ps, after)
          | none => .error (.malformed .escape (c :: rest))
    else if c.val < 0x20 then .error (.malformed .control (c :: rest))
    else do
      let (ps, after) ← pieces opening rest
      return (.char c :: ps, after)

/-- The text of the literal whose opening quote `opening` starts with, and what follows it. -/
def read (opening : Text) : Except (ReadError Text) (Text × Text) := do
  let (ps, after) ← pieces opening opening.tail
  return (assemble ps, after)

/-- The escape of a 16-bit unit. -/
def unitEscape (n : Nat) : Text := Text.of "\\u" ++ Text.hex 4 n

/-- A character in a literal. Only the printable ones of ASCII are left as they are if `ascii` is
set. -/
def writeChar (ascii : Bool) (c : CodePoint) : Text :=
  if c = '"' then Text.of "\\\""
  else if c = '\\' then Text.of "\\\\"
  else if c = '\n' then Text.of "\\n"
  else if c = '\r' then Text.of "\\r"
  else if c = '\t' then Text.of "\\t"
  else if c = '\x08' then Text.of "\\b"
  else if c = '\x0c' then Text.of "\\f"
  else if c.val < 0x20 then unitEscape c.val
  else if c.val < 0x7F || !ascii then [c]
  else if c.val < 0x10000 then unitEscape c.val
  else
    let n := c.val - 0x10000
    unitEscape (0xD800 + n / 0x400) ++ unitEscape (0xDC00 + n % 0x400)

/-- The literal of a text. -/
def write (ascii : Bool) (t : Text) : Text :=
  Text.of "\"" ++ t.flatMap (writeChar ascii) ++ Text.of "\""

end JsonRpc.Json.StringLiteral
