/-
Code points and text.

Text is a list of code points, and a code point is any number below 0x110000: the two surrogate
ranges are included, because an escape in a JSON string can name a lone surrogate and such a text
still has to be carried, compared and written out again.
-/
namespace JsonRpc

/-- A code point, surrogates included. -/
structure CodePoint where
  val : Nat
  isLt : val < 0x110000
deriving DecidableEq

namespace CodePoint

/-- The code point of a character. -/
def ofChar (c : Char) : CodePoint :=
  ⟨c.toNat, by
    have h := c.valid
    simp only [UInt32.isValidChar, Nat.isValidChar] at h
    have : c.toNat = c.val.toNat := rfl
    omega⟩

instance : Coe Char CodePoint := ⟨ofChar⟩

/-- The code point of a number; a number past the last one gives the replacement character. -/
def ofNat (n : Nat) : CodePoint := if h : n < 0x110000 then ⟨n, h⟩ else ⟨0xFFFD, by decide⟩

theorem val_ofNat {n : Nat} (h : n < 0x110000) : (ofNat n).val = n := by
  simp [ofNat, h]

/-- The first half of a surrogate pair. -/
def isHighSurrogate (c : CodePoint) : Bool := 0xD800 ≤ c.val && c.val < 0xDC00

/-- The second half of a surrogate pair. -/
def isLowSurrogate (c : CodePoint) : Bool := 0xDC00 ≤ c.val && c.val < 0xE000

def isSurrogate (c : CodePoint) : Bool := c.isHighSurrogate || c.isLowSurrogate

/-- The code point above 0xFFFF that a surrogate pair stands for. -/
def ofPair (high low : CodePoint) : CodePoint :=
  ofNat (0x10000 + (high.val - 0xD800) * 0x400 + (low.val - 0xDC00))

def isAscii (c : CodePoint) : Bool := c.val < 0x80

/-- An ASCII letter. -/
def isLetter (c : CodePoint) : Bool :=
  (0x41 ≤ c.val && c.val ≤ 0x5A) || (0x61 ≤ c.val && c.val ≤ 0x7A)

/-- The value of an ASCII digit. -/
def digit? (c : CodePoint) : Option (Fin 10) :=
  if h : 0x30 ≤ c.val ∧ c.val ≤ 0x39 then some ⟨c.val - 0x30, by omega⟩ else none

def isDigit (c : CodePoint) : Bool := c.digit?.isSome

/-- The ASCII digit of a value. -/
def ofDigit (d : Fin 10) : CodePoint := ⟨0x30 + d.val, by omega⟩

/-- The lower-case form of an ASCII letter; every other code point is its own. -/
def toLower (c : CodePoint) : CodePoint :=
  if h : 0x41 ≤ c.val ∧ c.val ≤ 0x5A then ⟨c.val + 0x20, by omega⟩ else c

/-- The value of a hexadecimal digit in either case. -/
def hexDigit? (c : CodePoint) : Option (Fin 16) :=
  if h : 0x30 ≤ c.val ∧ c.val ≤ 0x39 then some ⟨c.val - 0x30, by omega⟩
  else if h : 0x61 ≤ c.val ∧ c.val ≤ 0x66 then some ⟨c.val - 0x57, by omega⟩
  else if h : 0x41 ≤ c.val ∧ c.val ≤ 0x46 then some ⟨c.val - 0x37, by omega⟩
  else none

/-- The lower-case hexadecimal digit of a value. -/
def ofHexDigit (d : Fin 16) : CodePoint :=
  if d.val < 10 then ⟨0x30 + d.val, by omega⟩ else ⟨0x57 + d.val, by omega⟩

theorem digit?_ofDigit (d : Fin 10) : (ofDigit d).digit? = some d := by
  simp [digit?, ofDigit]; omega

theorem hexDigit?_ofHexDigit (d : Fin 16) : (ofHexDigit d).hexDigit? = some d := by
  revert d; decide

end CodePoint

abbrev Text := List CodePoint

namespace Text

/-- The text of a string. -/
def of (s : String) : Text := s.toList.map CodePoint.ofChar

/-- A surrogate is in the text, so that it is not Unicode. -/
def hasSurrogate (t : Text) : Bool := t.any CodePoint.isSurrogate

def isAscii (t : Text) : Bool := t.all CodePoint.isAscii

/-- The least significant `width` hexadecimal digits of a number. -/
def hex : (width : Nat) → Nat → Text
  | 0, _ => []
  | width + 1, n => hex width (n / 16) ++ [.ofHexDigit ⟨n % 16, Nat.mod_lt n (by decide)⟩]

/-- Texts with a separator between each two. -/
def intercalate (separator : Text) : List Text → Text
  | [] => []
  | [t] => t
  | t :: ts => t ++ separator ++ intercalate separator ts

/-- The parts of a text between its separators. -/
def split (isSeparator : CodePoint → Bool) : Text → List Text
  | [] => [[]]
  | c :: rest =>
    if isSeparator c then [] :: split isSeparator rest
    else
      match split isSeparator rest with
      | [] => [[c]]
      | s :: ss => (c :: s) :: ss

/-- The parts of a text between its dots. -/
def segments (t : Text) : List Text := t.split fun c => c = '.'

/-- What stands before the first `c` in a text and, if there is one, what stands behind it. -/
def cut (c : Char) : Text → Text × Option Text
  | [] => ([], none)
  | d :: rest =>
    if d = c then ([], some rest)
    else
      let (before, behind) := cut c rest
      (d :: before, behind)

/-- What stands behind the last `c` in a text and, if there is one, what stands before it. -/
def cutLast (c : Char) (t : Text) : Option Text × Text :=
  let (behind, before) := cut c t.reverse
  (before.map List.reverse, behind.reverse)

/-- The order by code point, a proper beginning first. -/
def le (a b : Text) : Bool :=
  match a, b with
  | [], _ => true
  | _ :: _, [] => false
  | x :: xs, y :: ys => x.val < y.val || (x.val == y.val && le xs ys)

end Text

end JsonRpc
