/-
Punycode.

A text is written in ASCII: first its ASCII code points and a hyphen, if there are any, then where
the others are to be inserted. These are inserted in ascending order, by code point and then by
place, and every insertion is a number: how many (code point, place) pairs lie between it and the
last one. A number is written in digits of base 36, the least first, and ends with the first digit
below the threshold of its place. The thresholds adapt to the numbers written so far.
-/
import JsonRpc.Text.Basic

namespace JsonRpc.Punycode

/-- The digit of a value: the small letters first, then the decimal digits. -/
def digit (d : Nat) : CodePoint := .ofNat (if d < 26 then 0x61 + d else 0x30 + (d - 26))

/-- The threshold of a place, given the bias of the number. -/
def threshold (place bias : Nat) : Nat := max 1 (min 26 (place - bias))

theorem threshold_pos (place bias : Nat) : 1 ≤ threshold place bias := by
  simp only [threshold]; omega

/-- The digits of a number from a place on. Places count in steps of the base. -/
def number (bias place n : Nat) : Text :=
  let t := threshold place bias
  if n < t then [digit n]
  else digit (t + (n - t) % (36 - t)) :: number bias (place + 36) ((n - t) / (36 - t))
termination_by n
decreasing_by
  have h₁ := threshold_pos place bias
  have h₂ := Nat.div_le_self (n - threshold place bias) (36 - threshold place bias)
  omega

/-- The bias that suits a number after it has been scaled, from a place on. -/
def biasFrom (place scaled : Nat) : Nat :=
  if 455 < scaled then biasFrom (place + 36) (scaled / 35)
  else place + 36 * scaled / (scaled + 38)
termination_by scaled
decreasing_by omega

/-- The bias after a number by which a text came to have `count` code points. -/
def adapt (n count : Nat) (isFirst : Bool) : Nat :=
  let scaled := if isFirst then n / 700 else n / 2
  biasFrom 0 (scaled + scaled / count)

/-- What has been written of the insertions, how many pairs have been passed since the last of them,
the bias of the next number, and how many code points the text has. -/
structure Progress where
  written : Text
  passed : Nat
  bias : Nat
  count : Nat

/-- The insertions of a code point at one place of a text: one if the code point stands there. -/
def visit (basicCount : Nat) (inserted : CodePoint) (p : Progress) (c : CodePoint) : Progress :=
  if c.val < inserted.val then { p with passed := p.passed + 1 }
  else if c = inserted then
    { written := p.written ++ number p.bias 36 p.passed, passed := 0
      bias := adapt p.passed (p.count + 1) (p.count = basicCount), count := p.count + 1 }
  else p

/-- All insertions of code points in ascending order, given the least that the next may be. -/
def insertAll (t : Text) (basicCount : Nat) :
    (least : Nat) → (inserted : List CodePoint) → Progress → Progress
  | _, [], p => p
  | least, c :: cs, p =>
    let p := { p with passed := p.passed + (c.val - least) * (p.count + 1) }
    let p := t.foldl (visit basicCount c) p
    insertAll t basicCount (c.val + 1) cs { p with passed := p.passed + 1 }

def isBasic (c : CodePoint) : Bool := c.val < 0x80

/-- The ASCII form of a text. -/
def encode (t : Text) : Text :=
  let basic := t.filter isBasic
  let others := ((t.filter fun c => !isBasic c).eraseDups.mergeSort fun a b => a.val ≤ b.val)
  let start : Progress := ⟨[], 0, 72, basic.length⟩
  basic ++ (if basic = [] then [] else [.ofChar '-'])
    ++ (insertAll t basic.length 0x80 others start).written

end JsonRpc.Punycode
