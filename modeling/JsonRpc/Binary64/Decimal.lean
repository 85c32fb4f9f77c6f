/-
Double-precision numbers in decimal.

A decimal is a natural number times a power of ten. It is read as the nearest double-precision
number. The other way, a finite magnitude has a shortest decimal: of all decimals that are read as
it, those with the fewest digits, of these the one nearest to the magnitude, and of two equally
near ones the even. For each count of digits only the two multiples of the last place next to the
magnitude can be that decimal, and these are tried in turn.
-/
import JsonRpc.Binary64.Basic
import JsonRpc.Text.Decimal

namespace JsonRpc

/-- The value `digits * 10 ^ exponent`. -/
structure Decimal where
  digits : Nat
  exponent : Int
deriving DecidableEq

namespace Binary64

/-- The number nearest to a decimal of `length` digits. An exponent that puts every such decimal
past the greatest or below half the least positive magnitude is not raised to. -/
def ofDecimal (negative : Bool) (length : Nat) (d : Decimal) : Binary64 :=
  if d.digits = 0 then .finite negative Magnitude.zero
  else if 310 ≤ d.exponent then .infinite negative
  else if d.exponent + length < -330 then .finite negative Magnitude.zero
  else if 0 ≤ d.exponent then ofRatio negative (d.digits * Nat.pow 10 d.exponent.toNat) 1
  else ofRatio negative d.digits (Nat.pow 10 (-d.exponent).toNat)

end Binary64

namespace Magnitude

/-- The power of ten of a magnitude's first digit. -/
def decimalExponent (k : Magnitude) : Int :=
  let num := k.multiple
  let den := Nat.pow 2 subnormalShift
  if den ≤ num then (digits (num / den)).length - 1
  else
    let inverse := den / num
    let count := (digits inverse).length
    if inverse = Nat.pow 10 (count - 1) ∧ den % num = 0 then 1 - (count : Int) else -(count : Int)

/-- The magnitude over `10 ^ e`, as a ratio. -/
def scaled (k : Magnitude) (e : Int) : Nat × Nat :=
  (k.multiple * Nat.pow 10 (-e).toNat, Nat.pow 2 subnormalShift * Nat.pow 10 e.toNat)

/-- Whether a decimal is read as the magnitude. -/
def isReadFrom (k : Magnitude) (d : Decimal) : Bool :=
  Binary64.ofDecimal false (digits d.digits).length d = .finite false k

/-- The decimal next to the magnitude that counts in `10 ^ e` and is read as it: the nearer one if
there are two, and the even one if both are as near. -/
def decimalAt? (k : Magnitude) (e : Int) : Option Decimal :=
  let (num, den) := k.scaled e
  let below : Decimal := ⟨num / den, e⟩
  let above : Decimal := ⟨num / den + 1, e⟩
  match k.isReadFrom below, k.isReadFrom above with
  | true, true => some ⟨roundDiv num den, e⟩
  | true, false => some below
  | false, true => some above
  | false, false => none

/-- The magnitude itself as a decimal. -/
def exactDecimal (k : Magnitude) : Decimal :=
  ⟨k.multiple * Nat.pow 5 subnormalShift, -(subnormalShift : Int)⟩

/-- The shortest decimal that is read as the magnitude. Seventeen digits are always enough. -/
def shortest (k : Magnitude) : Decimal :=
  let hit := (List.range 17).findSome? fun i : Nat => k.decimalAt? (k.decimalExponent - i)
  hit.getD k.exactDecimal

end Magnitude

end JsonRpc
