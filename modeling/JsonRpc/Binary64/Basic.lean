/-
Double-precision numbers.

A number is not a number, an infinity of either sign, or a finite number. The finite magnitudes are
ranked: rank 0 is zero, rank 1 the least positive magnitude, and each next rank the next magnitude
up, so that the order of ranks is the order of values. The magnitude of rank `k` is a significand
times a power of two: ranks below 2^52 keep the least exponent, and from there every block of 2^52
ranks doubles the step.

Rounding takes a ratio of naturals to the nearest magnitude, a tie to the even significand. The
exponent is chosen so that the rounded significand has 53 bits where the least exponent allows it;
the rank is then read off exponent and significand, and a significand rounded up to 2^53 lands on
the next block without a case of its own.
-/
namespace JsonRpc

/-- The number of finite magnitudes, zero included. -/
def finiteRanks : Nat := 2047 * Nat.pow 2 52

/-- A finite magnitude, by rank. -/
abbrev Magnitude := Fin finiteRanks

/-- A double-precision number. Zero has a sign. -/
inductive Binary64 where
  | nan
  | infinite (negative : Bool)
  | finite (negative : Bool) (rank : Magnitude)
deriving DecidableEq

/-- The exponent of the least positive magnitude, negated. -/
def subnormalShift : Nat := 1074

namespace Magnitude

/-- The factor of the power of two in a magnitude. -/
def significand (k : Magnitude) : Nat :=
  if k.val < Nat.pow 2 52 then k.val else Nat.pow 2 52 + k.val % Nat.pow 2 52

/-- How many times the least positive magnitude's exponent is exceeded. -/
def shift (k : Magnitude) : Nat := k.val / Nat.pow 2 52 - 1

/-- A magnitude as a multiple of the least positive one. -/
def multiple (k : Magnitude) : Nat := k.significand * Nat.pow 2 k.shift

def zero : Magnitude := ⟨0, by decide⟩

end Magnitude

/-- The quotient of two naturals rounded to the nearest, a tie to the even. -/
def roundDiv (num den : Nat) : Nat :=
  let q := num / den
  let twice := 2 * (num % den)
  if twice < den ∨ (twice = den ∧ q % 2 = 0) then q else q + 1

/-- The shift at which `num / den` multiples of the least positive magnitude have a significand of
53 bits; zero if they have fewer at every shift. -/
def shiftOf (num den : Nat) : Nat :=
  let guess := num.log2 - den.log2 - 52
  if num < den * Nat.pow 2 (guess + 52) then guess - 1 else guess

/-- The rank of the magnitude nearest to `num / den` multiples of the least positive one. It is
`finiteRanks` or more if the nearest is past the finite magnitudes. -/
def rankOf (num den : Nat) : Nat :=
  let s := shiftOf num den
  s * Nat.pow 2 52 + roundDiv num (den * Nat.pow 2 s)

namespace Binary64

/-- The number of a rank, infinite past the finite ones. -/
def ofRank (negative : Bool) (k : Nat) : Binary64 :=
  if h : k < finiteRanks then .finite negative ⟨k, h⟩ else .infinite negative

/-- The number nearest to `num / den` multiples of the least positive one. -/
def roundMultiple (negative : Bool) (num den : Nat) : Binary64 := ofRank negative (rankOf num den)

/-- The number nearest to `num / den`. -/
def ofRatio (negative : Bool) (num den : Nat) : Binary64 :=
  roundMultiple negative (num * Nat.pow 2 subnormalShift) den

def isFinite : Binary64 → Bool
  | .finite .. => true
  | _ => false

def isNaN : Binary64 → Bool
  | .nan => true
  | _ => false

def neg : Binary64 → Binary64
  | .nan => .nan
  | .infinite s => .infinite !s
  | .finite s k => .finite (!s) k

/-- A finite number as a multiple of the least positive magnitude. -/
def signedMultiple (negative : Bool) (k : Magnitude) : Int :=
  if negative then -(k.multiple : Int) else k.multiple

/-- The exact sum of finite numbers is rounded once. A sum of zero is negative only if both terms
are negative zeros; opposite infinities have no sum. -/
def add : Binary64 → Binary64 → Binary64
  | .nan, _ | _, .nan => .nan
  | .infinite s, .infinite t => if s = t then .infinite s else .nan
  | .infinite s, .finite .. | .finite .., .infinite s => .infinite s
  | .finite s j, .finite t k =>
    let sum := signedMultiple s j + signedMultiple t k
    if sum = 0 then .finite (s && t) Magnitude.zero
    else roundMultiple (sum < 0) sum.natAbs 1

def sub (x y : Binary64) : Binary64 := x.add y.neg

/-- The number nearest to an integer, if that is finite. -/
def ofInt? (n : Int) : Option Binary64 :=
  let x := ofRatio (n < 0) n.natAbs 1
  if x.isFinite then some x else none

/-- A finite number that has no fraction, as an integer. -/
def toInt? : Binary64 → Option Int
  | .finite s k =>
    let n := signedMultiple s k
    let one : Int := Nat.pow 2 subnormalShift
    if n % one = 0 then some (n / one) else none
  | _ => none

def isZero : Binary64 → Bool
  | .finite _ k => k.val = 0
  | _ => false

end Binary64

end JsonRpc
