/-
Tables over code points.

A property of code points is given by the ranges that have it, and a change of code points by the
images of those that change. Many of these lie at one distance from their images; blocks of
neighbours without such a rule are listed one by one, and their images may be texts of any length.
-/
import JsonRpc.Text.Basic

namespace JsonRpc.CodePoint

/-- A code point lies in one of several ranges, both ends of which are included. -/
def isIn (ranges : List (Nat × Nat)) (c : CodePoint) : Bool :=
  ranges.any fun (first, last) => first ≤ c.val && c.val ≤ last

/-- Every so many code points from a first to a last one, and the image of the first; the others are
as far from theirs. -/
structure Shift where
  first : Nat
  last : Nat
  step : Nat
  target : Nat

def Shift.image? (s : Shift) (c : CodePoint) : Option CodePoint :=
  if s.first ≤ c.val ∧ c.val ≤ s.last ∧ (c.val - s.first) % s.step = 0 then
    some (.ofNat (s.target + (c.val - s.first)))
  else none

/-- The image of a code point by the first of several shifts that it is in. -/
def imageBy (shifts : List Shift) (c : CodePoint) : Option CodePoint :=
  shifts.findSome? fun s => s.image? c

/-- The image of a code point in blocks of neighbours, each of which is given by its first one and
the images in order. -/
def blockImage? (blocks : List (Nat × List (List Nat))) (c : CodePoint) : Option Text :=
  blocks.findSome? fun (first, images) =>
    if first ≤ c.val then images[c.val - first]?.map fun image => image.map .ofNat else none

end JsonRpc.CodePoint
