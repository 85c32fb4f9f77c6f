/-
Nameprep.

Labels that look or read the same are brought to one form before they are compared or encoded: every
code point is replaced by its image, and the result is put into canonical form. The prepared label
must hold nothing that is forbidden. If a letter in it is written from right to left, none is written
from left to right, and the label starts and ends with one that is written from right to left.
-/
import JsonRpc.Text.Canonical
import JsonRpc.Text.Nameprep.Image
import JsonRpc.Text.Nameprep.Property

namespace JsonRpc.Nameprep

/-- Why a label cannot be prepared. -/
inductive Fault where
  | forbidden (c : CodePoint)
  /-- Both directions come up. -/
  | mixedDirections
  /-- Neither or only one of the ends is written from right to left. -/
  | openEnd
deriving DecidableEq

/-- The first fault of a label with its images in canonical form. -/
def fault? (t : Text) : Option Fault :=
  match t.find? isForbidden with
  | some c => some (.forbidden c)
  | none =>
    if !t.any isRightToLeft then none
    else if t.any isLeftToRight then some .mixedDirections
    else if t.head?.any isRightToLeft && t.getLast?.any isRightToLeft then none
    else some .openEnd

/-- The prepared form of a label. -/
def prepare (label : Text) : Except Fault Text :=
  let t := Canonical.form (label.flatMap image)
  match fault? t with
  | some f => .error f
  | none => .ok t

end JsonRpc.Nameprep
