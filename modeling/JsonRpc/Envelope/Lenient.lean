/-
Whole numbers in lenient form.

Where a form is lenient, a truth value counts as 0 or 1, a double-precision number without a
fraction as the whole number it is if that fits 64 bits, and a string as the number written in it.
-/
import JsonRpc.Envelope.Problem
import JsonRpc.Text.Grouped

namespace JsonRpc.Checked

/-- A whole number in lenient form. -/
def lenientInteger (v : Json) : Checked Int :=
  match v with
  | .int n => .ok n
  | .bool b => .ok (if b then 1 else 0)
  | .float x =>
    if x.isFinite then
      match x.toInt? with
      | none => fail .fractional v
      | some n => if n.natAbs < Nat.pow 2 63 then .ok n else fail .oversized v
    else fail .notFinite v
  | .str _ => do
    let t ← unicode v
    match Text.readPadded t with
    | .ok n => .ok n
    | .error .invalid => fail .unreadableInteger v
    | .error .long => fail .oversized v
  | _ => fail .notInteger v

end JsonRpc.Checked
