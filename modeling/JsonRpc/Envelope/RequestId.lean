/-
Request ids.

An id is a whole number or a string and comes back with the reply. A truth value or a number with a
fraction part is neither, not even if the fraction is zero. A value that is no id has two problems,
one for each thing that it could have been.
-/
import JsonRpc.Envelope.Problem

namespace JsonRpc

inductive RequestId where
  | int (n : Int)
  | str (t : Text)
deriving DecidableEq

namespace RequestId

def toJson : RequestId → Json
  | .int n => .int n
  | .str t => .str t

/-- The id that a value is. -/
def ofJson? : Json → Option RequestId
  | .int n => some (.int n)
  | .str t => some (.str t)
  | _ => none

def check (v : Json) : Checked RequestId :=
  match ofJson? v with
  | some i => .ok i
  | none =>
    .error [⟨.notInteger, [Text.of "int"], v⟩, ⟨.notString, [Text.of "str"], v⟩]

/-- An id or null. -/
def checkOrNull (v : Json) : Checked (Option RequestId) :=
  match v with
  | .null => .ok none
  | v => (check v).map some

/-- The value of an id that may be missing. -/
def orNull : Option RequestId → Json
  | none => .null
  | some i => i.toJson

end RequestId

end JsonRpc
