/-
Tables.

A table is a list of keys with a value each, in the order in which the keys came. A key that is given
another value keeps its place.
-/
namespace JsonRpc

variable {K V : Type} [DecidableEq K]

/-- A table after a key is given a value. -/
def setEntry (key : K) (value : V) : List (K × V) → List (K × V)
  | [] => [(key, value)]
  | e :: es => if e.1 = key then (key, value) :: es else e :: setEntry key value es

end JsonRpc
