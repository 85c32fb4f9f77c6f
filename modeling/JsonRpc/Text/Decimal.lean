/-
Whole numbers in decimal.

A number is written with the fewest digits and read from any number of them, leading zeros
included. Both ways are bounded: text of more than `digitLimit` digits is refused, and the refusal
says which way it was going.
-/
import JsonRpc.Text.Basic

namespace JsonRpc

/-- The number that decimal digits denote, the most significant first. -/
def ofDigits (ds : List (Fin 10)) : Nat := ds.foldl (fun n d => 10 * n + d.val) 0

/-- The decimal digits of `n`, the most significant first, in front of `tail`. -/
def digitsOnto (n : Nat) (tail : List (Fin 10)) : List (Fin 10) :=
  if h : n < 10 then ⟨n, h⟩ :: tail
  else digitsOnto (n / 10) (⟨n % 10, Nat.mod_lt n (by decide)⟩ :: tail)

/-- The decimal digits of a number, with no leading zero but that of zero itself. -/
def digits (n : Nat) : List (Fin 10) := digitsOnto n []

/-- The most decimal digits that the text of a whole number may have. -/
def digitLimit : Nat := 4300

/-- A whole number whose text is over the limit. -/
inductive LongNumber where
  /-- Text of `count` digits was to be read. -/
  | reading (count : Nat)
  /-- The number was to be written. -/
  | writing
deriving DecidableEq

namespace Text

/-- A number in decimal, however long. -/
def ofNat (n : Nat) : Text := (digits n).map CodePoint.ofDigit

/-- A number in decimal with a sign if it is negative, however long. -/
def ofInt : Int → Text
  | .ofNat n => ofNat n
  | .negSucc n => .ofChar '-' :: ofNat (n + 1)

/-- The ASCII digits that a text starts with, and what follows them. -/
def spanDigits : Text → List (Fin 10) × Text
  | [] => ([], [])
  | c :: rest =>
    match c.digit? with
    | some d => let (ds, after) := spanDigits rest; (d :: ds, after)
    | none => ([], c :: rest)

/-- Whether a text starts with a minus sign, and what follows the sign if there is one. -/
def splitMinus : Text → Bool × Text
  | [] => (false, [])
  | c :: rest => if c = '-' then (true, rest) else (false, c :: rest)

/-- Whether a text starts with a minus sign, and what follows the sign, which may also be a plus, if
there is one. -/
def splitSign : Text → Bool × Text
  | [] => (false, [])
  | c :: rest =>
    if c = '-' then (true, rest) else if c = '+' then (false, rest) else (false, c :: rest)

def signed (negative : Bool) (n : Nat) : Int := if negative then -(n : Int) else n

end Text

namespace LongNumber

def message : LongNumber → Text
  | .reading count =>
    Text.of "Exceeds the limit (4300 digits) for integer string conversion: value has "
      ++ Text.ofNat count ++ Text.of " digits; use sys.set_int_max_str_digits() to increase the limit"
  | .writing =>
    Text.of ("Exceeds the limit (4300 digits) for integer string conversion; "
      ++ "use sys.set_int_max_str_digits() to increase the limit")

end LongNumber

/-- The number of a run of digits, if the run is within the limit. -/
def readDigits (ds : List (Fin 10)) : Except LongNumber Nat :=
  if ds.length ≤ digitLimit then .ok (ofDigits ds) else .error (.reading ds.length)

/-- The text of a number, if it is within the limit. -/
def writeInt (n : Int) : Except LongNumber Text :=
  if (digits n.natAbs).length ≤ digitLimit then .ok (Text.ofInt n) else .error .writing

end JsonRpc
