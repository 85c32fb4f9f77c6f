/-
Numbers.

A number is an optional minus sign, a whole part without a leading zero, an optional fraction and an
optional exponent. Without fraction and exponent it denotes a whole number, otherwise the nearest
double-precision one. A fraction or an exponent that breaks off before its first digit is no part of
the number.

A double-precision number is written with its shortest decimal: positionally if the exponent of its
first digit is at least -4 and less than 16, and with a point in any case; otherwise with that
exponent, signed and of two digits at least.
-/
import JsonRpc.Binary64.Decimal
import JsonRpc.Json.Basic
import JsonRpc.Json.Error

namespace JsonRpc.Json

/-- The parts of a number as written. -/
structure Numeral where
  negative : Bool
  whole : List (Fin 10)
  /-- The digits behind the point, none if there is no point. -/
  fraction : List (Fin 10)
  /-- The sign and the digits of the exponent. -/
  exponent : Option (Bool × List (Fin 10))
deriving DecidableEq

namespace Numeral

/-- The whole part that a text starts with: a zero, or digits of which the first is not. -/
def scanWhole? (t : Text) : Option (List (Fin 10) × Text) :=
  match t with
  | [] => none
  | c :: rest =>
    match c.digit? with
    | none => none
    | some 0 => some ([0], rest)
    | some _ => some (Text.spanDigits t)

/-- The digits of the fraction that a text starts with, if any. -/
def scanFraction (t : Text) : List (Fin 10) × Text :=
  match t with
  | c :: rest =>
    if c = '.' then
      match Text.spanDigits rest with
      | ([], _) => ([], t)
      | (ds, after) => (ds, after)
    else ([], t)
  | [] => ([], t)

/-- The exponent that a text starts with, if any. -/
def scanExponent (t : Text) : Option (Bool × List (Fin 10)) × Text :=
  match t with
  | c :: rest =>
    if c = 'e' ∨ c = 'E' then
      let (negative, rest₂) := Text.splitSign rest
      match Text.spanDigits rest₂ with
      | ([], _) => (none, t)
      | (ds, after) => (some (negative, ds), after)
    else (none, t)
  | [] => (none, t)

/-- The number that a text starts with and what follows it. -/
def scan? (t : Text) : Option (Numeral × Text) := do
  let (negative, t₁) := Text.splitMinus t
  let (whole, t₂) ← scanWhole? t₁
  let (fraction, t₃) := scanFraction t₂
  let (exponent, t₄) := scanExponent t₃
  return (⟨negative, whole, fraction, exponent⟩, t₄)

/-- The power of ten of the last digit. -/
def scale (n : Numeral) : Int :=
  let e : Int :=
    match n.exponent with
    | none => 0
    | some (negative, ds) => Text.signed negative (ofDigits ds)
  e - n.fraction.length

/-- The value that a number denotes. -/
def value (n : Numeral) : Except LongNumber Json :=
  match n.fraction, n.exponent with
  | [], none => do
    let magnitude ← readDigits n.whole
    return .int (Text.signed n.negative magnitude)
  | _, _ =>
    let ds := n.whole ++ n.fraction
    .ok (.float (.ofDecimal n.negative ds.length ⟨ofDigits ds, n.scale⟩))

end Numeral

/-- Zeros in front of a text until it has a given length. -/
def padZeros (length : Nat) (t : Text) : Text :=
  List.replicate (length - t.length) (.ofChar '0') ++ t

/-- The digits of a decimal around its point, or in front of its exponent. -/
def layOut (d : Decimal) : Text :=
  let all := digits d.digits
  let point : Int := d.exponent + all.length
  let ds := (all.reverse.dropWhile (· = 0)).reverse.map CodePoint.ofDigit
  let e := point - 1
  if -4 ≤ e ∧ e < 16 then
    if point ≤ 0 then Text.of "0." ++ List.replicate (-point).toNat (.ofChar '0') ++ ds
    else if point.toNat < ds.length then ds.take point.toNat ++ Text.of "." ++ ds.drop point.toNat
    else ds ++ List.replicate (point.toNat - ds.length) (.ofChar '0') ++ Text.of ".0"
  else
    ds.take 1 ++ (if ds.length ≤ 1 then [] else Text.of "." ++ ds.drop 1) ++ Text.of "e"
      ++ (if e < 0 then Text.of "-" else Text.of "+") ++ padZeros 2 (Text.ofNat e.natAbs)

/-- A double-precision number, by word if it is not finite. -/
def writeFloat : Binary64 → Text
  | .nan => Constant.nan.word
  | .infinite false => Constant.infinity.word
  | .infinite true => Constant.negativeInfinity.word
  | .finite negative k =>
    (if negative then Text.of "-" else [])
      ++ if k.val = 0 then Text.of "0.0" else layOut k.shortest

end JsonRpc.Json
