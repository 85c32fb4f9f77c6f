/-
Whole numbers typed by people.

Digits may be grouped by single underscores between them. Two readers allow this, and a sign, and
white space around it all. The first takes the decimal digits of any script. The second takes ASCII
digits only, but leaves out zeros in front, with underscores among them, and a fraction of zeros. A
minus sign may follow such zeros, as long as there is no other.
-/
import JsonRpc.Text.Blank
import JsonRpc.Text.Decimal
import JsonRpc.Text.DecimalDigit
import JsonRpc.Text.Quoted

namespace JsonRpc.Text

/-- The digits that a text consists of, single underscores between them left out. -/
def grouped? (value? : CodePoint → Option (Fin 10)) : Text → Option (List (Fin 10))
  | [] => none
  | c :: rest =>
    match value? c, rest with
    | none, _ => none
    | some d, [] => some [d]
    | some d, u :: more =>
      if u = '_' then (grouped? value? more).map (d :: ·)
      else (grouped? value? (u :: more)).map (d :: ·)

/-- Why a text is not read as a whole number. -/
inductive NumeralError where
  | invalid (t : Text)
  | long (e : LongNumber)
deriving DecidableEq

/-- Shows at most 200 code points of the text. -/
def NumeralError.message : NumeralError → Text
  | .invalid t => of "invalid literal for int() with base 10: " ++ (quoted t).take 200
  | .long e => e.message

/-- The whole number that a text in the digits of any script denotes. A run of digits over the limit
is reported even if something follows it. -/
def readInteger (t : Text) : Except NumeralError Int :=
  let (negative, body) := splitSign (trim t)
  let run := body.takeWhile fun c : CodePoint => c.decimal?.isSome || c = '_'
  match grouped? CodePoint.decimal? run with
  | none => .error (.invalid t)
  | some ds =>
    match readDigits ds with
    | .error e => .error (.long e)
    | .ok n => if run.length = body.length then .ok (signed negative n) else .error (.invalid t)

/-- Why the text of a padded whole number is not read. -/
inductive PaddingError where
  | invalid
  | long
deriving DecidableEq

/-- The whole number of a text without padding: a minus sign if it is negative, and digits, of which
the first is no zero unless it is the only one. A run of digits over the limit is reported even if
something follows it. -/
def readPlain (t : Text) : Except PaddingError Int :=
  let (negative, body) := splitMinus t
  let (run, rest) := spanDigits body
  match run with
  | [] => .error .invalid
  | d :: ds =>
    if d.val = 0 && !ds.isEmpty then .error .invalid
    else if digitLimit < (d :: ds).length then .error .long
    else if rest.isEmpty then .ok (signed negative (ofDigits (d :: ds)))
    else .error .invalid

/-- What is left behind a zero when the zeros and underscores that follow are skipped: `last` is the
last character skipped. A number goes on with a digit or with a sign of its own; in front of a
fraction, or of nothing, it keeps the last character. -/
def skipZeros? (last : CodePoint) : Text → Option Text
  | [] => some [last]
  | c :: rest =>
    if c = '0' || c = '_' then skipZeros? c rest
    else if c = '.' then some (last :: c :: rest)
    else if c = '-' || c.isDigit then some (c :: rest)
    else none

/-- A number without the zeros in front, if it starts with a digit. -/
def withoutZeros? : Text → Option Text
  | [] => none
  | c :: rest =>
    if c = '0' then skipZeros? c rest else if c.isDigit then some (c :: rest) else none

/-- A text without the point and the zeros at its end, if there are both. -/
def withoutZeroFraction (t : Text) : Text :=
  let whole := t.takeWhile fun c : CodePoint => c ≠ '.'
  match t.drop whole.length with
  | _ :: z :: zs => if (z :: zs).all fun c : CodePoint => c = '0' then whole else t
  | _ => t

/-- Underscores stand only singly and between other characters. -/
def isGrouped (t : Text) : Bool :=
  t.head? ≠ some (.ofChar '_') && t.getLast? ≠ some (.ofChar '_')
    && (t.zip t.tail).all fun (c, d) => c ≠ CodePoint.ofChar '_' || d ≠ CodePoint.ofChar '_'

/-- A text without its underscores, if they group it. -/
def withoutGrouping (t : Text) : Text :=
  if isGrouped t then t.filter fun c : CodePoint => c ≠ '_' else t

/-- A whole number in ASCII digits without its padding: white space around it, a plus sign, zeros in
front, a fraction of zeros, and underscores. -/
def withoutPadding? (t : Text) : Option Text :=
  let (negative, body) := splitSign (trim t)
  (withoutZeros? body).map fun core =>
    (if negative then of "-" else []) ++ withoutGrouping (withoutZeroFraction core)

/-- The whole number that a text in ASCII digits denotes, with padding or without. That the text is
too long is reported only if it has no padding. -/
def readPadded (t : Text) : Except PaddingError Int :=
  match readPlain t with
  | .error .invalid =>
    match (withoutPadding? t).map readPlain with
    | some (.ok n) => .ok n
    | _ => .error .invalid
  | r => r

end JsonRpc.Text
