/-
Names of hosts.

A name consists of labels with a dot between each two. Names are asked for in ASCII: a label with
other characters is prepared first and, if that does not make it ASCII, written in punycode behind a
mark. Wherever a name is not ASCII, the ideographic full stops are dots as well.
-/
import JsonRpc.Text.Decimal
import JsonRpc.Text.Nameprep
import JsonRpc.Text.Punycode
import JsonRpc.Text.Quoted

namespace JsonRpc.HostName

/-- Why a name is not written in ASCII. -/
inductive Fault where
  | emptyOrLong
  | long
  | unprepared (f : Nameprep.Fault)
  /-- A label that is still to be written in punycode starts with the mark. -/
  | marked
deriving DecidableEq

def Fault.reason : Fault → Text
  | .emptyOrLong => Text.of "label empty or too long"
  | .long => Text.of "label too long"
  | .unprepared (.forbidden c) => Text.of "Invalid character " ++ Text.quoted [c]
  | .unprepared .mixedDirections => Text.of "Violation of BIDI requirement 2"
  | .unprepared .openEnd => Text.of "Violation of BIDI requirement 3"
  | .marked => Text.of "Label starts with ACE prefix"

def Fault.message (f : Fault) : Text :=
  Text.of "encoding with 'idna' codec failed (UnicodeError: " ++ f.reason ++ Text.of ")"

/-- The greatest length of a label. -/
def longestLabel : Nat := 63

/-- The greatest length of a name, a dot at its end not counted. -/
def longestName : Nat := 253

/-- The mark of a label in punycode. -/
def mark : Text := Text.of "xn--"

/-- The full stops between labels. -/
def isDot (c : CodePoint) : Bool := [0x2E, 0x3002, 0xFF0E, 0xFF61].contains c.val

/-- A label that is not empty and not too long. -/
def sized (label : Text) : Except Fault Text :=
  if label = [] || longestLabel < label.length then .error .emptyOrLong else .ok label

/-- A label in ASCII. -/
def encodeLabel (label : Text) : Except Fault Text := do
  if label.isAscii then sized label
  else
    let prepared ← (Nameprep.prepare label).mapError .unprepared
    if prepared.isAscii then sized prepared
    else if mark.isPrefixOf prepared then throw .marked
    else sized (mark ++ Punycode.encode prepared)

/-- The labels of a name; a dot at its end has no label behind it. -/
def labels (isDot : CodePoint → Bool) (name : Text) : List Text :=
  let all := name.split isDot
  if all.getLast? = some [] then all.dropLast else all

/-- A name in ASCII. One that is ASCII already is its own, if its labels are not too long. -/
def encode (name : Text) : Except Fault Text := do
  if name.isAscii then
    let all := name.segments
    let _ ← all.dropLast.mapM sized
    if all.getLast?.any fun label => longestLabel < label.length then throw .long
    return name
  else
    let encoded ← (labels isDot name).mapM encodeLabel
    let ending := if name.getLast?.any isDot then Text.of "." else []
    return Text.intercalate (Text.of ".") encoded ++ ending

/-! ## Names that can be asked for -/

def isNamePart (c : CodePoint) : Bool := c.isLetter || c.isDigit || c = '-' || c = '_'

/-- A name without escapes, given the digits of an escape that is not complete. A backslash stands
before a character or the three decimal digits of one, and nothing but what may be in a name anyway
can be escaped. -/
def unescapeFrom? : (escape : Option (List (Fin 10))) → Text → Option Text
  | none, [] => some []
  | some _, [] => none
  | none, c :: rest =>
    if c = '\\' then unescapeFrom? (some []) rest else (unescapeFrom? none rest).map (c :: ·)
  | some ds, c :: rest =>
    match ds, c.digit? with
    | [], none => if isNamePart c then (unescapeFrom? none rest).map (c :: ·) else none
    | [x, y], some z =>
      let escaped := CodePoint.ofNat (ofDigits [x, y, z])
      if isNamePart escaped then (unescapeFrom? none rest).map (escaped :: ·) else none
    | _, some x => unescapeFrom? (some (ds ++ [x])) rest
    | _, none => none

/-- A name in ASCII and without escapes can be asked for. The single dot is the name of the root. -/
def isPlainName (name : Text) : Bool :=
  let all := labels (fun c => c = '.') name
  name = Text.of "." ||
    (all.all fun label => label ≠ [] && label.length ≤ longestLabel && label.all isNamePart)
      && all ≠ [] && name.head? ≠ some (.ofChar '-')
      && (Text.intercalate (Text.of ".") all).length ≤ longestName

/-- A name in ASCII can be asked for. -/
def isKnowable (name : Text) : Bool := (unescapeFrom? none name).any isPlainName

end JsonRpc.HostName
