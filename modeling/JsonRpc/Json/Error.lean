/-
Why a JSON document cannot be read or written.

A scanner gives the place of a fault as the text from the fault on; the place is turned into a line,
a column and an offset once the whole document is at hand. Lines and columns count from one, the
offset from zero, all in code points, and only a line feed ends a line.
-/
import JsonRpc.Text.Decimal

namespace JsonRpc.Json

/-- Departures from the grammar. -/
inductive Fault where
  /-- A value should stand here. -/
  | value
  /-- The name of a member should stand here. -/
  | name
  /-- A colon should stand here. -/
  | colon
  /-- A comma or a closing bracket should stand here. -/
  | comma
  /-- The document should have ended. -/
  | extra
  /-- The string that starts here does not end. -/
  | unterminated
  /-- A control character stands in a string. -/
  | control
  /-- No escape has this letter. -/
  | escape
  /-- A `u` is not followed by four hexadecimal digits. -/
  | unicodeEscape
  /-- The document starts with a byte order mark. -/
  | byteOrderMark
deriving DecidableEq

def Fault.message : Fault → Text
  | .value => Text.of "Expecting value"
  | .name => Text.of "Expecting property name enclosed in double quotes"
  | .colon => Text.of "Expecting ':' delimiter"
  | .comma => Text.of "Expecting ',' delimiter"
  | .extra => Text.of "Extra data"
  | .unterminated => Text.of "Unterminated string starting at"
  | .control => Text.of "Invalid control character at"
  | .escape => Text.of "Invalid \\escape"
  | .unicodeEscape => Text.of "Invalid \\uXXXX escape"
  | .byteOrderMark => Text.of "Unexpected UTF-8 BOM (decode using utf-8-sig)"

/-- The words for numbers that are not finite, which the grammar does not have. -/
inductive Constant where
  | nan
  | infinity
  | negativeInfinity
deriving DecidableEq

def Constant.word : Constant → Text
  | .nan => Text.of "NaN"
  | .infinity => Text.of "Infinity"
  | .negativeInfinity => Text.of "-Infinity"

/-- The two kinds of value that hold others. -/
inductive Container where
  | array
  | object
deriving DecidableEq

def Container.word : Container → Text
  | .array => Text.of "array"
  | .object => Text.of "object"

/-- How deep a document may be nested. Whoever reads or writes one further down in the calls of a
program has less room than that. -/
def nestingLimit : Nat := 990

/-- Why a document cannot be read. -/
inductive ReadError (Place : Type) where
  | malformed (fault : Fault) (place : Place)
  | constant (c : Constant)
  | longNumber (e : LongNumber)
  /-- This array or object is nested too deep. -/
  | tooDeep (kind : Container)
deriving DecidableEq

/-- A place in a text: line and column from one, offset from zero. -/
structure Position where
  line : Nat
  column : Nat
  offset : Nat
deriving DecidableEq

/-- The position behind a beginning of a text. -/
def Position.behind (before : Text) : Position :=
  let lineFeed : CodePoint := '\n'
  ⟨before.count lineFeed + 1, (before.reverse.takeWhile (· ≠ lineFeed)).length + 1, before.length⟩

/-- The position in `document` of its ending `rest`. -/
def Position.of (document rest : Text) : Position :=
  .behind (document.take (document.length - rest.length))

/-- Places the error in a document. -/
def ReadError.locate (document : Text) : ReadError Text → ReadError Position
  | .malformed fault rest => .malformed fault (.of document rest)
  | .constant c => .constant c
  | .longNumber e => .longNumber e
  | .tooDeep kind => .tooDeep kind

def ReadError.message : ReadError Position → Text
  | .malformed fault p =>
    fault.message ++ Text.of ": line " ++ Text.ofNat p.line ++ Text.of " column "
      ++ Text.ofNat p.column ++ Text.of " (char " ++ Text.ofNat p.offset ++ Text.of ")"
  | .constant c => Text.of "Invalid JSON token: " ++ c.word
  | .longNumber e => e.message
  | .tooDeep kind =>
    Text.of "maximum recursion depth exceeded while decoding a JSON " ++ kind.word
      ++ Text.of " from a unicode string"

/-- Why a value cannot be written. -/
inductive WriteError where
  | nonFinite
  | longNumber (e : LongNumber)
  /-- An array or an object is nested too deep. -/
  | tooDeep
deriving DecidableEq

def WriteError.message : WriteError → Text
  | .nonFinite => Text.of "Out of range float values are not JSON compliant"
  | .longNumber e => e.message
  | .tooDeep => Text.of "maximum recursion depth exceeded while encoding a JSON object"

end JsonRpc.Json
