/-
Checking a value against a form.

A check reads a value off a JSON document or lists every problem that keeps it from doing so: what
is wrong, where, and with which value. The parts of a form are checked independently and their
problems listed in the order of the form, whatever the order in the document. Members that the form
does not name are ignored.
-/
import JsonRpc.Json.Basic
import JsonRpc.Text.Decimal

namespace JsonRpc

/-- What is wrong with a value. -/
inductive Issue where
  /-- An object is wanted, read as the form of this name. -/
  | notObject (form : Text)
  | missing
  | wrongVersion
  | notString
  | notUnicode
  | notList
  | notInteger
  | unreadableInteger
  | fractional
  | oversized
  | notFinite
  | below (least : Int)
  | above (greatest : Int)
  | resultAndError
deriving DecidableEq

/-- The short name of an issue. -/
def Issue.code : Issue → Text
  | .notObject _ => Text.of "model_type"
  | .missing => Text.of "missing"
  | .wrongVersion => Text.of "literal_error"
  | .notString => Text.of "string_type"
  | .notUnicode => Text.of "string_unicode"
  | .notList => Text.of "list_type"
  | .notInteger => Text.of "int_type"
  | .unreadableInteger => Text.of "int_parsing"
  | .fractional => Text.of "int_from_float"
  | .oversized => Text.of "int_parsing_size"
  | .notFinite => Text.of "finite_number"
  | .below _ => Text.of "greater_than_equal"
  | .above _ => Text.of "less_than_equal"
  | .resultAndError => Text.of "value_error"

def Issue.message : Issue → Text
  | .notObject form =>
    Text.of "Input should be a valid dictionary or instance of " ++ form
  | .missing => Text.of "Field required"
  | .wrongVersion => Text.of "Input should be '2.0'"
  | .notString => Text.of "Input should be a valid string"
  | .notUnicode =>
    Text.of "Input should be a valid string, unable to parse raw data as a unicode string"
  | .notList => Text.of "Input should be a valid list"
  | .notInteger => Text.of "Input should be a valid integer"
  | .unreadableInteger =>
    Text.of "Input should be a valid integer, unable to parse string as an integer"
  | .fractional =>
    Text.of "Input should be a valid integer, got a number with a fractional part"
  | .oversized => Text.of "Unable to parse input string as an integer, exceeded maximum size"
  | .notFinite => Text.of "Input should be a finite number"
  | .below least => Text.of "Input should be greater than or equal to " ++ Text.ofInt least
  | .above greatest => Text.of "Input should be less than or equal to " ++ Text.ofInt greatest
  | .resultAndError => Text.of "Value error, response must not carry both result and error"

/-- An issue, the path to where it is, and the value that has it. A missing member is an issue of
the object that lacks it. -/
structure Problem where
  issue : Issue
  path : List Text
  input : Json
deriving DecidableEq

/-- A problem as a JSON object. -/
def Problem.toJson (p : Problem) : Json :=
  .obj [(Text.of "type", .str p.issue.code), (Text.of "loc", .arr (p.path.map .str)),
    (Text.of "msg", .str p.issue.message), (Text.of "input", p.input)]

/-- Problems as a JSON array. -/
def Problem.report (ps : List Problem) : Json := .arr (ps.map Problem.toJson)

/-- A value read off a document, or all the problems that prevented it. -/
abbrev Checked := Except (List Problem)

namespace Checked

/-- Both values, or the problems of both. -/
def both {α β : Type} (a : Checked α) (b : Checked β) : Checked (α × β) :=
  match a, b with
  | .ok x, .ok y => .ok (x, y)
  | .ok _, .error qs => .error qs
  | .error ps, .ok _ => .error ps
  | .error ps, .error qs => .error (ps ++ qs)

/-- The same check with every problem under a member of the value. -/
def under {α : Type} (name : Text) (a : Checked α) : Checked α :=
  a.mapError fun ps => ps.map fun p => { p with path := name :: p.path }

/-- One problem. -/
def fail {α : Type} (issue : Issue) (input : Json) : Checked α := .error [⟨issue, [], input⟩]

/-- The member of a name, if there is one, checked. -/
def optional {α : Type} (members : List (Text × Json)) (name : Text) (absent : α)
    (check : Json → Checked α) : Checked α :=
  match Json.member? name members with
  | none => .ok absent
  | some v => under name (check v)

/-- The member of a name, which has to be there, checked. -/
def required {α : Type} (members : List (Text × Json)) (name : Text)
    (check : Json → Checked α) : Checked α :=
  match Json.member? name members with
  | none => under name (fail .missing (.obj members))
  | some v => under name (check v)

/-- A string. -/
def string : Json → Checked Text
  | .str t => .ok t
  | v => fail .notString v

/-- A string that has to be Unicode to be looked into. -/
def unicode : Json → Checked Text
  | .str t => if t.hasSurrogate then fail .notUnicode (.str t) else .ok t
  | v => fail .notString v

/-- An array. -/
def list : Json → Checked (List Json)
  | .arr vs => .ok vs
  | v => fail .notList v

/-- A whole number, no other value counting as one. -/
def integer : Json → Checked Int
  | .int n => .ok n
  | v => fail .notInteger v

end Checked

end JsonRpc
