/-
Writing JSON documents.

A value is written on one line, its members in their order. A style says what stands behind commas
and colons, which characters are escaped and whether infinities and NaN may be written by word; one
style serves the wire and logs, another the documents of the health page. What is nested too deep to
be read is not written either.
-/
import JsonRpc.Json.Number
import JsonRpc.Json.StringLiteral

namespace JsonRpc.Json

/-- The choices that a writer leaves open. -/
structure Style where
  comma : Text
  colon : Text
  /-- Characters other than the printable ones of ASCII are escaped. -/
  ascii : Bool
  /-- Infinities and NaN are written by word. -/
  constants : Bool

/-- Spaced and in ASCII, infinities and NaN by word. -/
def Style.spaced : Style := ⟨Text.of ", ", Text.of ": ", true, true⟩

/-- Spaced and in ASCII, finite numbers only. -/
def Style.finite : Style := { Style.spaced with constants := false }

/-- Without spaces and with characters as they are, finite numbers only. -/
def Style.compact : Style := ⟨Text.of ",", Text.of ":", false, false⟩

/-- A value other than an array or an object. -/
def writeAtom (style : Style) : Json → Except WriteError Text
  | bool true => .ok (Text.of "true")
  | bool false => .ok (Text.of "false")
  | int n => (writeInt n).mapError .longNumber
  | float x => if x.isFinite || style.constants then .ok (writeFloat x) else .error .nonFinite
  | str t => .ok (StringLiteral.write style.ascii t)
  | _ => .ok (Text.of "null")

mutual

/-- The document of a value, nested at most `levels` deep. The first fault is the error. -/
def writeNested (style : Style) : (levels : Nat) → Json → Except WriteError Text
  | 0, arr _ | 0, obj _ => .error .tooDeep
  | _ + 1, arr [] => .ok (Text.of "[]")
  | levels + 1, arr (v :: vs) => do
    let first ← writeNested style levels v
    let others ← writeItems style levels vs
    return Text.of "[" ++ first ++ others ++ Text.of "]"
  | _ + 1, obj [] => .ok (Text.of "\x7b\x7d")
  | levels + 1, obj ((name, v) :: ms) => do
    let first ← writeNested style levels v
    let others ← writeMembers style levels ms
    return Text.of "\x7b" ++ StringLiteral.write style.ascii name ++ style.colon ++ first
      ++ others ++ Text.of "\x7d"
  | _, v => writeAtom style v

/-- The values of an array behind the first, each with the comma in front of it. -/
def writeItems (style : Style) : (levels : Nat) → List Json → Except WriteError Text
  | _, [] => .ok []
  | levels, v :: vs => do
    let first ← writeNested style levels v
    let others ← writeItems style levels vs
    return style.comma ++ first ++ others

/-- The members of an object behind the first, each with the comma in front of it. -/
def writeMembers (style : Style) : (levels : Nat) → List (Text × Json) → Except WriteError Text
  | _, [] => .ok []
  | levels, (name, v) :: ms => do
    let first ← writeNested style levels v
    let others ← writeMembers style levels ms
    return style.comma ++ StringLiteral.write style.ascii name ++ style.colon ++ first ++ others

end

/-- The document of a value in a style. -/
def writeWith (style : Style) (v : Json) : Except WriteError Text :=
  writeNested style nestingLimit v

/-- The document of a value on the wire and in logs. -/
def write (v : Json) : Except WriteError Text := writeWith .spaced v

end JsonRpc.Json
