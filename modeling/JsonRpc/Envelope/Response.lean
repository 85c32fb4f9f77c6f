/-
Responses.

A response carries the id of its request, or null if that is not known, and either a result or an
error. An error has a code, a message and data, null if there is none. On the wire a response has
exactly one of the members `result` and `error`, and an error without data no member for it; a null
result is written.
-/
import JsonRpc.Envelope.Lenient
import JsonRpc.Envelope.Request
import JsonRpc.Json.Reader
import JsonRpc.Json.Writer

namespace JsonRpc

/-- The error object of a response. -/
structure ErrorObject where
  code : Int
  message : Text
  /-- Null if there is none. -/
  data : Json
deriving DecidableEq

namespace ErrorObject

/-- Reads an error object off a document. -/
def check : Json → Checked ErrorObject
  | .obj ms => do
    let (code, message) ←
      (Checked.required ms (Text.of "code") Checked.lenientInteger).both
        (Checked.required ms (Text.of "message") Checked.string)
    return ⟨code, message, (Json.member? (Text.of "data") ms).getD .null⟩
  | v => Checked.fail (.notObject (Text.of "JSONRPCError")) v

/-- All parts of an error object as a document. -/
def toJson (e : ErrorObject) : Json :=
  .obj [(Text.of "code", .int e.code), (Text.of "message", .str e.message),
    (Text.of "data", e.data)]

/-- An error object on the wire. -/
def wire (e : ErrorObject) : Json :=
  .obj ([(Text.of "code", .int e.code), (Text.of "message", .str e.message)]
    ++ if e.data = .null then [] else [(Text.of "data", e.data)])

end ErrorObject

/-- What a response reports. -/
inductive Report where
  | result (v : Json)
  | error (e : ErrorObject)
deriving DecidableEq

structure Response where
  id : Option RequestId
  report : Report
deriving DecidableEq

namespace Response

/-- The report of a result and an error of which at most one is there. -/
def reportOf (ms : List (Text × Json)) (result : Json) (error : Option ErrorObject) :
    Checked Report :=
  match error, result with
  | none, v => .ok (.result v)
  | some e, .null => .ok (.error e)
  | some _, _ => Checked.fail .resultAndError (.obj ms)

/-- Reads a response off a document. -/
def check : Json → Checked Response
  | .obj ms => do
    let orNone (v : Json) : Checked (Option ErrorObject) :=
      if v = .null then .ok none else (ErrorObject.check v).map some
    let (_, id, error) ←
      (Checked.optional ms (Text.of "jsonrpc") () checkVersion).both
        ((Checked.required ms (Text.of "id") RequestId.checkOrNull).both
          (Checked.optional ms (Text.of "error") none orNone))
    let report ← reportOf ms ((Json.member? (Text.of "result") ms).getD .null) error
    return ⟨id, report⟩
  | v => Checked.fail (.notObject (Text.of "JSONRPCResponse")) v

/-- All parts of a response as a document. -/
def toJson (r : Response) : Json :=
  let (result, error) : Json × Json :=
    match r.report with
    | .result v => (v, .null)
    | .error e => (.null, e.toJson)
  .obj [(Text.of "jsonrpc", .str protocolVersion), (Text.of "id", RequestId.orNull r.id),
    (Text.of "result", result), (Text.of "error", error)]

/-- A response on the wire. -/
def wire (r : Response) : Json :=
  .obj [(Text.of "jsonrpc", .str protocolVersion), (Text.of "id", RequestId.orNull r.id),
    match r.report with
    | .result v => (Text.of "result", v)
    | .error e => (Text.of "error", e.wire)]

/-- The text of a response on the wire. -/
def write (r : Response) : Except Json.WriteError Text := r.wire.write

/-- How deep a document may be nested for every reader to take it. -/
def portableDepth : Nat := 200

/-- The document in the text of a response, if every reader takes it: it is not nested too deep and
names no lone surrogate. -/
def reread? (r : Response) : Option Json := do
  let t ← r.write.toOption
  let v ← (Json.read t).toOption
  if v.depth ≤ portableDepth && !v.hasSurrogate then some v else none

/-- Whether the response in a document read back is the same. It is not if two surrogates have come
together as one code point, and NaN is not the same as itself. -/
def isReadFrom (r : Response) (v : Json) : Bool :=
  !v.hasNaN && decide ((check v).toOption = some r)

end Response

end JsonRpc
