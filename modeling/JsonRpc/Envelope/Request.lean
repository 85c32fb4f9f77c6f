/-
Requests.

A request names a method and carries positional parameters and an id, which it must have. It may
state the protocol version, which then has to be the string `2.0`.
-/
import JsonRpc.Envelope.RequestId

namespace JsonRpc

/-- The version of the protocol. -/
def protocolVersion : Text := Text.of "2.0"

/-- The protocol version as a value. No other string is one, and none that is not Unicode is
compared with it. -/
def checkVersion (v : Json) : Checked Unit :=
  match v with
  | .str _ => do
    let t ← Checked.unicode v
    if t = protocolVersion then .ok () else Checked.fail .wrongVersion v
  | _ => Checked.fail .wrongVersion v

structure Request where
  method : Text
  params : List Json
  id : RequestId
deriving DecidableEq

namespace Request

/-- Reads a request off a document. -/
def check : Json → Checked Request
  | .obj ms => do
    let (_, method, params, id) ←
      (Checked.optional ms (Text.of "jsonrpc") () checkVersion).both
        ((Checked.required ms (Text.of "method") Checked.string).both
          ((Checked.optional ms (Text.of "params") [] Checked.list).both
            (Checked.required ms (Text.of "id") RequestId.check)))
    return ⟨method, params, id⟩
  | v => Checked.fail (.notObject (Text.of "JSONRPCRequest")) v

/-- All parts of a request as a document. -/
def toJson (r : Request) : Json :=
  .obj [(Text.of "jsonrpc", .str protocolVersion), (Text.of "method", .str r.method),
    (Text.of "params", .arr r.params), (Text.of "id", r.id.toJson)]

end Request

/-- The request document of a method, parameters and an id, any of which may be any value; empty
parameters are an empty array. -/
def Json.request (method : Text) (params id : Json) : Json :=
  .obj [(Text.of "jsonrpc", .str protocolVersion), (Text.of "id", id),
    (Text.of "method", .str method),
    (Text.of "params", if params.isEmpty then .arr [] else params)]

end JsonRpc
