/-
Errors that a reply reports.

A handler or the dispatcher refuses a request with an error of one of five kinds, each with a code of
its own, or of a kind that the handler brings along, and with a message and data of its choice.
-/
import JsonRpc.Envelope.Response

namespace JsonRpc

inductive RpcErrorKind where
  | parse
  | invalidRequest
  | methodNotFound
  | invalidParams
  | internal
  /-- A kind of the handler's own, with this code. -/
  | custom (code : Int)
deriving DecidableEq

def RpcErrorKind.code : RpcErrorKind → Int
  | .parse => -32700
  | .invalidRequest => -32600
  | .methodNotFound => -32601
  | .invalidParams => -32602
  | .internal => -32603
  | .custom code => code

structure RpcError where
  kind : RpcErrorKind
  message : Text
  /-- Null if there is none. -/
  data : Json
deriving DecidableEq

namespace RpcError

def toErrorObject (e : RpcError) : ErrorObject := ⟨e.kind.code, e.message, e.data⟩

/-- The response that reports an error. -/
def response (id : Option RequestId) (e : RpcError) : Response := ⟨id, .error e.toErrorObject⟩

/-- Data that spells out the cause of an error. -/
def details (cause : Text) : Json := .obj [(Text.of "details", .str cause)]

/-- An error of the dispatcher itself. -/
def ofCause (cause : Text) : RpcError := ⟨.internal, Text.of "Internal error", details cause⟩

end RpcError

end JsonRpc
