/-
Dispatch.

A message is the text of one request, or bytes that encode it in UTF-8. Dispatching a message either
answers it at once or comes to the point where one handler has to run; the reply is then decided by
what the handler's run came to. Both halves are plain functions, so whoever runs handlers is free to
do so at once, later, or between other things.

Before a handler runs, in this order: the message has to be JSON, the document a request, the method
known and, if the dispatcher is strict, the number of parameters the declared one. After it ran, its
value has to have a JSON text with finite numbers only.

Two things have no reply: a document nested too deep to be read, and the failure of a handler whose
error cannot be put into words.
-/
import JsonRpc.Catalog
import JsonRpc.RpcError
import JsonRpc.Text.Utf8

namespace JsonRpc

/-! ## Depth

A reply is written where a document may be nested as deep as `Json.nestingLimit` says. From there on
each call that is under way costs a level. -/

/-- How deep a message may be nested. -/
def messageLimit : Nat := Json.nestingLimit - 1

/-- How deep the value of a handler may be nested. -/
def resultLimit : Nat := messageLimit - 1

/-- How deep a document may be nested that a handler itself reads or writes. -/
def handlerLimit : Nat := resultLimit - 1

/-! ## Messages and replies -/

/-- What arrives from outside. -/
inductive Message where
  | text (t : Text)
  | bytes (b : Bytes)
deriving DecidableEq

/-- Why a handler has no value. -/
inductive Failure where
  /-- The request is refused with an error of the handler's choice. -/
  | rpc (e : RpcError)
  /-- The handler holds a value to be wrong. -/
  | badValue (message : Text)
  /-- Something else went wrong. -/
  | other (message : Text)
  /-- The error has no text to report: asking for it fails in turn, with this message. -/
  | unreportable (message : Text)
deriving DecidableEq

/-- What the run of a handler comes to. -/
inductive Outcome where
  | value (v : Json)
  /-- The handler has a value that is no JSON value. -/
  | unwritable (reason : Text)
  | failed (f : Failure)
deriving DecidableEq

/-- A reply and the lines that making it adds to the log. -/
structure Answer where
  response : Response
  log : Log

/-- What ends the dispatch of a message without a reply. -/
inductive Abort where
  /-- An array or an object of the message is nested too deep. -/
  | tooDeep (kind : Json.Container)
  /-- A handler failed with an error that cannot be reported. -/
  | unreportable (message : Text)
deriving DecidableEq

def Abort.message : Abort → Text
  | .tooDeep kind => Json.ReadError.message (.tooDeep kind)
  | .unreportable message => message

/-- A dispatched message: answered, or waiting for the outcome of a method's handler. -/
inductive Dispatched (H : Type) where
  | answered (a : Answer)
  | invoking (m : Method H) (r : Request)

structure Dispatcher (H : Type) where
  catalog : Catalog H := {}
  /-- The number of parameters has to be the declared one. -/
  strictArity : Bool := false

namespace Request

/-- The reply that a request is refused with. -/
def refuse (r : Request) (e : RpcError) : Answer :=
  ⟨e.response (some r.id),
    if e.kind = .methodNotFound then [⟨.warning, .dispatcher, e.message⟩] else []⟩

/-- The reply to a request after a wrong value. -/
def reject (r : Request) (message : Text) : Answer :=
  ⟨RpcError.response (some r.id) ⟨.invalidParams, message, .null⟩, []⟩

/-- The reply to a request whose handler has no JSON value. -/
def unwritable (r : Request) (reason : Text) : Answer :=
  ⟨(RpcError.ofCause reason).response (some r.id),
    [⟨.error, .dispatcher,
      Text.of "Unserializable result from " ++ r.method ++ Text.of ": " ++ reason⟩]⟩

/-- The reply to a request after something went wrong. -/
def giveUp (r : Request) (message : Text) : Answer :=
  ⟨(RpcError.ofCause message).response (some r.id),
    [⟨.error, .dispatcher,
      Text.of "Internal error handling " ++ r.method ++ Text.of ": " ++ message⟩]⟩

/-- The reply to a request from what the run of its handler came to. -/
def finish (r : Request) : Outcome → Except Abort Answer
  | .value v =>
    match v.writeNested .finite resultLimit with
    | .ok _ => .ok ⟨⟨some r.id, .result v⟩, []⟩
    | .error .tooDeep => .ok (r.giveUp (Json.WriteError.message .tooDeep))
    | .error e => .ok (r.unwritable e.message)
  | .unwritable reason => .ok (r.unwritable reason)
  | .failed (.rpc e) => .ok (r.refuse e)
  | .failed (.badValue message) => .ok (r.reject message)
  | .failed (.other message) => .ok (r.giveUp message)
  | .failed (.unreportable message) => .error (.unreportable message)

/-- The error of a request with another number of parameters than its method declares. -/
def arityError (r : Request) (arity : Int) : RpcError :=
  let received : Int := r.params.length
  ⟨.invalidParams,
    r.method ++ Text.of " expects " ++ Text.ofInt arity ++ Text.of " params, got "
      ++ Text.ofInt received,
    .obj [(Text.of "expected", .int arity), (Text.of "received", .int received)]⟩

/-- The reply to a request with another number of parameters than its method declares. An arity that
has too many digits to be named is itself a wrong value. -/
def mismatch (r : Request) (arity : Int) : Answer :=
  match writeInt arity with
  | .ok _ => r.refuse (r.arityError arity)
  | .error e => r.reject e.message

end Request

namespace RpcError

/-- The error of a method that cannot be had. -/
def methodNotFound (method : Text) : RpcError :=
  ⟨.methodNotFound, Text.of "Method not found: " ++ method, .null⟩

/-- The error of a message that is not JSON. -/
def parse (cause : Text) : RpcError := ⟨.parse, Text.of "Parse error", details cause⟩

/-- The error of a document that is no request. -/
def invalidRequest (ps : List Problem) : RpcError :=
  ⟨.invalidRequest, Text.of "Invalid Request", .obj [(Text.of "details", Problem.report ps)]⟩

end RpcError

/-- The id of a document that is no request, if it has one all the same. -/
def RequestId.salvage : Json → Option RequestId
  | .obj ms => (Json.member? (Text.of "id") ms).bind ofJson?
  | _ => none

/-- What keeps a message from being a document. -/
inductive MessageError where
  | encoding (e : DecodeError)
  | document (e : Json.ReadError Json.Position)
deriving DecidableEq

def MessageError.message : MessageError → Text
  | .encoding e => e.message
  | .document e => e.message

namespace Message

/-- The text of a message. -/
def decode : Message → Except DecodeError Text
  | .text t => .ok t
  | .bytes b => Utf8.decode b

/-- The text of a message and the document that it is. -/
def document (m : Message) : Except MessageError (Text × Json) := do
  let t ← m.decode.mapError .encoding
  let v ← (Json.readStrict messageLimit t).mapError .document
  return (t, v)

end Message

/-- The reply to a message that is no document. -/
def MessageError.answer (e : MessageError) : Answer :=
  ⟨(RpcError.parse e.message).response none,
    [⟨.warning, .dispatcher, Text.of "Dropping unparseable message: " ++ e.message⟩]⟩

namespace Dispatcher

variable {H : Type}

/-- Takes a request to its reply or to the run of its handler. -/
def request (d : Dispatcher H) (r : Request) : Dispatched H :=
  match d.catalog.resolve r.method with
  | .error (.notFound method) => .answered (r.refuse (.methodNotFound method))
  | .error (.longVersion e) => .answered (r.reject e.message)
  | .ok m =>
    if d.strictArity ∧ (r.params.length : Int) ≠ m.arity then
      .answered (r.mismatch m.arity)
    else .invoking m r

/-- Takes a message to its reply or to the run of a handler. -/
def receive (d : Dispatcher H) (m : Message) : Except Abort (Dispatched H) :=
  match m.document with
  | .error (.document (.tooDeep kind)) => .error (.tooDeep kind)
  | .error e => .ok (.answered e.answer)
  | .ok (t, v) =>
    match Request.check v with
    | .error ps =>
      .ok (.answered ⟨(RpcError.invalidRequest ps).response (RequestId.salvage v),
        [⟨.warning, .dispatcher, Text.of "Invalid JSON-RPC request: " ++ t⟩]⟩)
    | .ok r => .ok (d.request r)

end Dispatcher

namespace Dispatched

variable {H : Type} {m : Type → Type} [Monad m]

/-- Runs the handler that is waited for, if any, and completes the reply. -/
def run (invoke : H → List Json → m Outcome) : Dispatched H → m (Except Abort Answer)
  | .answered a => pure (.ok a)
  | .invoking method r => do
    let o ← invoke method.handler r.params
    return r.finish o

end Dispatched

namespace Dispatcher

variable {H : Type}

/-- The reply to a request where handlers are functions of the parameters. -/
def answer (d : Dispatcher H) (invoke : H → List Json → Outcome) (r : Request) :
    Except Abort Answer :=
  Id.run ((d.request r).run fun h ps => pure (invoke h ps))

/-- The reply to a message where handlers are functions of the parameters. -/
def answerMessage (d : Dispatcher H) (invoke : H → List Json → Outcome) (m : Message) :
    Except Abort Answer := do
  let dispatched ← d.receive m
  Id.run (dispatched.run fun h ps => pure (invoke h ps))

end Dispatcher

end JsonRpc
