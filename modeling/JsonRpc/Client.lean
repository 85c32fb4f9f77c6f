/-
The client.

A client connects to a server, sends the request that it was made with, and hands out whatever comes
back as documents; replies are not matched with requests. It has at most one connection in hand.

The peer is the other end as the client can tell: it takes connections and messages or refuses them,
delivers messages in order, and then ends the connection cleanly or not. A peer may have a dispatcher
that answers what it is sent. The peer remembers which connections are open and what it was sent.
-/
import JsonRpc.Config
import JsonRpc.Handler
import JsonRpc.Text.Detection

namespace JsonRpc

/-- How a peer ends a connection. -/
inductive Closing where
  | clean
  | abrupt
deriving DecidableEq

def Closing.message : Closing → Text
  | .clean => Text.of "received 1000 (OK); then sent 1000 (OK)"
  | .abrupt => Text.of "no close frame received or sent"

/-- What reaches a peer. -/
inductive Signal where
  | connect (url : Text) (subprotocols : List Text)
  | message (t : Text)
  | close
deriving DecidableEq

/-- The other end of a client's connections. -/
structure Peer where
  /-- The messages that are still to be delivered. -/
  inbound : List Message := []
  /-- How a connection ends when there are none. -/
  closing : Closing := .clean
  /-- Connections are refused with this message. -/
  refusal : Option Text := none
  /-- Nothing can be sent any more, and this is how the connection has ended. -/
  gone : Option Closing := none
  /-- Answers the messages that arrive. -/
  dispatcher : Option (Dispatcher Handler) := none
  /-- How many connections were opened. -/
  opened : Nat := 0
  /-- The numbers of the connections that are open. -/
  live : List Nat := []
  /-- What has reached the peer. -/
  signals : List Signal := []

structure Client where
  url : Text
  subprotocol : Text
  request : Json
  /-- The number of the connection in hand. -/
  connection : Option Nat := none

/-- Why a client's action fails. -/
inductive ClientError where
  | notConnected
  | refused (message : Text)
  | closed (how : Closing)
  | unwritable (e : Json.WriteError)
  | encoding (e : DecodeError)
  | document (e : Json.ReadError Json.Position)
  /-- The peer dispatched a message and came to no reply. -/
  | aborted (a : Abort)
deriving DecidableEq

def ClientError.message : ClientError → Text
  | .notConnected => Text.of "Client is not connected"
  | .refused message => message
  | .closed how => how.message
  | .unwritable e => e.message
  | .encoding e => e.message
  | .document e => e.message
  | .aborted a => a.message

/-- The document of a message. Bytes are read in whatever encoding they are found to be in. -/
def Message.read : Message → Except ClientError Json
  | .text t => (Json.read t).mapError .document
  | .bytes b => do
    let t ← (Text.ofBytes b).mapError .encoding
    (Json.readUnmarked true Json.nestingLimit t).mapError .document

namespace Client

/-- The request of a client that was given none. -/
def defaultRequest : Json :=
  Json.request (Text.of "org.rdk.Calculator.1.add") (.arr [.int 2, .int 2]) (.int 10)

/-- The id of a request that was given none. -/
def defaultId : Json := .int 10

def create (url subprotocol : Text) (request : Option Json) : Client :=
  ⟨url, subprotocol, request.getD defaultRequest, none⟩

def isConnected (c : Client) : Bool := c.connection.isSome

/-- A client and its peer. -/
structure Pair where
  client : Client
  peer : Peer

/-- What a client does: it may fail, but what it did before stays done. -/
abbrev Action := ExceptT ClientError (StateT Pair Handler.Run)

/-- Runs handlers as part of an action. -/
def lift {α : Type} (r : Handler.Run α) : Action α := ExceptT.lift (StateT.lift r)

def log (message : Text) : Action Unit := lift (Handler.say [⟨.info, .client, message⟩])

def signal (s : Signal) : Action Unit :=
  modify fun p => { p with peer := { p.peer with signals := p.peer.signals ++ [s] } }

/-- How deep a document that is sent may be nested. It is written from further down than it was read,
and of the nesting limit there is that much less left. -/
def sendingLimit : Nat := 978

/-- The text of a document that is sent. -/
def sentText (v : Json) : Except Json.WriteError Text := v.writeNested .spaced sendingLimit

/-- The text that a writer came to. -/
def written : Except Json.WriteError Text → Action Text
  | .ok t => return t
  | .error e => throw (.unwritable e)

/-- Opens a connection, which is then in hand; one that was in hand before is let go of. -/
def openConnection : Action Unit := do
  let ⟨c, p⟩ ← get
  match p.refusal with
  | some message => throw (.refused message)
  | none =>
    signal (.connect c.url [c.subprotocol])
    modify fun ⟨c, p⟩ =>
      ⟨{ c with connection := some p.opened },
        { p with opened := p.opened + 1, live := p.live ++ [p.opened] }⟩

/-- The peer takes a message and, if it has a dispatcher, delivers the reply when its turn comes. -/
def transmit (t : Text) : Action Unit := do
  let p := (← get).peer
  match p.gone with
  | some how => throw (.closed how)
  | none =>
    signal (.message t)
    match p.dispatcher with
    | none => return ()
    | some d =>
      match ← lift (d.serveMessage (.text t)) with
      | .error a => throw (.aborted a)
      | .ok r => do
        let reply ← written r.write
        modify fun s => { s with peer := { s.peer with inbound := s.peer.inbound ++ [.text reply] } }

/-- Sends a document. -/
def send (v : Json) : Action Unit := do
  if (← get).client.isConnected then
    let t ← written (sentText v)
    log (Text.of "send:" ++ t)
    transmit t
  else throw .notConnected

/-- Sends the request that the client was made with. -/
def sendRequest : Action Unit := do send (← get).client.request

/-- Opens a connection and sends the request. -/
def connect : Action Unit := do
  log (Text.of "Connecting to " ++ (← get).client.url)
  openConnection
  log (Text.of "client connected")
  sendRequest

/-- Reads a message. -/
def onMessage (m : Message) : Action Json := do
  match m.read with
  | .error e => throw e
  | .ok v =>
    log (Text.of "recv:" ++ (← written v.write))
    return v

/-- Waits for the next message and reads it. -/
def receive : Action Json := do
  let ⟨c, p⟩ ← get
  if c.isConnected then
    match p.inbound with
    | [] => throw (.closed p.closing)
    | m :: ms =>
      set (Pair.mk c { p with inbound := ms })
      onMessage m
  else throw .notConnected

/-- Closes the connection in hand, if any. -/
def close : Action Unit := do
  match (← get).client.connection with
  | none => return ()
  | some number =>
    signal .close
    modify fun ⟨c, p⟩ => ⟨{ c with connection := none }, { p with live := p.live.erase number }⟩

/-- Does something and then closes the connection in hand, whether it succeeded or not. -/
def closing {α : Type} (action : Action α) : Action α :=
  ExceptT.mk do
    let outcome ← action.run
    let _ ← close.run
    return outcome

/-- Reads messages as they are delivered, and then meets the end of the connection. -/
def drain : List Message → Action Unit
  | [] => do
    match (← get).peer.closing with
    | .clean => return ()
    | .abrupt => log (Text.of "Connection closed by server: " ++ Closing.abrupt.message)
  | m :: ms => do
    modify fun s => { s with peer := { s.peer with inbound := ms } }
    let _ ← onMessage m
    drain ms

/-- Connects and reads messages until the peer ends the connection. -/
def run : Action Unit := do
  connect
  closing (do drain (← get).peer.inbound)

/-- Connects, reads one message and closes. -/
def callOnce : Action Json := do
  connect
  closing receive

end Client

end JsonRpc
