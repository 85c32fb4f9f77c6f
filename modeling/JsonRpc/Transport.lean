/-
All connections.

The connections to a server share its dispatcher. Each is in a phase of its own and moves by its own
events, in any order among the connections. Beside the phases the transport keeps the set of
connections that are live, to which a connection is added when it is accepted and from which it is
taken when it ends.
-/
import JsonRpc.Connection

namespace JsonRpc

/-- Where a peer is. -/
structure Address where
  host : Text
  port : Nat
deriving DecidableEq

def Address.describe (a : Address) : Text :=
  Text.of "Address(host=" ++ a.host.quoted ++ Text.of ", port=" ++ Text.ofNat a.port
    ++ Text.of ")"

/-- A connection: its peer, its phase and the replies that it has sent. -/
structure Link (H : Type) where
  peer : Address
  phase : Phase H
  sent : List Text

structure Transport (H : Type) where
  subprotocol : Text
  /-- All connections there ever were, in the order of opening. -/
  links : List (Link H) := []
  /-- The numbers of the live ones. -/
  live : List Nat := []

namespace Transport

variable {H : Type}

/-- The subprotocol that a connection is accepted with. -/
def negotiate (t : Transport H) (offered : List Text) : Option Text :=
  if offered.contains t.subprotocol then some t.subprotocol else none

/-- The transport with one more connection, not accepted yet, the number that it has, and the lines
that this adds to the log. -/
def connect (t : Transport H) (peer : Address) (offered : List Text) : Transport H × Nat × Log :=
  ({ t with links := t.links ++ [⟨peer, .opening, []⟩] }, t.links.length,
    if (t.negotiate offered).isSome then []
    else [⟨.warning, .transport, Text.of "Client did not offer subprotocol '" ++ t.subprotocol
      ++ Text.of "': " ++ Text.quotedList offered⟩])

/-- The replies that a connection has sent after an event. -/
def sentAfter (l : Link H) : Event → List Text
  | .sent =>
    match l.phase with
    | .sending reply => l.sent ++ [reply]
    | _ => l.sent
  | _ => l.sent

/-- What a connection says when it becomes live and when it ends. -/
def announce (peer : Address) : (before after : Bool) → Log
  | false, true => [⟨.info, .transport, Text.of "Client connected: " ++ peer.describe⟩]
  | true, false => [⟨.info, .transport, Text.of "Client disconnected: " ++ peer.describe⟩]
  | _, _ => []

/-- The live connections after one of them changes. -/
def liveAfter (live : List Nat) (number : Nat) : (before after : Bool) → List Nat
  | false, true => live ++ [number]
  | true, false => live.erase number
  | _, _ => live

/-- The transport after an event at a connection, and the lines that this adds to the log; nothing
if the event does not concern the connection. -/
def step (d : Dispatcher H) (t : Transport H) (number : Nat) (e : Event) :
    Option (Transport H × Log) := do
  let l ← t.links[number]?
  let (phase, log) ← l.phase.step d e
  let before := l.phase.isLive
  let after := phase.isLive
  return ({ t with
      links := t.links.set number { l with phase := phase, sent := sentAfter l e }
      live := liveAfter t.live number before after },
    log ++ announce l.peer before after)

/-- The transport after events at connections, in their order. -/
def run (d : Dispatcher H) (t : Transport H) (events : List (Nat × Event)) :
    Transport H × Log :=
  events.foldl (fun (t, log) (number, e) =>
    match t.step d number e with
    | none => (t, log)
    | some (t', lines) => (t', log ++ lines)) (t, [])

/-- The phase of a connection. -/
def phase? (t : Transport H) (number : Nat) : Option (Phase H) :=
  t.links[number]?.map Link.phase

end Transport

end JsonRpc
