/-
One connection.

A connection is accepted and then goes round: it receives a frame, has the message dispatched, and
sends the reply. At the end of each of these it may wait while other connections go on. So a
connection is always in one of a few phases, and moves when the event happens that it waits for; an
event of another kind does not concern it.

It ends when the peer leaves, when a reply cannot be sent any more, or when something fails that has
no reply.
-/
import JsonRpc.Dispatcher

namespace JsonRpc

/-- What a peer sends: text, or bytes, or nothing. Text counts before bytes, even if it is empty. -/
structure Frame where
  text : Option Text
  bytes : Option Bytes
deriving DecidableEq

/-- The message of a frame; a frame with nothing in it is a message of no bytes. -/
def Frame.message (f : Frame) : Message :=
  match f.text with
  | some t => .text t
  | none => .bytes (f.bytes.getD [])

/-- Why a reply cannot be sent. -/
inductive SendFault where
  /-- The connection was closed in the meantime. -/
  | closed (message : Text)
  /-- The peer is gone. -/
  | departed
  | other (message : Text)
deriving DecidableEq

/-- A failure that has no reply and ends a connection. -/
inductive Escape where
  /-- The dispatch of a message ended without a reply. -/
  | aborted (a : Abort)
  /-- A reply could not be written. -/
  | unwritable (e : Json.WriteError)
  | other (message : Text)
deriving DecidableEq

/-- How a connection came to its end. -/
inductive Ending where
  | departed
  | dropped
  | escaped (e : Escape)
deriving DecidableEq

/-- Where a connection stands. -/
inductive Phase (H : Type) where
  /-- It is not accepted yet. -/
  | opening
  /-- It waits for a frame. -/
  | receiving
  /-- It waits for the outcome of a method's handler. -/
  | handling (m : Method H) (r : Request)
  /-- It waits for its reply to be sent. -/
  | sending (reply : Text)
  | ended (ending : Ending)

/-- What happens to a connection. -/
inductive Event where
  | accepted
  | frame (f : Frame)
  /-- The peer leaves. -/
  | departed
  | handled (o : Outcome)
  | sent
  | unsent (fault : SendFault)
  /-- Accepting or receiving fails. -/
  | broken (message : Text)

namespace Phase

variable {H : Type}

/-- The phase after a reply could not be sent. -/
def onUnsent : SendFault → Phase H × Log
  | .closed message =>
    (.ended .dropped,
      [⟨.info, .transport, Text.of "Dropping response to closed connection: " ++ message⟩])
  | .departed => (.ended .departed, [])
  | .other message => (.ended (.escaped (.other message)), [])

/-- The phase with a reply to send. A reply that is nested too deep to be written counts as one that
could not be sent. -/
def reply (a : Answer) : Phase H × Log :=
  match a.response.write with
  | .ok t => (.sending t, a.log)
  | .error .tooDeep =>
    let (phase, log) := onUnsent (.closed (Json.WriteError.message .tooDeep))
    (phase, a.log ++ log)
  | .error e => (.ended (.escaped (.unwritable e)), a.log)

/-- The phase after a frame arrived. -/
def onFrame (d : Dispatcher H) (f : Frame) : Phase H × Log :=
  match d.receive f.message with
  | .error a => (.ended (.escaped (.aborted a)), [])
  | .ok (.answered a) => reply a
  | .ok (.invoking m r) => (.handling m r, [])

/-- The phase after the handler of a request has run. -/
def onHandled (r : Request) (o : Outcome) : Phase H × Log :=
  match r.finish o with
  | .ok a => reply a
  | .error a => (.ended (.escaped (.aborted a)), [])

/-- The phase after an event and the lines that this adds to the log; nothing if the event does not
concern the phase. -/
def step (d : Dispatcher H) : Phase H → Event → Option (Phase H × Log)
  | .opening, .accepted => some (.receiving, [])
  | .opening, .broken message | .receiving, .broken message =>
    some (.ended (.escaped (.other message)), [])
  | .receiving, .frame f => some (onFrame d f)
  | .receiving, .departed => some (.ended .departed, [])
  | .handling _ r, .handled o => some (onHandled r o)
  | .sending _, .sent => some (.receiving, [])
  | .sending _, .unsent fault => some (onUnsent fault)
  | _, _ => none

/-- The connection is accepted and has not ended. -/
def isLive : Phase H → Bool
  | .opening | .ended _ => false
  | _ => true

end Phase

end JsonRpc
