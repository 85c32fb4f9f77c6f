/-
The life of a server.

A manager owns a server and the task in which it serves. Opening binds an address, starts the task
and waits until it serves; closing asks it to stop and waits until it has. A task can also stop by
itself, cleanly or with an error, and the manager only hears of that when it waits for the task.

The port that was bound last is remembered, also when nothing is bound any more.
-/
import JsonRpc.Network
import JsonRpc.Server
import JsonRpc.Url

namespace JsonRpc

/-- How a server's task fares. -/
inductive Task where
  | serving
  | stopped
  | crashed (message : Text)
deriving DecidableEq

/-- A task, the address that it serves and whether it ever got to serve. -/
structure Running where
  task : Task
  binding : Binding
  started : Bool
deriving DecidableEq

structure Manager where
  server : Server
  running : Option Running := none
  port : Option Nat := none

/-- Why a server does not listen. -/
inductive TransportError where
  | alreadyOpen
  | cannotListen (host : Text) (port : Nat) (cause : NetworkError)
  | startupFailed (host : Text) (port : Nat) (cause : Text)
deriving DecidableEq

def TransportError.message : TransportError → Text
  | .alreadyOpen => Text.of "Service manager is already open"
  | .cannotListen host port cause =>
    Text.of "Cannot listen on " ++ host ++ Text.of ":" ++ Text.ofNat port ++ Text.of ": "
      ++ cause.message
  | .startupFailed host port cause =>
    Text.of "Server failed to start on " ++ host ++ Text.of ":" ++ Text.ofNat port ++ Text.of ": "
      ++ cause

/-- Why opening fails. -/
inductive OpenError where
  | transport (e : TransportError)
  | host (e : HostError)
  | problems (ps : List Problem)
deriving DecidableEq

/-- Why a server cannot be reached at its URL. -/
inductive ReachError where
  | url (e : UrlError)
  /-- The host of the URL has a NUL in it. -/
  | nul
  | hostName (f : HostName.Fault)
  | network (e : NetworkError)
deriving DecidableEq

def ReachError.message : ReachError → Text
  | .url e => e.message
  | .nul => Text.of "embedded null character"
  | .hostName f => f.message
  | .network e => e.message

/-- How the startup of a server goes. -/
inductive Startup where
  | succeeds
  | fails (message : Text)
deriving DecidableEq

namespace Manager

def create (path : Text) (strictArity : Bool) : Except RouteError Manager := do
  return { server := ← Server.create path strictArity defaultSubprotocol }

def isListening (m : Manager) : Bool :=
  match m.running with
  | none => false
  | some r => r.started

/-- Opens an address, given that nothing is open. -/
def start (m : Manager) (n : Network) (c : ServerConfig) (startup : Startup) :
    Manager × Network × Except OpenError Unit :=
  match n.bind c.host c.port with
  | .error (.host e) => (m, n, .error (.host e))
  | .error (.network cause) => (m, n, .error (.transport (.cannotListen c.host c.port cause)))
  | .ok (n', b) =>
    let m := { m with port := some b.port }
    match startup with
    | .succeeds => ({ m with running := some ⟨.serving, b, true⟩ }, n', .ok ())
    | .fails cause =>
      (m, n'.release b, .error (.transport (.startupFailed c.host b.port cause)))

/-- Opens the address of settings. -/
def listen (m : Manager) (n : Network) (c : ServerConfig) (startup : Startup) :
    Manager × Network × Except OpenError Unit :=
  match m.running with
  | some _ => (m, n, .error (.transport .alreadyOpen))
  | none => m.start n c startup

/-- Opens the address of settings in a document. -/
def listenFrom (m : Manager) (n : Network) (v : Json) (startup : Startup) :
    Manager × Network × Except OpenError Unit :=
  match m.running with
  | some _ => (m, n, .error (.transport .alreadyOpen))
  | none =>
    match ServerConfig.check v with
    | .error ps => (m, n, .error (.problems ps))
    | .ok c => m.start n c startup

/-- The task ends: `crash` is the error that it ends with, if any. -/
def taskEnds (m : Manager) (n : Network) (crash : Option Text) : Manager × Network :=
  match m.running with
  | some r =>
    if r.task = .serving then
      let task : Task := (crash.map Task.crashed).getD .stopped
      ({ m with running := some { r with task := task } }, n.release r.binding)
    else (m, n)
  | none => (m, n)

/-- Waiting for the task to end: nothing while it serves, and an error if it ends with one. -/
def waitClosed (m : Manager) : Option (Except Text Unit) :=
  match m.running with
  | none => some (.ok ())
  | some r =>
    match r.task with
    | .serving => none
    | .stopped => some (.ok ())
    | .crashed message => some (.error message)

/-- Closes the server. The error of a task that has crashed comes out and leaves all as it is. -/
def close (m : Manager) (n : Network) : Manager × Network × Except Text Unit :=
  match m.running with
  | none => (m, n, .ok ())
  | some r =>
    match r.task with
    | .crashed message => (m, n, .error message)
    | .stopped => ({ m with running := none }, n, .ok ())
    | .serving => ({ m with running := none }, n.release r.binding, .ok ())

/-- The manager after a service is published on its server. -/
def publish (m : Manager) (service : Service Handler) : Manager × Log :=
  let (s, log) := m.server.publish service
  ({ m with server := s }, log)

/-! ## Calls over the network -/

/-- The URL of the server. The path follows the port as it is, so that its beginning may belong to
the authority. -/
def url (m : Manager) : Text :=
  Text.of "ws://127.0.0.1:" ++ (m.port.map Text.ofNat).getD (Text.of "None") ++ m.server.path

/-- The name to look up for a host in ASCII. A NUL ends the name of a host with a percent sign in it
and is in no other. -/
def lookupName (host : Text) : Except ReachError Text := do
  let (name, afterNul) := host.cut '\x00'
  if afterNul.isSome && !host.contains (.ofChar '%') then throw .nul
  let _ ← (HostName.encode host).mapError .hostName
  return name

/-- Reaches what the URL of the server names. -/
def reach (m : Manager) (n : Network) : Except ReachError Unit := do
  let url ← (Url.read m.url).mapError .url
  (n.reach (← lookupName url.host) url.port).mapError .network

/-- The responses to messages that are sent to the server one after the other, or what keeps one of
them from having any. -/
def call (m : Manager) (messages : List Message) :
    Handler.Run (Except Abort (List Response)) :=
  ExceptT.run (messages.mapM fun message => ExceptT.mk (m.server.dispatcher.serveMessage message))

end Manager

end JsonRpc
