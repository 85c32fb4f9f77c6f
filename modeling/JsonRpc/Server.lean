/-
The server.

A server dispatches the messages that come in on one route and says on a page how it is. It owns the
dispatcher and the transport. Driven by its peers it goes on until it has to wait for one of them:
a frame is received, dispatched, its handler run and its reply sent.
-/
import JsonRpc.Config
import JsonRpc.Handler
import JsonRpc.Route
import JsonRpc.Text.Utf8
import JsonRpc.Transport

namespace JsonRpc

structure Server where
  route : Route
  dispatcher : Dispatcher Handler
  transport : Transport Handler

namespace Server

/-- A server on a route, without services and connections. -/
def on (route : Route) (strictArity : Bool) (subprotocol : Text) : Server :=
  ⟨route, { strictArity := strictArity }, { subprotocol := subprotocol }⟩

/-- A server on the route of a template. -/
def create (path : Text) (strictArity : Bool) (subprotocol : Text) : Except RouteError Server := do
  return on (← Route.ofTemplate? path) strictArity subprotocol

/-- The server that environment variables ask for. -/
def ofEnvironment (env : Environment) : Except RouteError Server :=
  create env.path env.strictArity defaultSubprotocol

/-- The path that a server was asked to serve. -/
def path (s : Server) : Text := s.route.template

/-- The server after a service is added to its catalog and published. -/
def publish (s : Server) (service : Service Handler) : Server × Log :=
  let (catalog, number) := s.dispatcher.catalog.add service
  let (catalog, log) := catalog.publish number
  ({ s with dispatcher := { s.dispatcher with catalog := catalog } }, log)

/-- How many services are published. -/
def serviceCount (s : Server) : Nat := s.dispatcher.catalog.published.length

/-! ## Connections -/

/-- The server after an event at a connection; an event that does not concern it changes nothing. -/
def advance (s : Server) (number : Nat) (e : Event) : Handler.Run Server :=
  match s.transport.step s.dispatcher number e with
  | none => return s
  | some (t, log) => do
    Handler.say log
    return { s with transport := t }

/-- How a peer that asks for a path is met. -/
inductive Reception where
  | refused
  /-- The number of the connection, and the subprotocol that it is accepted with. -/
  | accepted (number : Nat) (subprotocol : Option Text)
  /-- The path cannot be read. -/
  | failed (e : LongNumber)
deriving DecidableEq

/-- The server after a peer asked for a path. On its route a connection is opened and accepted; any
other peer does not reach the transport. -/
def connect (s : Server) (path : Text) (peer : Address) (offered : List Text) :
    Handler.Run (Server × Reception) := do
  match s.route.leads path with
  | .error e => return (s, .failed e)
  | .ok false => return (s, .refused)
  | .ok true =>
    let (t, number, log) := s.transport.connect peer offered
    Handler.say log
    let s' ← { s with transport := t }.advance number .accepted
    return (s', .accepted number (s.transport.negotiate offered))

/-- The server after a handler that a connection waits for has run. -/
def handle (s : Server) (number : Nat) : Handler.Run Server := do
  match s.transport.phase? number with
  | some (.handling m r) =>
    let o ← Handler.run s.dispatcher (Handler.levels r.params) m.handler r.params
    s.advance number (.handled o)
  | _ => return s

/-- The server after a frame has arrived and all has been done that it gives rise to. With a fault
no reply can be sent any more. -/
def deliver (fault : Option SendFault) (number : Nat) (s : Server) (f : Frame) :
    Handler.Run Server := do
  let s ← s.advance number (.frame f)
  let s ← s.handle number
  s.advance number ((fault.map Event.unsent).getD .sent)

/-- The server after frames have arrived one after the other. -/
def deliverAll (s : Server) (fault : Option SendFault) (number : Nat) (fs : List Frame) :
    Handler.Run Server :=
  fs.foldlM (deliver fault number) s

/-! ## Pages -/

/-- A page. -/
structure Page where
  status : Nat
  body : Text
deriving DecidableEq

/-- The route to the health page. -/
def healthRoute : Route := .fixed (Text.of "/health")

/-- What the health page says. -/
def health (s : Server) : Json :=
  .obj [(Text.of "status", .str (Text.of "healthy")),
    (Text.of "service", .str (Text.of "webbridge")),
    (Text.of "version", .str (Text.of "1.0.0")),
    (Text.of "transport", .str (Text.of "WebSocket")),
    (Text.of "subprotocol", .str s.transport.subprotocol),
    (Text.of "services", .int s.serviceCount),
    (Text.of "connections", .int s.transport.live.length)]

/-- A page with a document for a body. -/
def Page.ofJson (status : Nat) (v : Json) : Page :=
  match v.writeWith .compact with
  | .ok t => ⟨status, t⟩
  | .error e => ⟨500, e.message⟩

/-- The body of a page as it is sent. -/
def Page.bytes (p : Page) : Except Utf8.EncodeError Bytes := Utf8.encodeStrict p.body

/-- A page that explains why there is no other. -/
def Page.detail (status : Nat) (reason : String) : Page :=
  Page.ofJson status (.obj [(Text.of "detail", .str (Text.of reason))])

/-- A path without the slashes at its end. -/
def withoutSlashes (path : Text) : Text :=
  (path.reverse.dropWhile fun c : CodePoint => c = '/').reverse

/-- The page for a method and a path. The health page can only be got; its path with slashes behind
it leads there by an empty page. -/
def page (s : Server) (method path : Text) : Page :=
  if healthRoute.hasPath path then
    if method = Text.of "GET" then Page.ofJson 200 s.health
    else Page.detail 405 "Method Not Allowed"
  else if healthRoute.hasPath (withoutSlashes path) then ⟨307, []⟩
  else Page.detail 404 "Not Found"

end Server

end JsonRpc
