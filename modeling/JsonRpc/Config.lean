/-
Settings.

A server listens on a host and a port; clients ask for a path and offer a subprotocol. Settings come
from a document or from environment variables, and each has a default.
-/
import JsonRpc.Envelope.Lenient

namespace JsonRpc

def defaultHost : Text := Text.of "127.0.0.1"
def defaultPort : Nat := 10001
def defaultPath : Text := Text.of "/jsonrpc"

/-- The subprotocol that servers and clients agree on. -/
def defaultSubprotocol : Text := Text.of "json"

/-- Where a client connects. -/
def defaultUrl : Text := Text.of "ws://127.0.0.1:10001/jsonrpc"

/-- The greatest port. -/
def greatestPort : Nat := 65535

/-- Where a server listens. Port 0 asks for any free one. -/
structure ServerConfig where
  host : Text
  port : Nat
  port_le : port ≤ greatestPort
deriving DecidableEq

namespace ServerConfig

/-- A whole number in lenient form that is a port. -/
def checkPort (v : Json) : Checked { port : Nat // port ≤ greatestPort } := do
  let n ← Checked.lenientInteger v
  if n < 0 then Checked.fail (.below 0) v
  else if h : n.toNat ≤ greatestPort then return ⟨n.toNat, h⟩
  else Checked.fail (.above greatestPort) v

/-- Reads settings off a document. -/
def check : Json → Checked ServerConfig
  | .obj ms => do
    let (host, port) ←
      (Checked.optional ms (Text.of "host") defaultHost Checked.string).both
        (Checked.optional ms (Text.of "port") ⟨defaultPort, by decide⟩ checkPort)
    return ⟨host, port.val, port.property⟩
  | v => Checked.fail (.notObject (Text.of "ServerConfig")) v

/-- The document of settings. -/
def ofHostAndPort (host : Text) (port : Int) : Json :=
  .obj [(Text.of "host", .str host), (Text.of "port", .int port)]

def toJson (c : ServerConfig) : Json := ofHostAndPort c.host c.port

end ServerConfig

/-- Environment variables and their values. -/
abbrev Environment := List (Text × Text)

/-- Why settings cannot be read from the environment. -/
inductive SettingsError where
  | port (e : Text.NumeralError)
  | problems (ps : List Problem)
deriving DecidableEq

namespace Environment

/-- The value of a variable, or a default. -/
def get (env : Environment) (name : String) (absent : Text) : Text :=
  ((env.find? fun e => e.1 = Text.of name).map Prod.snd).getD absent

/-- Where to listen. -/
def serverConfig (env : Environment) : Except SettingsError ServerConfig := do
  let host := env.get "WEBBRIDGE_HOST" defaultHost
  let port ←
    (Text.readInteger (env.get "WEBBRIDGE_PORT" (Text.ofNat defaultPort))).mapError .port
  (ServerConfig.check (ServerConfig.ofHostAndPort host port)).mapError .problems

/-- The path to serve. -/
def path (env : Environment) : Text := env.get "WEBBRIDGE_PATH" defaultPath

/-- Whether the number of parameters has to be the declared one: so if the variable is `1`, `true`
or `yes` in any mixture of cases. -/
def strictArity (env : Environment) : Bool :=
  let value := (env.get "WEBBRIDGE_STRICT_ARITY" []).map CodePoint.toLower
  [Text.of "1", Text.of "true", Text.of "yes"].contains value

/-- Where to connect. -/
def url (env : Environment) : Text := env.get "WEBBRIDGE_URL" defaultUrl

end Environment

end JsonRpc
