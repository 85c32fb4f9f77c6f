/-
The network as a server meets it.

An address is an interface of this machine and a port. Addresses are bound and given up again, and
one cannot be bound while another one is that shares the port and an interface; port 0 asks for any
port that is free. A network may be without a route, so that nothing can be reached over it, not
even what listens on the same machine.
-/
import JsonRpc.Network.Resolution

namespace JsonRpc

/-- Why a text cannot be the name of a host. -/
inductive HostError where
  | nul
  | unencodable (f : HostName.Fault)
deriving DecidableEq

def HostError.message : HostError → Text
  | .nul => Text.of "host name must not contain null character"
  | .unencodable _ => Text.of "encoding of hostname failed"

/-- Why an address is not bound. -/
inductive BindError where
  | host (e : HostError)
  | network (e : NetworkError)
deriving DecidableEq

/-! ## Addresses -/

/-- The interfaces of this machine that are listened on: all, or those of an address. -/
inductive Interface where
  | all
  | ipv4 (a : Ipv4)
  | ipv6 (a : Ipv6)
deriving DecidableEq

/-- Two choices of interfaces have one in common. -/
def Interface.meets : Interface → Interface → Bool
  | .all, _ | _, .all => true
  | .ipv4 a, .ipv4 b => a = b || a = .unspecified || b = .unspecified
  | .ipv6 a, .ipv6 b => a = b
  | _, _ => false

/-- What is bound. -/
structure Binding where
  interface : Interface
  port : Nat
deriving DecidableEq

/-- Two bindings cannot be at the same time. -/
def Binding.conflicts (a b : Binding) : Bool := a.port = b.port && a.interface.meets b.interface

/-- The port from which on free ones are given out. -/
def firstFreePort : Nat := 32768

structure Network where
  /-- What is bound. -/
  bound : List Binding := []
  /-- The ports that were given out. -/
  given : List Nat := []
  /-- What is bound can be reached. -/
  routed : Bool := true

namespace Network

/-- The first port that is neither bound nor was given out before. -/
def freePort (n : Network) : Nat :=
  let used := n.bound.map Binding.port ++ n.given
  let candidates := (List.range (used.length + 1)).map (firstFreePort + ·)
  (candidates.find? fun port => !used.contains port).getD firstFreePort

/-! ## Listening -/

/-- A host in ASCII. -/
def asciiHost (host : Text) : Except HostError Text := do
  let host ← if host.isAscii then pure host
    else (HostName.encode host).mapError .unencodable
  if host.contains (.ofChar '\x00') then throw .nul
  return host

/-- The address to listen on for a host. It is an IPv6 one if there is a colon in the host as it is
given. No host stands for all IPv4 interfaces. -/
def listenAddress (host : Text) : Except BindError IpAddress := do
  let family := if host.contains (.ofChar ':') then Family.ipv6 else .ipv4
  let ascii ← (asciiHost host).mapError .host
  if ascii = [] then return .ipv4 .unspecified
  else if ascii = Text.of "<broadcast>" then return .ipv4 .broadcast
  else (IpAddress.resolve (some family) ascii).mapError .network

/-- The interface of an IPv4 address: without a route none is told from those of other machines. -/
def ipv4Interface (n : Network) (a : Ipv4) : Except NetworkError Interface :=
  if a = .unspecified || a.isLoopback || !n.routed then .ok (.ipv4 a)
  else .error .addressNotAvailable

/-- The interface of an address. Without a route there is no IPv6 loopback. An address that stands
for an IPv4 one is as good as that. -/
def interface (n : Network) : IpAddress → Except NetworkError Interface
  | .ipv4 a => n.ipv4Interface a
  | .ipv6 a _ =>
    match a.mapped? with
    | some a => n.ipv4Interface a
    | none =>
      if a = .unspecified then .ok .all
      else if a.isMulticast || a.isLinkLocal then .error .invalidArgument
      else if a = .localhost && n.routed then .ok (.ipv6 a)
      else .error .addressNotAvailable

/-- The network after an address is bound, and what is bound now. -/
def bind (n : Network) (host : Text) (port : Nat) : Except BindError (Network × Binding) := do
  let address ← listenAddress host
  let interface ← (n.interface address).mapError .network
  if port = 0 then
    let b : Binding := ⟨interface, n.freePort⟩
    return ({ n with bound := b :: n.bound, given := b.port :: n.given }, b)
  else
    let b : Binding := ⟨interface, port⟩
    if n.bound.any b.conflicts then throw (.network .addressInUse)
    else return ({ n with bound := b :: n.bound }, b)

/-- The network after an address is given up. -/
def release (n : Network) (b : Binding) : Network := { n with bound := n.bound.erase b }

/-! ## Reaching -/

/-- The interface at which this machine reaches an address; the address of all interfaces is its
own. -/
def target : IpAddress → Except NetworkError Interface
  | .ipv4 a => .ok (.ipv4 (if a = .unspecified then .localhost else a))
  | .ipv6 a interface =>
    match a.mapped? with
    | some a => .ok (.ipv4 (if a = .unspecified then .localhost else a))
    | none =>
      if a.isMulticast then .error .unreachable
      else if a.isLinkLocal && (interface.getD 0) = 0 then .error .invalidArgument
      else .ok (.ipv6 (if a = .unspecified then .localhost else a))

/-- Reaches a port at a host in ASCII, if something listens there and there is a route. -/
def reach (n : Network) (host : Text) (port : Nat) : Except NetworkError Unit := do
  let interface ← target (← IpAddress.resolve none host)
  let b : Binding := ⟨interface, port⟩
  if n.routed && n.bound.any b.conflicts then return ()
  else
    match interface with
    | .ipv6 _ => throw .addressNotAvailable
    | _ => throw .unreachable

end Network

end JsonRpc
