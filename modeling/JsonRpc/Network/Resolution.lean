/-
What hosts stand for.

A host is a number of either family or the name of a machine. The only machine that is known by name
is this one, and there is nobody to ask for the others. Where one family is asked for, a name of
nothing but numbers is none, and a number of the other family is refused, unless it stands for one
of the right family.
-/
import JsonRpc.Network.HostName
import JsonRpc.Network.Ipv6

namespace JsonRpc

/-- Why the network refuses. -/
inductive NetworkError where
  | nameUnknown
  | nameUnresolved
  | otherFamily
  | invalidArgument
  | addressInUse
  | addressNotAvailable
  | unreachable
deriving DecidableEq

namespace NetworkError

def message : NetworkError → Text
  | .nameUnknown => Text.of "[Errno -2] Name or service not known"
  | .nameUnresolved => Text.of "[Errno -3] Temporary failure in name resolution"
  | .otherFamily => Text.of "[Errno -9] Address family for hostname not supported"
  | .invalidArgument => Text.of "[Errno 22] Invalid argument"
  | .addressInUse => Text.of "[Errno 98] Address already in use"
  | .addressNotAvailable => Text.of "[Errno 99] Cannot assign requested address"
  | .unreachable => Text.of "[Errno 101] Network is unreachable"

/-- It is not known what a host stands for. -/
def isUnresolved : NetworkError → Bool
  | .nameUnknown | .nameUnresolved | .otherFamily => true
  | _ => false

end NetworkError

/-- The two kinds of addresses. -/
inductive Family where
  | ipv4
  | ipv6
deriving DecidableEq

/-- An address of either family. One of a link may be given with the interface to the link. -/
inductive IpAddress where
  | ipv4 (a : Ipv4)
  | ipv6 (a : Ipv6) (interface : Option Nat)
deriving DecidableEq

namespace IpAddress

/-! ## Numbers -/

/-- The interfaces of this machine with their numbers. -/
def interfaces : List (Text × Nat) := [(Text.of "lo", 1)]

/-- The number of an interface, which for the addresses of a link may be given by name. -/
def interface? (a : Ipv6) (t : Text) : Option Nat :=
  let named :=
    if a.isLinkLocal || a.isLinkLocalMulticast then interfaces.find? fun e => e.1 = t else none
  match named, Text.spanDigits t with
  | some e, _ => some e.2
  | none, (d :: ds, []) =>
    if ofDigits (d :: ds) < 0x100000000 then some (ofDigits (d :: ds)) else none
  | none, _ => none

/-- An IPv4 address as one of a family. -/
def ofIpv4 (family : Option Family) (a : Ipv4) : Except NetworkError IpAddress :=
  if family = some .ipv6 then .error .otherFamily else .ok (.ipv4 a)

/-- An IPv6 address with the text of an interface as an address of a family. -/
def ofIpv6 (family : Option Family) (a : Ipv6) (interface : Option Text) :
    Except NetworkError IpAddress := do
  if family = some .ipv4 && a.mapped?.isNone then throw .otherFamily
  let interface ← interface.mapM fun t => (interface? a t).elim (throw .nameUnknown) pure
  match family, a.mapped? with
  | some .ipv4, some a => return .ipv4 a
  | _, _ => return .ipv6 a interface

/-! ## Names -/

/-- The text consists of decimal numbers with dots between them. -/
def isNumeric (t : Text) : Bool :=
  t.head?.any CodePoint.isDigit && (t.all fun c => c.isDigit || c = '.')
    && t.getLast? ≠ some (.ofChar '.')

/-- The address of a machine by its name in ASCII. -/
def ofName (family : Option Family) (name : Text) : Except NetworkError IpAddress :=
  if name.map CodePoint.toLower = Text.of "localhost" then .ok (.ipv4 .localhost)
  else if family.isSome && isNumeric name then .error .nameUnknown
  else if HostName.isKnowable name then .error .nameUnresolved
  else .error .nameUnknown

/-- The address of a host in ASCII. An IPv6 address may have an interface behind a percent sign. -/
def resolve (family : Option Family) (host : Text) : Except NetworkError IpAddress :=
  let (number, interface) := host.cut '%'
  match Ipv4.read? host, Ipv6.read? number with
  | some a, _ => ofIpv4 family a
  | none, some a => ofIpv6 family a interface
  | none, none => ofName family host

end IpAddress

end JsonRpc
