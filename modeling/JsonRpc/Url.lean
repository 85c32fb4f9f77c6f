/-
URLs of WebSocket servers.

A URL is `ws://`, an authority and, behind it, a path, a query and a fragment, the last of which must
be empty. The authority ends at the first of `/`, `?` and `#`. It is a host with or without a port,
and whoever asks may stand before it with an at sign behind, percent-encoded. Brackets are there for
numeric hosts with colons only. Tabs and line ends count nowhere, and neither does the case of a
host.
-/
import JsonRpc.Config
import JsonRpc.Network.HostName
import JsonRpc.Network.Ipv6
import JsonRpc.Text.Percent
import JsonRpc.Text.SmallLetter

namespace JsonRpc

/-- Why a text is no URL that can be asked for. -/
inductive UrlError where
  /-- Brackets do not stand around the host. -/
  | brackets
  | futureAddress
  | noAddress (host : Text)
  | bracketedIpv4
  /-- A character of the authority is a variant of one that ends it or divides it. -/
  | variant (authority : Text)
  | noHost (url : Text)
  | fragment (url : Text)
  | malformedPort (port : Text)
  | longPort (e : LongNumber)
  | greatPort
  /-- Whoever asks is not given in UTF-8. -/
  | credentials (e : DecodeError)
  | hostName (f : HostName.Fault)
  | unencodable (e : Utf8.EncodeError)
deriving DecidableEq

def UrlError.message : UrlError → Text
  | .brackets => Text.of "Invalid IPv6 URL"
  | .futureAddress => Text.of "IPvFuture address is invalid"
  | .noAddress host => host.quoted ++ Text.of " does not appear to be an IPv4 or IPv6 address"
  | .bracketedIpv4 => Text.of "An IPv4 address cannot be in brackets"
  | .variant authority =>
    Text.of "netloc '" ++ authority
      ++ Text.of "' contains invalid characters under NFKC normalization"
  | .noHost url => url ++ Text.of " isn't a valid URI: hostname isn't provided"
  | .fragment url => url ++ Text.of " isn't a valid URI: fragment identifier is meaningless"
  | .malformedPort port => Text.of "Port could not be cast to integer value as " ++ port.quoted
  | .longPort e => e.message
  | .greatPort => Text.of "Port out of range 0-65535"
  | .credentials e => e.message
  | .hostName f => f.message
  | .unencodable e => e.message

/-! ## Authorities -/

/-- An authority in its parts. -/
structure Authority where
  user : Option Text
  /-- What stands before a bracket at the host. -/
  beforeHost : Text
  host : Text
  /-- What follows the host, or the bracket behind it. -/
  behindHost : Text
deriving DecidableEq

namespace Authority

/-- Takes an authority apart, whatever it consists of. -/
def ofText (t : Text) : Authority :=
  let (user, rest) := t.cutLast '@'
  match rest.cut '[' with
  | (before, some bracketed) =>
    let (host, behind) := bracketed.cut ']'
    ⟨user, before, host, behind.getD []⟩
  | (_, none) =>
    let host := rest.takeWhile fun c : CodePoint => c ≠ ':'
    ⟨user, [], host, rest.drop host.length⟩

/-- The host in small letters; what stands behind a percent sign, as the interface of a numeric host
does, is kept as it is. -/
def hostName (a : Authority) : Text :=
  let (name, interface) := a.host.cut '%'
  name.small ++ (interface.map (CodePoint.ofChar '%' :: ·)).getD []

/-- What stands for the port. -/
def portText (a : Authority) : Text := (a.behindHost.cut ':').2.getD []

/-- The numeric host of a version to come: `v`, hexadecimal digits, a dot and more. -/
def isFutureAddress (t : Text) : Bool :=
  let version := (t.drop 1).takeWhile fun c : CodePoint => c.hexDigit?.isSome
  let rest := t.drop (1 + version.length)
  version ≠ [] && rest.head? = some (.ofChar '.') && 1 < rest.length

/-- An IPv6 address, which may have an interface behind a percent sign. -/
def isIpv6 (t : Text) : Bool :=
  let (number, interface) := t.cut '%'
  (Ipv6.read? number).isSome
    && !interface.any fun i => i = [] || i.contains (.ofChar '%')

/-- A host that brackets stand around. -/
def checkAddress (host : Text) : Except UrlError Unit :=
  if host.head? = some (.ofChar 'v') then
    if isFutureAddress host then .ok () else .error .futureAddress
  else if (Ipv4.readDotted? host).isSome then .error .bracketedIpv4
  else if isIpv6 host then .ok ()
  else .error (.noAddress host)

/-- Brackets come in pairs, and where there are some, the host is one for brackets. -/
def checkBrackets (t : Text) : Except UrlError Unit :=
  let a := ofText t
  let opens := t.contains (.ofChar '[')
  if opens != t.contains (.ofChar ']') then .error .brackets
  else if !opens then .ok ()
  else if a.beforeHost ≠ [] then .error .brackets
  else if a.behindHost ≠ [] && a.behindHost.head? ≠ some (.ofChar ':') then .error .brackets
  else checkAddress a.host

/-- The variants of `/`, `?`, `#`, `@` and `:`, and the characters that stand for texts with one of
them. -/
def variants : List Nat := [
  0x2047, 0x2048, 0x2049, 0x2100, 0x2101, 0x2105, 0x2106, 0x2A74, 0xFE13, 0xFE16,
  0xFE55, 0xFE56, 0xFE5F, 0xFE6B, 0xFF03, 0xFF0F, 0xFF1A, 0xFF1F, 0xFF20]

/-- Reads an authority. -/
def read (t : Text) : Except UrlError Authority := do
  checkBrackets t
  if t.any fun c => variants.contains c.val then throw (.variant t)
  return ofText t

/-- The port that is asked for: 80 if there is none or if it is 0. -/
def port (a : Authority) : Except UrlError Nat := do
  match Text.spanDigits a.portText with
  | (ds, []) =>
    let n ← (readDigits ds).mapError .longPort
    if greatestPort < n then throw .greatPort
    else return if n = 0 then 80 else n
  | _ => throw (.malformedPort a.portText)

end Authority

/-! ## URLs -/

/-- Who asks. -/
structure Credentials where
  name : Text
  password : Text
deriving DecidableEq

structure Url where
  credentials : Option Credentials
  /-- The host in ASCII. -/
  host : Text
  port : Nat
  path : Text
  query : Text
deriving DecidableEq

namespace Url

/-- How a URL starts. -/
def scheme : Text := Text.of "ws://"

/-- Tabs and line ends. -/
def isIgnored (c : CodePoint) : Bool := c = '\t' || c = '\n' || c = '\r'

/-- The characters that end an authority. -/
def endsAuthority (c : CodePoint) : Bool := c = '/' || c = '?' || c = '#'

/-- Reads who asks: a name, and a password behind the first colon. -/
def readCredentials (t : Text) : Except UrlError Credentials := do
  let (name, password) := t.cut ':'
  let name ← (Percent.decode name).mapError .credentials
  let password ← (Percent.decode (password.getD [])).mapError .credentials
  return ⟨name, password⟩

/-- A text can be written in a URL. -/
def checkEncodable (t : Text) : Except UrlError Unit := do
  let _ ← (Utf8.encodeStrict t).mapError .unencodable

/-- Reads a URL, which is given with its scheme. -/
def read (url : Text) : Except UrlError Url := do
  let afterScheme := (url.filter fun c => !isIgnored c).drop scheme.length
  let authorityText := afterScheme.takeWhile fun c => !endsAuthority c
  let authority ← Authority.read authorityText
  let (rest, fragment) := Text.cut '#' (afterScheme.drop authorityText.length)
  let (path, query) := rest.cut '?'
  if authority.host = [] then throw (.noHost url)
  if (fragment.getD []) ≠ [] then throw (.fragment url)
  let port ← authority.port
  let credentials ← authority.user.mapM readCredentials
  let host ← if url.isAscii then pure authority.hostName
    else (HostName.encode authority.hostName).mapError .hostName
  checkEncodable path
  checkEncodable (query.getD [])
  return ⟨credentials, host, port, path, query.getD []⟩

end Url

end JsonRpc
