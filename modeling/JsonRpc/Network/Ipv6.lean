/-
IPv6 addresses.

An address is a number of 128 bits. It is written as eight hexadecimal groups with a colon between
each two; the last two may be an IPv4 address in dotted form, and two colons stand for any number of
groups of zeros, though not for none.
-/
import JsonRpc.Network.Ipv4

namespace JsonRpc

structure Ipv6 where
  val : Nat
  isLt : val < 0x100000000000000000000000000000000
deriving DecidableEq

namespace Ipv6

def ofNat? (n : Nat) : Option Ipv6 :=
  if h : n < 0x100000000000000000000000000000000 then some ⟨n, h⟩ else none

/-- The address that stands for all of a machine. -/
def unspecified : Ipv6 := ⟨0, by decide⟩

/-- The address of this machine on itself. -/
def localhost : Ipv6 := ⟨1, by decide⟩

/-- The first of the eight groups. -/
def firstGroup (a : Ipv6) : Nat := a.val / 0x10000000000000000000000000000

/-- The address is that of several machines. -/
def isMulticast (a : Ipv6) : Bool := 0xFF00 ≤ a.firstGroup

/-- The address is that of a machine on one link, and says nothing about others. -/
def isLinkLocal (a : Ipv6) : Bool := 0xFE80 ≤ a.firstGroup && a.firstGroup < 0xFEC0

/-- The address is that of several machines on one link. -/
def isLinkLocalMulticast (a : Ipv6) : Bool := a.isMulticast && a.firstGroup % 16 = 2

/-- The IPv4 address that an address stands for. -/
def mapped? (a : Ipv6) : Option Ipv4 :=
  if a.val / 0x100000000 = 0xFFFF then Ipv4.ofNat? (a.val % 0x100000000) else none

/-! ## Reading -/

/-- A group of one to four hexadecimal digits. -/
def group? (t : Text) : Option Nat := if t.length ≤ 4 then Ipv4.readBase? 16 t else none

/-- The groups that are written with a colon between each two. With `dotted` the last two may be an
IPv4 address. -/
def groups? (dotted : Bool) (t : Text) : Option (List Nat) :=
  if t = [] then some []
  else
    match (t.split fun c => c = ':').reverse with
    | [] => none
    | last :: before => do
      let before ← before.reverse.mapM group?
      match Ipv4.readDotted? last with
      | some a => if dotted then some (before ++ [a.val / 0x10000, a.val % 0x10000]) else none
      | none => return before ++ [← group? last]

/-- What stands before and behind the first two colons in a row. -/
def cutDouble? : Text → Option (Text × Text)
  | [] => none
  | c :: rest =>
    if c = ':' && rest.head? = some (.ofChar ':') then some ([], rest.drop 1)
    else (cutDouble? rest).map fun (before, behind) => (c :: before, behind)

/-- Reads an address. -/
def read? (t : Text) : Option Ipv6 := do
  let groups ←
    match cutDouble? t with
    | none => groups? true t
    | some (before, behind) => do
      let before ← groups? false before
      let behind ← groups? true behind
      let zeros := 8 - before.length - behind.length
      if 0 < zeros then some (before ++ List.replicate zeros 0 ++ behind) else none
  if groups.length = 8 then ofNat? (groups.foldl (fun n g => n * 0x10000 + g) 0) else none

end Ipv6

end JsonRpc
