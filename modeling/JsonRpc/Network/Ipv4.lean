/-
IPv4 addresses.

An address is a number of 32 bits. It is written as one to four numbers with a dot between each two:
all but the last fill eight bits, and the last one fills what is left. A number is hexadecimal behind
`0x`, octal behind another zero, and else decimal. Four decimal numbers without zeros in front are
the dotted form, which alone is allowed where addresses of other kinds are written too.
-/
import JsonRpc.Text.Decimal

namespace JsonRpc

structure Ipv4 where
  val : Nat
  isLt : val < 0x100000000
deriving DecidableEq

namespace Ipv4

def ofNat? (n : Nat) : Option Ipv4 := if h : n < 0x100000000 then some ⟨n, h⟩ else none

/-- The address that stands for all of a machine. -/
def unspecified : Ipv4 := ⟨0, by decide⟩

/-- The address of this machine on itself. -/
def localhost : Ipv4 := ⟨0x7F000001, by decide⟩

/-- The address of all machines. -/
def broadcast : Ipv4 := ⟨0xFFFFFFFF, by decide⟩

/-- The address is one of this machine on itself. -/
def isLoopback (a : Ipv4) : Bool := a.val / 0x1000000 = 127

/-! ## Reading -/

/-- The number that digits to a base denote, if a text has some and nothing else. -/
def readBase? (base : Nat) : Text → Option Nat
  | [] => none
  | c :: rest => (c :: rest).foldlM (fun n d => do
      let d ← d.hexDigit?
      if d.val < base then some (n * base + d.val) else none) 0

/-- The number that a part of an address denotes. -/
def readPart? : Text → Option Nat
  | [] => none
  | [c] => readBase? 10 [c]
  | c :: d :: rest =>
    if c = '0' then if d = 'x' ∨ d = 'X' then readBase? 16 rest else readBase? 8 (d :: rest)
    else readBase? 10 (c :: d :: rest)

/-- The number below `room` whose leading bytes are given, and the remainder of it at last. -/
def fill? : (room : Nat) → List Nat → Option Nat
  | _, [] => none
  | room, [n] => if n < room then some n else none
  | room, n :: ns =>
    if n < 256 then (fill? (room / 256) ns).map (n * (room / 256) + ·) else none

/-- Reads an address. -/
def read? (t : Text) : Option Ipv4 := do
  let parts ← t.segments.mapM readPart?
  if parts.length ≤ 4 then ofNat? (← fill? 0x100000000 parts) else none

/-- A decimal number of eight bits without zeros in front. -/
def octet? (t : Text) : Option Nat :=
  match Text.spanDigits t with
  | (ds, []) => if digits (ofDigits ds) = ds && ofDigits ds < 256 then some (ofDigits ds) else none
  | _ => none

/-- Reads an address in dotted form. -/
def readDotted? (t : Text) : Option Ipv4 := do
  let parts ← t.segments.mapM octet?
  if parts.length = 4 then ofNat? (← fill? 0x100000000 parts) else none

end Ipv4

end JsonRpc
