/-
Log lines.

Whatever runs says what it did in lines of a severity, in the order in which it did it. The origin
of a line is the part of the library that speaks.
-/
import JsonRpc.Text.Basic

namespace JsonRpc

inductive Severity where
  | info
  | warning
  | error
deriving DecidableEq

/-- The parts of the library that keep a log. -/
inductive Origin where
  | service
  | dispatcher
  | calculator
  | transport
  | client
deriving DecidableEq

structure LogLine where
  severity : Severity
  origin : Origin
  message : Text
deriving DecidableEq

abbrev Log := List LogLine

end JsonRpc
