/-
Identifiers.

An identifier is made of ASCII letters, digits and underscores and does not start with a digit.
-/
import JsonRpc.Text.Basic

namespace JsonRpc.Text

def isIdentifierStart (c : CodePoint) : Bool := c.isLetter || c = '_'

def isIdentifierPart (c : CodePoint) : Bool := isIdentifierStart c || c.isDigit

def isIdentifier : Text → Bool
  | [] => false
  | c :: rest => isIdentifierStart c && rest.all isIdentifierPart

/-- The identifier that a text starts with, taken as long as can be, and what follows it. -/
def spanIdentifier? (t : Text) : Option (Text × Text) :=
  let name := t.takeWhile isIdentifierPart
  if isIdentifier name then some (name, t.drop name.length) else none

end JsonRpc.Text
