/-
White space.

The code points that count as white space around a number in text, and text without them at either
end. White space between the tokens of a JSON document is a narrower matter of its own.
-/
import JsonRpc.Text.Table

namespace JsonRpc

namespace CodePoint

/-- The ranges of code points that are white space, both ends included. -/
def blankRanges : List (Nat × Nat) := [
  (0x0009, 0x000D), (0x0020, 0x0020), (0x0085, 0x0085), (0x00A0, 0x00A0), (0x1680, 0x1680),
  (0x2000, 0x200A), (0x2028, 0x2029), (0x202F, 0x202F), (0x205F, 0x205F), (0x3000, 0x3000)]

def isBlank (c : CodePoint) : Bool := c.isIn blankRanges

end CodePoint

namespace Text

/-- A text without the white space that it starts with. -/
def trimStart (t : Text) : Text := t.dropWhile CodePoint.isBlank

/-- A text without white space at either end. -/
def trim (t : Text) : Text := (trimStart (trimStart t).reverse).reverse

end Text

end JsonRpc
