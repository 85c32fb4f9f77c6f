/-
Letters without regard to case.

Code points that differ in case only have one image in common: their small letter, or the least one
where several small letters go with one capital. The image is a single code point, so that texts
keep their length; a letter whose other case takes several stays apart from these.
-/
import JsonRpc.Text.SmallLetter

namespace JsonRpc.CodePoint

/-- Where small letters have the least one that goes with the same capital. -/
def twinShifts : List Shift := [
  ⟨0x0131, 0x0131, 1, 0x0069⟩, ⟨0x017F, 0x017F, 1, 0x0073⟩, ⟨0x03B9, 0x03B9, 1, 0x0345⟩,
  ⟨0x03BC, 0x03BC, 1, 0x00B5⟩, ⟨0x03C3, 0x03C3, 1, 0x03C2⟩, ⟨0x03D0, 0x03D0, 1, 0x03B2⟩,
  ⟨0x03D1, 0x03D1, 1, 0x03B8⟩, ⟨0x03D5, 0x03D5, 1, 0x03C6⟩, ⟨0x03D6, 0x03D6, 1, 0x03C0⟩,
  ⟨0x03F0, 0x03F0, 1, 0x03BA⟩, ⟨0x03F1, 0x03F1, 1, 0x03C1⟩, ⟨0x03F5, 0x03F5, 1, 0x03B5⟩,
  ⟨0x1C80, 0x1C80, 1, 0x0432⟩, ⟨0x1C81, 0x1C81, 1, 0x0434⟩, ⟨0x1C82, 0x1C82, 1, 0x043E⟩,
  ⟨0x1C83, 0x1C84, 1, 0x0441⟩, ⟨0x1C85, 0x1C85, 1, 0x0442⟩, ⟨0x1C86, 0x1C86, 1, 0x044A⟩,
  ⟨0x1C87, 0x1C87, 1, 0x0463⟩, ⟨0x1E9B, 0x1E9B, 1, 0x1E61⟩, ⟨0x1FBE, 0x1FBE, 1, 0x0345⟩,
  ⟨0x1FD3, 0x1FD3, 1, 0x0390⟩, ⟨0x1FE3, 0x1FE3, 1, 0x03B0⟩, ⟨0xA64B, 0xA64B, 1, 0x1C88⟩,
  ⟨0xFB06, 0xFB06, 1, 0xFB05⟩]

/-- The image that a code point shares with those that differ from it in case only. -/
def foldCase (c : CodePoint) : CodePoint :=
  (imageBy twinShifts c.smallLetter).getD c.smallLetter

/-- Two code points are the same or differ in case only. -/
def sameLetter (c d : CodePoint) : Bool := c.foldCase = d.foldCase

end JsonRpc.CodePoint
