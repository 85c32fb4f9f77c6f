/-
Quoted text for messages.

A text is shown between single quotes, or between double quotes if it has a single quote and no
double one. The quote in use and the backslash are escaped by a backslash, the three common line
controls by their letters, and every other unprintable code point by the shortest of `\xNN`,
`\uNNNN` and `\UNNNNNNNN` that holds it.
-/
import JsonRpc.Text.Printable

namespace JsonRpc.Text

/-- The quote that a quoted text stands between. -/
def quoteOf (t : Text) : CodePoint :=
  if t.contains (.ofChar '\'') && !t.contains (.ofChar '"') then .ofChar '"' else .ofChar '\''

/-- One code point of a text between quotes `q`. -/
def quotedCodePoint (q c : CodePoint) : Text :=
  if c = q ∨ c = '\\' then [.ofChar '\\', c]
  else if c = '\n' then of "\\n"
  else if c = '\r' then of "\\r"
  else if c = '\t' then of "\\t"
  else if c.isPrintable then [c]
  else if c.val < 0x100 then of "\\x" ++ hex 2 c.val
  else if c.val < 0x10000 then of "\\u" ++ hex 4 c.val
  else of "\\U" ++ hex 8 c.val

/-- The quoted form of a text. -/
def quoted (t : Text) : Text :=
  let q := quoteOf t
  q :: t.flatMap (quotedCodePoint q) ++ [q]

/-- The quoted forms of several texts in square brackets. -/
def quotedList (ts : List Text) : Text :=
  of "[" ++ intercalate (of ", ") (ts.map quoted) ++ of "]"

end JsonRpc.Text
