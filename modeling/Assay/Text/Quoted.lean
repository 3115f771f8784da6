import Assay.Text.Printable

/-!
# Quoted display of a text

A text is shown between single quotes, or between double quotes if it holds a single quote and no
double one. The quote in use and the backslash are escaped, and so is everything that is not
printable: line feed, carriage return and tab by a letter, all else by its code point in two, four
or eight hexadecimal digits.
-/

set_option autoImplicit false

namespace Assay.Text

/-- The quote that a display of the text stands between. -/
def quoteFor (t : Text) : CodePoint :=
  if t.contains '\'' && !t.contains '"' then '"' else '\''

/-- One code point inside quotes `quote`. -/
def displayUnit (quote c : CodePoint) : Text :=
  if c == quote || c == '\\' then ['\\', c]
  else if c == '\n' then "\\n"
  else if c == '\r' then "\\r"
  else if c == '\t' then "\\t"
  else if c.isPrintable then [c]
  else if c.val < 0x100 then "\\x" ++ hexPadded 2 c.val
  else if c.val < 0x10000 then "\\u" ++ hexPadded 4 c.val
  else "\\U" ++ hexPadded 8 c.val

/-- The text between quotes, on one line and printable throughout. -/
def quoted (t : Text) : Text :=
  let quote := t.quoteFor
  quote :: t.flatMap (displayUnit quote) ++ [quote]

end Assay.Text
