import Assay.Data.Basic

/-!
# Writing JSON

JSON is written in ASCII: a code point outside printable ASCII becomes an escape, one above U+FFFF
a pair of them. `Json.compact` writes on one line with a space after each comma and colon, and
`Json.indented` gives each item a line of its own, two spaces deeper than what holds it.
-/

set_option autoImplicit false

namespace Assay.Json

/-- The escape of one UTF-16 unit. -/
def unitEscape (unit : Nat) : Text := "\\u" ++ Text.hexPadded 4 unit

/-- The UTF-16 units of a code point. -/
def unitsOf (c : CodePoint) : List Nat :=
  if c.val < 0x10000 then [c.val]
  else [0xD800 + (c.val - 0x10000) / 0x400, 0xDC00 + (c.val - 0x10000) % 0x400]

/-- One code point inside a string. -/
def escape (c : CodePoint) : Text :=
  if c == '"' then "\\\""
  else if c == '\\' then "\\\\"
  else if c == '\n' then "\\n"
  else if c == '\r' then "\\r"
  else if c == '\t' then "\\t"
  else if c.val == 0x0C then "\\f"
  else if c.val == 0x08 then "\\b"
  else if c.within 0x20 0x7E then [c]
  else (unitsOf c).flatMap unitEscape

/-- A text as a JSON string. -/
def quote (t : Text) : Text := "\"" ++ t.flatMap escape ++ "\""

/-- Floats in JSON: the values that are no finite number are `Infinity` and `NaN`. -/
def floatText (x : Float) : Text := Decimal.display ⟨"Infinity", "NaN"⟩ x

/-- The JSON of data that holds no other data, if it is such. -/
def scalar? : Data → Option Text
  | .null => some "null"
  | .bool value => some (if value then "true" else "false")
  | .int value => some (Text.ofInt value)
  | .float value => some (floatText value)
  | .text value => some (quote value)
  | .list _ => none
  | .object _ => none

mutual

/-- JSON on one line. -/
def compact : Data → Text
  | .list items => "[" ++ Text.join ", " (compactList items) ++ "]"
  | .object fields => "\x7b" ++ Text.join ", " (compactFields fields) ++ "\x7d"
  | data => (scalar? data).getD []

/-- The items of a list. -/
def compactList : List Data → List Text
  | [] => []
  | item :: rest => compact item :: compactList rest

/-- The fields of an object. -/
def compactFields : List (Text × Data) → List Text
  | [] => []
  | (name, value) :: rest => (quote name ++ ": " ++ compact value) :: compactFields rest

end

/-- A line break and the indentation of the given depth. -/
def newline (depth : Nat) : Text := "\n" ++ Text.fill (2 * depth) ' '

/-- Items between brackets, one a line. -/
def bracket (opening closing : Text) (depth : Nat) (items : List Text) : Text :=
  if items.isEmpty then opening ++ closing
  else opening ++ newline (depth + 1) ++ Text.join ("," ++ newline (depth + 1)) items ++
    newline depth ++ closing

mutual

/-- JSON over several lines, inside something that stands at the given depth. -/
def indentedAt (depth : Nat) : Data → Text
  | .list items => bracket "[" "]" depth (indentedList (depth + 1) items)
  | .object fields => bracket "\x7b" "\x7d" depth (indentedFields (depth + 1) fields)
  | data => (scalar? data).getD []

/-- The items of a list. -/
def indentedList (depth : Nat) : List Data → List Text
  | [] => []
  | item :: rest => indentedAt depth item :: indentedList depth rest

/-- The fields of an object. -/
def indentedFields (depth : Nat) : List (Text × Data) → List Text
  | [] => []
  | (name, value) :: rest =>
    (quote name ++ ": " ++ indentedAt depth value) :: indentedFields depth rest

end

/-- JSON over several lines. -/
def indented (data : Data) : Text := indentedAt 0 data

end Assay.Json
