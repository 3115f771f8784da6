import Assay.Text.Quoted
import Assay.Decimal.Shortest

/-!
# Plain data

`Data` is what a JSON text holds and what the literals of a program stand for: nothing, a truth
value, a whole number or a float, a text, a list, or an object with its fields in the order in
which they were first given. `Data.display` shows data on one line, texts quoted.
-/

set_option autoImplicit false

namespace Assay

/-- A piece of plain data. -/
inductive Data where
  /-- The absent value. -/
  | null
  /-- A truth value. -/
  | bool (value : Bool)
  /-- A whole number. -/
  | int (value : Int)
  /-- A float. -/
  | float (value : Float)
  /-- A text. -/
  | text (value : Text)
  /-- A list. -/
  | list (items : List Data)
  /-- Named fields in order. -/
  | object (fields : List (Text × Data))

namespace Data

/-- The greatest number of decimal digits with which a whole number is read or written. -/
def digitLimit : Nat := 4300

/-- Whether a whole number has more digits than are written. -/
def isLongNumber (n : Int) : Bool := digitLimit < (Nat.toDigits 10 n.natAbs).length

mutual

/-- Whether some whole number in the data has more digits than are written. -/
def hasLongNumber : Data → Bool
  | .int value => isLongNumber value
  | .list items => anyLongNumber items
  | .object fields => anyLongField fields
  | _ => false

/-- Whether some item holds a long number. -/
def anyLongNumber : List Data → Bool
  | [] => false
  | item :: rest => item.hasLongNumber || anyLongNumber rest

/-- Whether some field holds a long number. -/
def anyLongField : List (Text × Data) → Bool
  | [] => false
  | (_, value) :: rest => value.hasLongNumber || anyLongField rest

end

/-- The words for a whole number with more digits than are written. -/
def longNumberMessage : Text :=
  "Exceeds the limit (" ++ Text.ofNat digitLimit ++
    " digits) for integer string conversion; use sys.set_int_max_str_digits() to increase the limit"

/-- The value of a field; none unless the data is an object that has it. -/
def field? (name : Text) : Data → Option Data
  | .object fields => (fields.find? (·.1 == name)).map (·.2)
  | _ => none

/-- The fields with `name` set to `value`, in place if the name was there and else at the end. -/
def setField (name : Text) (value : Data) : List (Text × Data) → List (Text × Data)
  | [] => [(name, value)]
  | (key, old) :: rest =>
    if key == name then (key, value) :: rest else (key, old) :: setField name value rest

/-- Whether data counts as true: all but nothing, `false`, zero and what is empty. -/
def isTruthy : Data → Bool
  | .null => false
  | .bool value => value
  | .int value => value != 0
  | .float value => !(value == 0.0)
  | .text value => !value.isEmpty
  | .list items => !items.isEmpty
  | .object fields => !fields.isEmpty

/-- The whole number that data equals, if it equals one: truth values count as zero and one. -/
def whole? : Data → Option Int
  | .bool value => some (if value then 1 else 0)
  | .int value => some value
  | .float value =>
    match Decimal.Exact.ofFloat value with
    | .finite negative mantissa exponent =>
      let scale := Decimal.twoTo (-exponent).toNat
      let size := mantissa * Decimal.twoTo exponent.toNat / scale
      if mantissa % scale = 0 then some (if negative then -size else size) else none
    | _ => none
  | _ => none

/-- The elements that data runs through: the characters of a text, the items of a list, the names
of an object's fields. Nothing else has elements. -/
def elements? : Data → Option (List Data)
  | .text value => some (value.map fun c => .text [c])
  | .list items => some items
  | .object fields => some (fields.map fun field => .text field.1)
  | _ => none

/-- Floats in a display: the values that are no finite number are `inf` and `nan`. -/
def floatDisplay (x : Float) : Text := Decimal.display ⟨"inf", "nan"⟩ x

mutual

/-- Data on one line, with texts between quotes. -/
def display : Data → Text
  | .null => "None"
  | .bool value => if value then "True" else "False"
  | .int value => Text.ofInt value
  | .float value => floatDisplay value
  | .text value => value.quoted
  | .list items => "[" ++ Text.join ", " (displayList items) ++ "]"
  | .object fields => "\x7b" ++ Text.join ", " (displayFields fields) ++ "\x7d"

/-- The displays of a list's items. -/
def displayList : List Data → List Text
  | [] => []
  | item :: rest => item.display :: displayList rest

/-- The displays of an object's fields. -/
def displayFields : List (Text × Data) → List Text
  | [] => []
  | (name, value) :: rest => (name.quoted ++ ": " ++ value.display) :: displayFields rest

end

/-- Data as running text: a text as it is, all else as displayed. -/
def plain : Data → Text
  | .text value => value
  | data => data.display

end Data

end Assay
