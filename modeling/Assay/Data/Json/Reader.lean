import Assay.Data.Basic
import Assay.Decimal.Binary

/-!
# Reading JSON

`Json.read` reads a whole JSON text. Beyond the standard it takes `NaN`, `Infinity` and
`-Infinity`. Numbers keep their kind: one with a fraction or an exponent is a float and any other
is whole. Of two fields of one name the last gives the value and the first the place. Two escapes
of a high and a low surrogate make one code point, and a surrogate that stands alone is kept.

The scanners consume their input from the left and return what follows. A value is at least one
code point long, so the length of the text bounds the recursion (`value`).
-/

set_option autoImplicit false

namespace Assay.Json

/-- Why a text cannot be read. -/
inductive ReadError where
  /-- The text is not JSON. -/
  | malformed
  /-- A whole number has more digits than are read. -/
  | tooManyDigits (count : Nat)

/-- The text after the white space at its start. -/
def skipBlanks (t : Text) : Text :=
  t.dropWhile fun c => c == ' ' || c == '\t' || c == '\n' || c == '\r'

/-- The UTF-16 unit of the four digits at the start of a text, and what follows. -/
def unit? (t : Text) : Option (Nat × Text) :=
  (t.hexAtStart? 4).map (·, t.drop 4)

/-- The code point of a number; a number that is none becomes U+FFFD. -/
def codePoint (n : Nat) : CodePoint := if h : n < 0x110000 then ⟨n, h⟩ else '�'

/-- The code point of an escape, whose letter has been read, and what follows. -/
def escapeOf? (letter : CodePoint) (t : Text) : Option (CodePoint × Text) :=
  if letter == '"' || letter == '\\' || letter == '/' then some (letter, t)
  else if letter == 'b' then some (codePoint 0x08, t)
  else if letter == 'f' then some (codePoint 0x0C, t)
  else if letter == 'n' then some ('\n', t)
  else if letter == 'r' then some ('\r', t)
  else if letter == 't' then some ('\t', t)
  else if letter == 'u' then
    (unit? t).map fun (high, rest) =>
      if 0xD800 ≤ high && high ≤ 0xDBFF && Text.startsWith rest "\\u" then
        match unit? (rest.drop 2) with
        | some (low, after) =>
          if 0xDC00 ≤ low && low ≤ 0xDFFF then
            (codePoint (0x10000 + (high - 0xD800) * 0x400 + (low - 0xDC00)), after)
          else (codePoint high, rest)
        | none => (codePoint high, rest)
      else (codePoint high, rest)
  else none

/-- The text up to the closing quote, and what follows it; `fuel` bounds the length. -/
def string? : Nat → Text → Option (Text × Text)
  | 0, _ => none
  | _, [] => none
  | fuel + 1, c :: rest =>
    if c == '"' then some ([], rest)
    else if c == '\\' then
      match rest with
      | [] => none
      | letter :: after =>
        (escapeOf? letter after).bind fun (d, after) =>
          (string? fuel after).map fun (text, last) => (d :: text, last)
    else if c.val < 0x20 then none
    else (string? fuel rest).map fun (text, last) => (c :: text, last)

/-- The digits of a fraction after its point, and what follows; none without a digit. -/
def fraction (t : Text) : Text × Text :=
  match t with
  | c :: rest =>
    let digits := rest.takeWhile CodePoint.isDigit
    if c == '.' && !digits.isEmpty then (digits, rest.dropWhile CodePoint.isDigit) else ([], t)
  | [] => ([], t)

/-- An exponent, and what follows it. -/
def exponent? (t : Text) : Option (Int × Text) :=
  match t with
  | c :: rest =>
    if c == 'e' || c == 'E' then
      let negative := rest.head? == some '-'
      let after := if negative || rest.head? == some '+' then rest.drop 1 else rest
      let digits := after.takeWhile CodePoint.isDigit
      if digits.isEmpty then none
      else
        let size : Int := Text.digitsValue digits
        some (if negative then -size else size, after.dropWhile CodePoint.isDigit)
    else none
  | [] => none

/-- A number without its sign, and what follows it. -/
def number (negative : Bool) (t : Text) : Except ReadError (Data × Text) :=
  let run := t.takeWhile CodePoint.isDigit
  let whole := if run.head? == some '0' then run.take 1 else run
  if whole.isEmpty then .error .malformed
  else
    let (places, rest) := fraction (t.drop whole.length)
    match exponent? rest with
    | some (size, after) =>
      .ok (.float (Decimal.nearest negative (Text.digitsValue (whole ++ places))
        (size - places.length)), after)
    | none =>
      if !places.isEmpty then
        .ok (.float (Decimal.nearest negative (Text.digitsValue (whole ++ places))
          (-(places.length : Int))), rest)
      else if Data.digitLimit < whole.length then .error (.tooManyDigits whole.length)
      else
        let size : Int := Text.digitsValue whole
        .ok (.int (if negative then -size else size), rest)

/-- The constants and their names. -/
def constants : List (String × Data) :=
  [("null", .null), ("true", .bool true), ("false", .bool false),
   ("NaN", .float (0.0 / 0.0)), ("Infinity", .float (1.0 / 0.0)),
   ("-Infinity", .float (-1.0 / 0.0))]

/-- The constant at the start of a text, and what follows it. -/
def constant? (t : Text) : Option (Data × Text) :=
  (constants.find? fun entry => Text.startsWith t entry.1).map fun entry =>
    (entry.2, t.drop entry.1.length)

mutual

/-- The value at the start of a text, and what follows it. -/
def value : Nat → Text → Except ReadError (Data × Text)
  | 0, _ => .error .malformed
  | _, [] => .error .malformed
  | fuel + 1, c :: rest =>
    if c == '"' then
      match string? (rest.length + 1) rest with
      | some (text, after) => .ok (.text text, after)
      | none => .error .malformed
    else if c == '[' then
      let inside := skipBlanks rest
      if inside.head? == some ']' then .ok (.list [], inside.drop 1)
      else (items fuel inside).map fun (items, after) => (.list items, after)
    else if c == '\x7b' then
      let inside := skipBlanks rest
      if inside.head? == some '\x7d' then .ok (.object [], inside.drop 1)
      else (fields fuel [] inside).map fun (fields, after) => (.object fields, after)
    else
      match constant? (c :: rest) with
      | some found => .ok found
      | none => if c == '-' then number true rest else number false (c :: rest)

/-- The items up to the closing bracket, and what follows it. -/
def items : Nat → Text → Except ReadError (List Data × Text)
  | 0, _ => .error .malformed
  | fuel + 1, t => do
    let (item, after) ← value fuel t
    match skipBlanks after with
    | c :: rest =>
      if c == ']' then return ([item], rest)
      else if c == ',' then
        let (more, last) ← items fuel (skipBlanks rest)
        return (item :: more, last)
      else throw .malformed
    | [] => throw .malformed

/-- The fields up to the closing brace, added to those that were read, and what follows it. -/
def fields : Nat → List (Text × Data) → Text → Except ReadError (List (Text × Data) × Text)
  | 0, _, _ => .error .malformed
  | fuel + 1, known, t => do
    match t with
    | [] => throw .malformed
    | c :: rest =>
      if c != '"' then throw .malformed
      match string? (rest.length + 1) rest with
      | none => throw .malformed
      | some (name, after) =>
        match skipBlanks after with
        | [] => throw .malformed
        | colon :: after =>
          if colon != ':' then throw .malformed
          let (data, after) ← value fuel (skipBlanks after)
          let known := Data.setField name data known
          match skipBlanks after with
          | [] => throw .malformed
          | mark :: after =>
            if mark == '\x7d' then return (known, after)
            else if mark == ',' then fields fuel known (skipBlanks after)
            else throw .malformed

end

/-- The data of a JSON text. -/
def read (t : Text) : Except ReadError Data := do
  let (data, after) ← value (2 * t.length + 2) (skipBlanks t)
  if (skipBlanks after).isEmpty then return data else throw .malformed

end Assay.Json
