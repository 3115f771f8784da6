import Assay.Data.Basic
import Assay.Text.Letter
import Assay.Decimal.Binary

/-!
# Reading the numbers of a program

A numeral is read as a whole number if it has that form, in decimal or after `0x`, `0o` or `0b`,
and as a float otherwise. A decimal with a leading zero is whole only if it is zero. Underscores
are passed over, blanks around the numeral are ignored, and the digits of every script count. A
numeral that ends in `n` must be whole.
-/

set_option autoImplicit false

namespace Assay.Numeral

/-- Why a numeral has no value. -/
inductive Failure where
  /-- The text is no whole number. -/
  | notWhole (text : Text)
  /-- The text is no number. -/
  | notNumber (text : Text)
  /-- A decimal whole number has more digits than are read. -/
  | tooManyDigits (count : Nat)

/-- The number of code points of a quoted text that the words for what is not whole show. -/
def shownLength : Nat := 200

/-- The words for a failure. -/
def Failure.message : Failure → Text
  | .notWhole text => "invalid literal for int() with base 0: " ++ text.quoted.take shownLength
  | .notNumber text => "could not convert string to float: " ++ text.quoted
  | .tooManyDigits count =>
    "Exceeds the limit (" ++ Text.ofNat Data.digitLimit ++
      " digits) for integer string conversion: value has " ++ Text.ofNat count ++
      " digits; use sys.set_int_max_str_digits() to increase the limit"

/-- White space that may stand around a numeral. -/
def isMargin (c : CodePoint) : Bool := c.within 0x09 0x0D || c == ' '

/-- White space beyond ASCII. -/
def isWideBlank (c : CodePoint) : Bool :=
  c.val == 0x85 || c.val == 0xA0 || c.val == 0x1680 || c.within 0x2000 0x200A ||
    c.val == 0x2028 || c.val == 0x2029 || c.val == 0x202F || c.val == 0x205F || c.val == 0x3000

/-- The code point in ASCII: a digit of any script as its value, other white space as a space. -/
def toAscii (c : CodePoint) : CodePoint :=
  if c.val < 0x80 then c
  else if isWideBlank c then ' '
  else match c.digitValue? with
    | some digit => Text.hexDigit digit
    | none => '?'

/-- The numeral in ASCII, without the white space around it. -/
def normalize (t : Text) : Text :=
  let ascii := (t.map toAscii).dropWhile isMargin
  (ascii.reverse.dropWhile isMargin).reverse

/-- The sign at the start of a text, true for a minus, and what follows it. -/
def signOf (t : Text) : Bool × Text :=
  match t with
  | c :: rest => if c == '-' then (true, rest) else if c == '+' then (false, rest) else (false, t)
  | [] => (false, [])

/-- The base that the letter after a leading zero names. -/
def baseOf? (c : CodePoint) : Option Nat :=
  if c == 'x' || c == 'X' then some 16
  else if c == 'o' || c == 'O' then some 8
  else if c == 'b' || c == 'B' then some 2
  else none

/-- The base of a numeral without sign, whether its value has to be zero, and its digits. -/
def baseAndDigits (t : Text) : Nat × Bool × Text :=
  match t with
  | c :: letter :: digits =>
    if c == '0' then
      match baseOf? letter with
      | some base => (base, false, digits)
      | none => (10, true, t)
    else (10, false, t)
  | _ => (10, false, t)

/-- The value of a digit below the base. -/
def digitIn? (base : Nat) (c : CodePoint) : Option Nat :=
  c.hexValue?.filter (· < base)

/-- The whole number that a numeral writes. -/
def whole (t : Text) : Except Failure Int := do
  let (negative, rest) := signOf (normalize t)
  let (base, onlyZero, digits) := baseAndDigits rest
  let run := digits.takeWhile fun c => (digitIn? base c).isSome
  if base = 10 && Data.digitLimit < run.length then throw (.tooManyDigits run.length)
  let size := run.foldl (fun n c => base * n + (digitIn? base c).getD 0) 0
  if run.isEmpty || run.length < digits.length || (onlyZero && size != 0) then throw (.notWhole t)
  return if negative then -(size : Int) else size

/-- Whether two texts agree up to the case of ASCII letters. -/
def sameLetters (t : Text) (word : String) : Bool :=
  t.map (fun c => c.toChar.toLower) == word.toList

/-- An exponent that is the whole of a text; an empty text is the exponent zero. -/
def exponent? (t : Text) : Option Int :=
  match t with
  | [] => some 0
  | c :: rest =>
    let (negative, digits) := signOf rest
    if (c == 'e' || c == 'E') && !digits.isEmpty && digits.all CodePoint.isDigit then
      let size : Int := Text.digitsValue digits
      some (if negative then -size else size)
    else none

/-- The float that a numeral without white space around it writes. -/
def float? (t : Text) : Option Float :=
  let (negative, rest) := signOf t
  if sameLetters rest "inf" || sameLetters rest "infinity" then
    some (if negative then -1.0 / 0.0 else 1.0 / 0.0)
  else if sameLetters rest "nan" then some (0.0 / 0.0)
  else
    let before := rest.takeWhile CodePoint.isDigit
    let tail := rest.dropWhile CodePoint.isDigit
    let pointed := tail.head? == some '.'
    let after := if pointed then (tail.drop 1).takeWhile CodePoint.isDigit else []
    let last := if pointed then (tail.drop 1).dropWhile CodePoint.isDigit else tail
    if before.isEmpty && after.isEmpty then none
    else (exponent? last).map fun size =>
      Decimal.nearest negative (Text.digitsValue (before ++ after)) (size - after.length)

/-- The value of a numeral as it stands in a program. -/
def read (raw : Text) : Except Failure Data :=
  let text := raw.filter fun (c : CodePoint) => c != '_'
  if text.getLast? == some 'n' then (whole text.dropLast).map .int
  else match whole text with
    | .ok value => .ok (.int value)
    | .error _ =>
      match float? (normalize text) with
      | some value => .ok (.float value)
      | none => .error (.notNumber text)

end Assay.Numeral
