/-!
# Text as a list of code points

Programs, messages and the string values inside programs are all `Text`: a list of code points,
where a lone surrogate is allowed, because an escape such as `\ud83d` in a program names one.
A `String` literal is read as the text of its characters, so texts are written as strings and
joined with `++`.

Cuts follow the rule for signed offsets: an offset below zero counts from the end, and an offset
outside the text stands for the nearer end (`Text.slice`).
-/

set_option autoImplicit false

namespace Assay

/-- A Unicode code point; the surrogates are among them. -/
abbrev CodePoint := Fin 0x110000

/-- A sequence of code points. -/
abbrev Text := List CodePoint

/-- The code point of a character. -/
def CodePoint.ofChar (c : Char) : CodePoint :=
  ⟨c.toNat, by
    have h : c.val.isValidChar := c.valid
    have e : c.toNat = c.val.toNat := rfl
    simp only [UInt32.isValidChar, Nat.isValidChar] at h
    omega⟩

instance : Coe Char CodePoint := ⟨CodePoint.ofChar⟩

/-- A surrogate is half of a pair of UTF-16 units and no character of its own. -/
def CodePoint.isSurrogate (c : CodePoint) : Bool :=
  0xD800 ≤ c.val && c.val ≤ 0xDFFF

/-- The character of a code point; a surrogate has none and shows as U+FFFD. -/
def CodePoint.toChar (c : CodePoint) : Char :=
  if c.isSurrogate then '�' else Char.ofNat c.val

/-- Whether the code point lies in the range from `lo` to `hi`, both included. -/
def CodePoint.within (c : CodePoint) (lo hi : Nat) : Bool :=
  lo ≤ c.val && c.val ≤ hi

/-- Whether the number lies in a run, where the list gives by turns the length of the gap before the
next run and the length of that run. -/
def isInRuns (n : Nat) : List Nat → Bool
  | gap :: run :: rest => gap ≤ n && (n < gap + run || isInRuns (n - gap - run) rest)
  | _ => false

/-- Whether the code point lies in one of the given runs beyond ASCII. -/
def CodePoint.isInRuns (c : CodePoint) (runs : List Nat) : Bool := Assay.isInRuns (c.val - 0x80) runs

/-- One of the digits `0` to `9`. -/
def CodePoint.isDigit (c : CodePoint) : Bool := c.within 0x30 0x39

/-- One of the letters `a` to `z` and `A` to `Z`. -/
def CodePoint.isAsciiLetter (c : CodePoint) : Bool := c.within 0x41 0x5A || c.within 0x61 0x7A

/-- The value of a hexadecimal digit of either case. -/
def CodePoint.hexValue? (c : CodePoint) : Option Nat :=
  if c.isDigit then some (c.val - 0x30)
  else if c.within 0x41 0x46 then some (c.val - 0x41 + 10)
  else if c.within 0x61 0x66 then some (c.val - 0x61 + 10)
  else none

namespace Text

/-- The text of a string. -/
def ofString (s : String) : Text := s.toList.map CodePoint.ofChar

instance : Coe String Text := ⟨Text.ofString⟩

/-- The string of a text; each surrogate shows as U+FFFD. -/
def toString (t : Text) : String := String.ofList (t.map CodePoint.toChar)

/-- The decimal digits of a natural number. -/
def ofNat (n : Nat) : Text := ofString (Nat.repr n)

/-- The decimal digits of an integer, after `-` if it is negative. -/
def ofInt : Int → Text
  | .ofNat n => ofNat n
  | .negSucc n => "-" ++ ofNat (n + 1)

/-- A digit below sixteen, in lower case. -/
def hexDigit (d : Nat) : CodePoint :=
  CodePoint.ofChar (if d < 10 then Char.ofNat (0x30 + d) else Char.ofNat (0x61 + (d - 10)))

/-- The last `width` hexadecimal digits of a number. -/
def hexPadded : Nat → Nat → Text
  | 0, _ => []
  | width + 1, n => hexPadded width (n / 16) ++ [hexDigit (n % 16)]

/-- The value of decimal digits. -/
def digitsValue (digits : Text) : Nat := digits.foldl (fun n c => 10 * n + (c.val - 0x30)) 0

/-- The value of hexadecimal digits, if the text holds nothing else. -/
def hexValue? (digits : Text) : Option Nat :=
  digits.foldlM (fun n c => c.hexValue?.map (16 * n + ·)) 0

/-- The value of exactly `count` hexadecimal digits at the start of a text. -/
def hexAtStart? (count : Nat) (t : Text) : Option Nat :=
  let digits := t.take count
  if digits.length = count then hexValue? digits else none

/-- The hexadecimal digits of a number, without leading zeros. -/
def hex (n : Nat) : Text := ofString (String.ofList (Nat.toDigits 16 n))

/-- The texts, with `separator` between each two neighbours. -/
def join (separator : Text) (parts : List Text) : Text := List.intercalate separator parts

/-- `count` copies of one code point. -/
def fill (count : Nat) (c : CodePoint) : Text := List.replicate count c

/-- The text, followed by blanks up to the given width. -/
def padRight (width : Nat) (t : Text) : Text := t ++ fill (width - t.length) ' '

/-- Whether the text starts with `head`. -/
def startsWith (t head : Text) : Bool := head.isPrefixOf t

/-- Whether the text ends with `tail`. -/
def endsWith (t tail : Text) : Bool := tail.isSuffixOf t

/-- The order of texts by their code points, a proper beginning before the whole. -/
def le : Text → Text → Bool
  | [], _ => true
  | _ :: _, [] => false
  | a :: s, b :: t => a.val < b.val || (a == b && le s t)

/-- The texts in the order `Text.le`. -/
def sort (texts : List Text) : List Text := texts.mergeSort le

/-- The place in a text of the given length that a signed offset names. -/
def clamp (length : Nat) (offset : Int) : Nat :=
  if offset < 0 then (offset + length).toNat else min offset.toNat length

/-- The part of the text from one signed offset to another. -/
def slice (t : Text) (start stop : Int) : Text :=
  let a := clamp t.length start
  (t.drop a).take (clamp t.length stop - a)

/-- The part of the text before the first `c`, and the part after it, empty if there is none. -/
def cutAt (c : CodePoint) (t : Text) : Text × Text :=
  (t.takeWhile (· != c), (t.dropWhile (· != c)).drop 1)

/-- Whether some code point of the text is a surrogate. -/
def hasSurrogate (t : Text) : Bool := t.any CodePoint.isSurrogate

end Text

end Assay
