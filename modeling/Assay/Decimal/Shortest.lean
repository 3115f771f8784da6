import Assay.Decimal.Binary

/-!
# The shortest decimal of a float

`shortest` chooses, among the decimals that read back as a given float, one with the fewest
digits, and of those the one nearest to the float. It tries one digit, then two, and so on: at
each length the two decimals around the float are tested against the interval of numbers that
round to it, in exact arithmetic. `display` lays the digits out: positionally if the decimal
exponent lies between -4 and 15, else with an exponent of at least two digits.
-/

set_option autoImplicit false

namespace Assay.Decimal

/-- The numbers that round to one float, as a fraction with four times its unit: from `low` to
`high` over `denominator`, around `middle`. -/
structure Interval where
  /-- The lower end. -/
  low : Nat
  /-- The float itself. -/
  middle : Nat
  /-- The upper end. -/
  high : Nat
  /-- What the three are divided by. -/
  denominator : Nat
  /-- Whether the ends round to the float too. -/
  closed : Bool

/-- The interval of a float. Below a power of two the neighbours are closer. -/
def Interval.ofBinary (mantissa : Nat) (exponent : Int) : Interval :=
  let gap := if mantissa = twoTo 52 && exponent ≠ -1074 then 1 else 2
  let (unit, denominator) := scaled 1 4 (-exponent)
  { low := (4 * mantissa - gap) * unit, middle := 4 * mantissa * unit,
    high := (4 * mantissa + 2) * unit, denominator, closed := mantissa % 2 == 0 }

/-- Whether the fraction `n / d` rounds to the float. -/
def Interval.holds (i : Interval) (n d : Nat) : Bool :=
  let value := n * i.denominator
  if i.closed then i.low * d ≤ value && value ≤ i.high * d
  else i.low * d < value && value < i.high * d

/-- A decimal: `digits * 10 ^ exponent`. -/
structure Digits where
  /-- The digits, as one number. -/
  digits : Nat
  /-- The place of the last digit. -/
  exponent : Int

/-- The power of ten as a fraction. -/
def tenPower (exponent : Int) : Nat × Nat :=
  if exponent < 0 then (1, tenTo (-exponent).toNat) else (tenTo exponent.toNat, 1)

/-- The decimal of the given place that is nearest to the float, if it rounds to the float. -/
def Interval.at? (i : Interval) (exponent : Int) : Option Digits :=
  let (p, q) := tenPower exponent
  let below := i.middle * q / (i.denominator * p)
  let fits (n : Nat) : Bool := i.holds (n * p) q
  let nearest := divEven (i.middle * q) (i.denominator * p)
  if fits nearest then some ⟨nearest, exponent⟩
  else if fits below then some ⟨below, exponent⟩
  else if fits (below + 1) then some ⟨below + 1, exponent⟩
  else none

/-- The decimal without zeros at its end; `fuel` bounds their number. -/
def Digits.trim : Nat → Digits → Digits
  | 0, d => d
  | fuel + 1, d =>
    if d.digits % 10 = 0 && d.digits ≠ 0 then trim fuel ⟨d.digits / 10, d.exponent + 1⟩ else d

/-- The place of the first digit of the fraction `n / d`, counted from the point: 1 for units. -/
def leadingPlace (n d : Nat) : Int :=
  if d ≤ n then digitCount (n / d)
  else -(((List.range 400).find? fun zeros => d ≤ n * tenTo (zeros + 1)).getD 400 : Nat)

/-- The shortest decimal that reads back as the float `mantissa * 2 ^ exponent`. -/
def shortest (mantissa : Nat) (exponent : Int) : Digits :=
  let i := Interval.ofBinary mantissa exponent
  let place := leadingPlace i.middle i.denominator
  let found := (List.range 17).findSome? fun (count : Nat) => i.at? (place - (count + 1))
  Digits.trim 400 (found.getD ⟨0, 0⟩)

/-- How the values that are no finite number are written. -/
structure Special where
  /-- The text of infinity. -/
  infinity : Text
  /-- The text of a value that is no number. -/
  nan : Text

/-- A minus sign for a negative value. -/
def sign (negative : Bool) : Text := if negative then "-" else ""

/-- An exponent: a sign and at least two digits. -/
def exponentText (e : Int) : Text :=
  let digits := Text.ofNat e.natAbs
  "e" ++ (if e < 0 then "-" else "+") ++ (if digits.length < 2 then "0" ++ digits else digits)

/-- A decimal, positional or with an exponent, and always with a sign of being a float. -/
def Digits.layout (d : Digits) : Text :=
  let text := Text.ofNat d.digits
  let point : Int := text.length + d.exponent
  if -4 < point && point ≤ 16 then
    if point ≤ 0 then "0." ++ Text.fill (-point).toNat '0' ++ text
    else if (text.length : Int) ≤ point then
      text ++ Text.fill (point - text.length).toNat '0' ++ ".0"
    else text.take point.toNat ++ "." ++ text.drop point.toNat
  else
    let rest : Text := text.drop 1
    text.take 1 ++ (if rest.isEmpty then rest else "." ++ rest) ++ exponentText (point - 1)

/-- The shortest text of a float. -/
def display (special : Special) (x : Float) : Text :=
  match Exact.ofFloat x with
  | .nan => special.nan
  | .infinite negative => sign negative ++ special.infinity
  | .finite negative mantissa exponent =>
    sign negative ++ (if mantissa = 0 then ("0.0" : Text) else (shortest mantissa exponent).layout)

end Assay.Decimal
