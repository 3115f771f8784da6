import Assay.Text.Basic

/-!
# Floats as exact binary fractions

A finite float is `mantissa * 2 ^ exponent` with a sign (`Binary`). `magnitude` goes the other way
and finds the float nearest to a quotient of natural numbers, a half going to the even mantissa;
both work on the 64 bits of the float in exact arithmetic.
-/

set_option autoImplicit false

namespace Assay.Decimal

/-- Two to the power of a number. -/
def twoTo (k : Nat) : Nat := Nat.pow 2 k

/-- Ten to the power of a number. -/
def tenTo (k : Nat) : Nat := Nat.pow 10 k

/-- The quotient `n / d` rounded to the nearest whole number, a half to the even one. -/
def divEven (n d : Nat) : Nat :=
  let quotient := n / d
  let remainder := n % d
  if 2 * remainder < d then quotient
  else if d < 2 * remainder then quotient + 1
  else quotient + quotient % 2

/-- The exact value of a float. -/
inductive Exact where
  /-- `mantissa * 2 ^ exponent`, negated if `negative`. -/
  | finite (negative : Bool) (mantissa : Nat) (exponent : Int)
  /-- Beyond every finite value. -/
  | infinite (negative : Bool)
  /-- No number. -/
  | nan

/-- The value that the bits of a float stand for. -/
def Exact.ofBits (bits : Nat) : Exact :=
  let negative := bits / twoTo 63 % 2 == 1
  let scale : Nat := bits / twoTo 52 % twoTo 11
  let fraction := bits % twoTo 52
  if scale = 2047 then (if fraction = 0 then .infinite negative else .nan)
  else if scale = 0 then .finite negative fraction (-1074)
  else .finite negative (twoTo 52 + fraction) ((scale : Int) - 1075)

/-- The value of a float. -/
def Exact.ofFloat (x : Float) : Exact := .ofBits x.toBits.toNat

/-- `n / d` divided by `2 ^ e`, as a quotient of natural numbers. -/
def scaled (n d : Nat) (e : Int) : Nat × Nat :=
  if e < 0 then (n * twoTo (-e).toNat, d) else (n, d * twoTo e.toNat)

/-- The exponent at which the quotient `n / d` has a mantissa of 53 bits, or the least exponent
of a float if that is greater. -/
def exponentFor (n d : Nat) : Int :=
  let guess : Int := (Nat.log2 n : Int) - Nat.log2 d - 52
  let (a, b) := scaled n d guess
  let exponent := if a / b < twoTo 52 then guess - 1 else guess
  if exponent < -1074 then -1074 else exponent

/-- The bits of infinity. -/
def infinityBits : Nat := 2047 * twoTo 52

/-- The bits of the float nearest to the quotient `n / d`. -/
def magnitude (n d : Nat) : Nat :=
  if n = 0 then 0
  else
    let exponent := exponentFor n d
    let (a, b) := scaled n d exponent
    let mantissa := divEven a b
    if mantissa < twoTo 52 then mantissa
    else
      let bits := (exponent + 1074).toNat * twoTo 52 + mantissa
      if bits < infinityBits then bits else infinityBits

/-- The float with the given sign and the bits of its magnitude. -/
def signed (negative : Bool) (bits : Nat) : Float :=
  Float.ofBits (UInt64.ofNat (if negative then twoTo 63 + bits else bits))

/-- The number of decimal digits of a number. -/
def digitCount (n : Nat) : Nat := (Nat.toDigits 10 n).length

/-- The float nearest to `digits * 10 ^ exponent`. Exponents far outside the range of floats are
settled without computing the power. -/
def nearest (negative : Bool) (digits : Nat) (exponent : Int) : Float :=
  let size := exponent + digitCount digits
  if digits = 0 then signed negative 0
  else if 400 < size then signed negative infinityBits
  else if size < -400 then signed negative 0
  else if exponent < 0 then signed negative (magnitude digits (tenTo (-exponent).toNat))
  else signed negative (magnitude (digits * tenTo exponent.toNat) 1)

end Assay.Decimal
