import Assay.Decimal.Binary

/-!
# A fixed number of decimal places

`fixed` writes a float with a given number of places and `roundTo` rounds it to them. Both round
the exact binary value, and an exact half goes to the even digit.
-/

set_option autoImplicit false

namespace Assay.Decimal

/-- The float `mantissa * 2 ^ exponent` in units of the last of `places` decimals. -/
def unitsOf (places mantissa : Nat) (exponent : Int) : Nat :=
  let (n, d) := scaled (mantissa * tenTo places) 1 (-exponent)
  divEven n d

/-- The text of a float with the given number of places, at least one. -/
def fixed (places : Nat) (x : Float) : Text :=
  match Exact.ofFloat x with
  | .nan => "nan"
  | .infinite negative => (if negative then "-" else "") ++ "inf"
  | .finite negative mantissa exponent =>
    let units := unitsOf places mantissa exponent
    let digits := Text.ofNat (units % tenTo places)
    (if negative then "-" else "") ++ Text.ofNat (units / tenTo places) ++ "." ++
      Text.fill (places - digits.length) '0' ++ digits

/-- The float nearest to the value rounded to the given number of places. -/
def roundTo (places : Nat) (x : Float) : Float :=
  match Exact.ofFloat x with
  | .finite negative mantissa exponent =>
    nearest negative (unitsOf places mantissa exponent) (-places)
  | _ => x

end Assay.Decimal
