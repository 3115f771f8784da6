import Assay.Data.Basic

/-!
# Data as keys

Texts, numbers and the absent value can be keys, lists and objects cannot. Two numbers are the same
key if they have the same value, whatever they are written as, and truth values count as zero and
one. Keys are put in order among numbers and among texts, and in no other company.
-/

set_option autoImplicit false

namespace Assay.Data

/-- Whether data can be a key. -/
def isKey : Data → Bool
  | .list _ | .object _ => false
  | _ => true

/-- Whether two pieces of data are the same key. -/
def sameKey (a b : Data) : Bool :=
  match a.whole?, b.whole? with
  | some m, some n => m == n
  | none, none =>
    match a, b with
    | .null, .null => true
    | .float x, .float y => x == y
    | .text s, .text t => s == t
    | _, _ => false
  | _, _ => false

/-- Whether a key is among others. -/
def isAmong (key : Data) (keys : List Data) : Bool := keys.any key.sameKey

/-- Whether data is a number; truth values are. -/
def isNumber : Data → Bool
  | .bool _ | .int _ | .float _ => true
  | _ => false

/-- Whether data is a text. -/
def isText : Data → Bool
  | .text _ => true
  | _ => false

/-- The float nearest to a number. -/
def toFloat : Data → Float
  | .float x => x
  | data => Float.ofInt (data.whole?.getD 0)

/-- Whether a key does not come behind another one of its company. -/
def keyLe : Data → Data → Bool
  | .text s, .text t => s.le t
  | a, b =>
    match a.whole?, b.whole? with
    | some m, some n => m ≤ n
    | _, _ => a.toFloat ≤ b.toFloat

/-- Whether keys can be put in order. -/
def areOrdered (keys : List Data) : Bool :=
  keys.length ≤ 1 || keys.all isNumber || keys.all isText

/-- Whether a number is more than zero; nothing else is compared with zero. -/
def isPositive? : Data → Option Bool
  | .bool value => some value
  | .int value => some (0 < value)
  | .float value => some !(value ≤ 0.0)
  | _ => none

/-- A number cut down to a whole one. -/
def truncate (data : Data) : Int :=
  match data with
  | .float value =>
    match Decimal.Exact.ofFloat value with
    | .finite negative mantissa exponent =>
      let size := mantissa * Decimal.twoTo exponent.toNat / Decimal.twoTo (-exponent).toNat
      if negative then -size else size
    | _ => 0
  | data => data.whole?.getD 0

end Assay.Data
