import Assay.Source.Position

/-!
# Byte offsets and code point offsets

Concrete syntax trees count in bytes of the UTF-8 form of a program, syntax trees in code points.
`Offsets.table` lists, for each byte of the UTF-8 form and for its end, the number of the code
point that the byte belongs to, and a `Source` keeps that table beside its text.
-/

set_option autoImplicit false

namespace Assay

/-- The number of bytes that a code point takes in UTF-8. -/
def CodePoint.width (c : CodePoint) : Nat :=
  if c.val < 0x80 then 1 else if c.val < 0x800 then 2 else if c.val < 0x10000 then 3 else 4

namespace Offsets

/-- The entries for the bytes of a text whose first code point has number `first`. -/
def tableFrom (first : Nat) : Text → List Nat
  | [] => [first]
  | c :: rest => List.replicate c.width first ++ tableFrom (first + 1) rest

/-- For each byte of a text, and for its end, the number of the code point it belongs to. -/
def table (code : Text) : List Nat := tableFrom 0 code

end Offsets

/-- A program text prepared for cuts at byte offsets. -/
structure Source where
  /-- The text. -/
  code : Text
  /-- The code points of the text. -/
  points : Array CodePoint
  /-- The code point offset of each byte offset. -/
  offsets : Array Nat

namespace Source

/-- The source of a text. -/
def ofText (code : Text) : Source := ⟨code, code.toArray, (Offsets.table code).toArray⟩

/-- The number of bytes. -/
def size (source : Source) : Nat := source.offsets.size - 1

/-- Whether each code point takes one byte. -/
def isAscii (source : Source) : Bool := source.size == source.points.size

/-- The code point offset of a byte offset. Where each code point takes one byte it is the byte
offset itself; elsewhere only the bytes of the text and its end have one, and an offset below zero
counts back from there. -/
def offset? (source : Source) (byte : Int) : Option Int :=
  if source.isAscii then some byte
  else
    let place := if byte < 0 then byte + source.offsets.size else byte
    if place < 0 then none else source.offsets[place.toNat]?.map Int.ofNat

/-- Whether no code point reaches across the byte offset. -/
def isBoundary (source : Source) (byte : Nat) : Bool :=
  byte == 0 || source.offsets[byte]? != source.offsets[byte - 1]?

/-- The text between two byte offsets, which follow the rule of `Text.slice`; a stretch that cuts
through a code point is no text. -/
def text? (source : Source) (start stop : Int) : Option Text :=
  let a := Text.clamp source.size start
  let b := Text.clamp source.size stop
  if b ≤ a then some []
  else if source.isBoundary a && source.isBoundary b then
    some (source.points.extract (source.offsets.getD a 0) (source.offsets.getD b 0)).toList
  else none

/-- The span between two byte offsets. -/
def span? (source : Source) (start stop : Int) : Option Span := do
  return .between (← source.offset? start) (← source.offset? stop)

end Source

end Assay
