import Assay.Text.Basic

/-!
# Places in a source text

A `Position` is a signed offset into a text together with the line and the column that it falls
on, and a `Range` is a pair of positions of which the first is not behind the second. Offsets
outside the text follow the rule of `Text.slice`: lines are counted in the part of the text before
the offset, and the column is the distance to the start of the last of those lines.
-/

set_option autoImplicit false

namespace Assay

/-- A point in a text: the line counts from 1, the column and the index from 0. -/
structure Position where
  /-- The line. -/
  line : Nat
  /-- The distance from the start of the line. -/
  column : Int
  /-- The distance from the start of the text. -/
  index : Int
  deriving DecidableEq

namespace Position

/-- The offset at which the last line of a text starts. -/
def lineStart (head : Text) : Nat :=
  head.length - (head.reverse.takeWhile fun (c : CodePoint) => c != '\n').length

/-- The position of an offset. -/
def ofIndex (code : Text) (index : Int) : Position :=
  let head := code.slice 0 index
  { line := head.count (CodePoint.ofChar '\n') + 1, column := index - lineStart head, index }

/-- A position as line and column. -/
def text (p : Position) : Text := Text.ofNat p.line ++ ":" ++ Text.ofInt p.column

end Position

/-- The offsets of the first code point of a piece of source and of the one behind its last, each
if it is known. -/
structure Span where
  /-- The offset of the first code point. -/
  start : Option Int
  /-- The offset behind the last code point. -/
  stop : Option Int
  deriving DecidableEq

/-- The span of what has no place in a source. -/
def Span.none : Span := ⟨Option.none, Option.none⟩

/-- The span between two known offsets. -/
def Span.between (start stop : Int) : Span := ⟨some start, some stop⟩

/-- Why there is no range. -/
inductive RangeError where
  /-- The first offset is behind the second. -/
  | reversed (start stop : Int)
  /-- A node of the named kind has no place in the source. -/
  | unlocated (kind : String)
  deriving DecidableEq

/-- The words for offsets in the wrong order, as they are shown. -/
def RangeError.reversedMessage (start stop : Text) : Text :=
  "Range starts after it ends: " ++ start ++ " > " ++ stop

/-- The words for a missing range. -/
def RangeError.message : RangeError → Text
  | .reversed start stop => reversedMessage (Text.ofInt start) (Text.ofInt stop)
  | .unlocated kind => kind ++ " has no source location"

/-- A stretch of a text. -/
structure Range where
  /-- Where it starts. -/
  start : Position
  /-- Where it ends. -/
  stop : Position
  /-- It does not start behind its end. -/
  ordered : start.index ≤ stop.index

namespace Range

/-- The range between two offsets. -/
def ofOffsets (code : Text) (start stop : Int) : Except RangeError Range :=
  if h : start ≤ stop then .ok ⟨Position.ofIndex code start, Position.ofIndex code stop, h⟩
  else .error (.reversed start stop)

/-- The range of a span that belongs to a node of the given kind. -/
def ofSpan (code : Text) (kind : String) (span : Span) : Except RangeError Range :=
  match span with
  | ⟨some start, some stop⟩ => ofOffsets code start stop
  | _ => .error (.unlocated kind)

/-- The part of the text that the range covers. -/
def substring (r : Range) (code : Text) : Text := code.slice r.start.index r.stop.index

/-- A range as its two positions. -/
def text (r : Range) : Text := "(" ++ r.start.text ++ "-" ++ r.stop.text ++ ")"

end Range

end Assay
