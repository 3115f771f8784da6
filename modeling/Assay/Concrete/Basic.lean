import Assay.Concrete.Form
import Assay.Concrete.Escape
import Assay.Data.Numeral
import Assay.Source.Offsets
import Assay.Text.Quoted

/-!
# Concrete syntax trees

A `Concrete` tree keeps every token of a program: each node has a form, the byte offsets between
which it stands, and the name of the role it plays in its parent. A program that breaks the grammar
has nodes that are marked as faulty, and tokens that the grammar expected and did not find are
there as missing nodes. `firstFault?` finds the fault that a reader of the program meets first.
-/

set_option autoImplicit false

namespace Assay

/-- What a concrete node says about itself. -/
structure Shape where
  /-- The form. -/
  form : Form
  /-- The byte offset of the start. -/
  start : Int
  /-- The byte offset behind the end. -/
  stop : Int
  /-- The role in the parent, empty if it has none. -/
  field : String
  /-- Whether the node is more than a token. -/
  named : Bool
  /-- Whether the grammar expected the node and did not find it. -/
  missing : Bool
  /-- Whether the node or something in it breaks the grammar. -/
  faulty : Bool

/-- A concrete syntax tree. -/
inductive Concrete where
  | mk (shape : Shape) (children : List Concrete)

/-- The shape of the root of a tree. -/
def Concrete.shape : Concrete → Shape
  | .mk shape _ => shape

/-- A node with nothing wrong in it. -/
def Concrete.part (form : Form) (start stop : Int) (field : String) (children : List Concrete) :
    Concrete :=
  .mk ⟨form, start, stop, field, true, false, false⟩ children

/-- A token. -/
def Concrete.token (start stop : Int) (text field : String) : Concrete :=
  .mk ⟨.other text, start, stop, field, false, false, false⟩ []

/-- Why a program is refused. -/
inductive Refusal where
  /-- A token that the grammar expects is not there. -/
  | missing (form : Form)
  /-- Something stands where the grammar does not allow it. -/
  | unexpected (text : Text)
  /-- The syntax has no syntax tree. -/
  | unsupported (form : Form)
  /-- The member of a class has no syntax tree. -/
  | unsupportedMember (form : Form)

/-- The words for a refusal, without the place. -/
def Refusal.message : Refusal → Text
  | .missing form => "Missing " ++ (Text.ofString form.name).quoted
  | .unexpected text => "Unexpected token " ++ Text.quoted (text.take 20)
  | .unsupported form => "Unsupported syntax: " ++ form.unsupportedName
  | .unsupportedMember form => "Unsupported class member: " ++ form.name

/-- Why a program cannot be read. -/
inductive ParseError where
  /-- The program is refused because of what stands at the offset. -/
  | refused (refusal : Refusal) (index : Int)
  /-- An escape names no code point. -/
  | escape (failure : Escape.Failure)
  /-- A numeral has no value. -/
  | numeral (failure : Numeral.Failure)
  /-- The concrete tree lacks a part that its grammar promises. -/
  | absentPart
  /-- The concrete tree lacks an operand that its grammar promises. -/
  | absentOperand
  /-- The program holds a surrogate, which has no place in UTF-8. -/
  | notEncodable
  /-- A stretch of the program cuts through a code point. -/
  | notText
  /-- A place lies outside of the program. -/
  | outside

/-- The words for a refusal of `code`, with line and column. -/
def Refusal.located (refusal : Refusal) (code : Text) (index : Int) : Text :=
  refusal.message ++ " (" ++ (Position.ofIndex code index).text ++ ")"

/-- The outcome of reading one construct. -/
abbrev Read (α : Type) := Except ParseError α

namespace Source

/-- The code point offset of a byte offset. -/
def offset (source : Source) (byte : Int) : Read Int :=
  match source.offset? byte with
  | some index => .ok index
  | none => .error .outside

/-- The span between two byte offsets. -/
def span (source : Source) (start stop : Int) : Read Span :=
  match source.span? start stop with
  | some span => .ok span
  | none => .error .outside

/-- The text between two byte offsets. -/
def text (source : Source) (start stop : Int) : Read Text :=
  match source.text? start stop with
  | some text => .ok text
  | none => .error .notText

/-- The span of a shape. -/
def spanOf (source : Source) (shape : Shape) : Read Span := source.span shape.start shape.stop

/-- The text of a shape. -/
def textOf (source : Source) (shape : Shape) : Read Text := source.text shape.start shape.stop

/-- The refusal of what stands at a shape. -/
def refuse {α : Type} (source : Source) (refusal : Refusal) (shape : Shape) : Read α := do
  throw (.refused refusal (← source.offset shape.start))

end Source

namespace Concrete

mutual

/-- The first fault in a tree, parents first: a node that stands for an error, or a missing one.
Only marked nodes are searched. -/
def firstFault? : Concrete → Option Shape
  | .mk shape children =>
    if shape.form = .fault || shape.missing then some shape else firstFaultIn? children

/-- The first fault in the marked trees of a list. -/
def firstFaultIn? : List Concrete → Option Shape
  | [] => none
  | tree :: rest =>
    if tree.shape.faulty || tree.shape.missing then
      match firstFault? tree with
      | some shape => some shape
      | none => firstFaultIn? rest
    else firstFaultIn? rest

end

/-- Refuses a program whose tree is marked as faulty. -/
def refuseFault {α : Type} (source : Source) (root : Concrete) : Read α := do
  let shape := (firstFault? root).getD root.shape
  if shape.missing then source.refuse (.missing shape.form) shape
  else source.refuse (.unexpected (← source.textOf shape)) shape

end Concrete

end Assay
