import Assay.Concrete.Basic
import Assay.Tree.Build

/-!
# Readings of concrete syntax

A `Reading` is a concrete tree in which each node is annotated with the syntax tree it stands for,
or with the error that stops its reading. Each annotation depends on the shape of a node and on the
readings of its children only, so `Concrete.reading` in the module on lowering is one fold over the
tree. Members and calls have two annotations: `node` for the place where a chain ends, and `link`
for a place inside of a longer chain. This module holds the ways to look at a reading.
-/

set_option autoImplicit false

namespace Assay

/-- A concrete tree annotated with syntax trees. -/
inductive Reading where
  | mk (shape : Shape) (node link : Read Node) (parts : List Reading)

/-- The readings of the children of a node. -/
abbrev Parts := List Reading

namespace Reading

/-- The shape of the root. -/
def shape : Reading → Shape
  | .mk shape _ _ _ => shape

/-- The form of the root. -/
def form (r : Reading) : Form := r.shape.form

/-- The syntax tree of the root. -/
def node : Reading → Read Node
  | .mk _ node _ _ => node

/-- The syntax tree of the root inside of a chain. -/
def link : Reading → Read Node
  | .mk _ _ link _ => link

/-- The readings of the children. -/
def parts : Reading → Parts
  | .mk _ _ _ parts => parts

end Reading

namespace Parts

/-- The children that are more than tokens and comments. -/
def named (parts : Parts) : List Reading :=
  parts.filter fun r => r.shape.named && !r.form.isNoise

/-- The first child in a role, if any. -/
def find? (parts : Parts) (field : String) : Option Reading :=
  List.find? (fun r => r.shape.field == field) parts

/-- The first child in a role. -/
def get (parts : Parts) (field : String) : Read Reading :=
  match parts.find? field with
  | some r => .ok r
  | none => .error .absentPart

/-- The syntax tree of the first child in a role. -/
def node (parts : Parts) (field : String) : Read Node := do (← parts.get field).node

/-- The syntax tree of the first child in a role, if any child has it. -/
def node? (parts : Parts) (field : String) : Read (Option Node) :=
  match parts.find? field with
  | some r => return some (← r.node)
  | none => .ok none

/-- The syntax tree of the first child that is more than a token, if there is one. -/
def operand? (parts : Parts) : Read (Option Node) :=
  match parts.named with
  | r :: _ => return some (← r.node)
  | [] => .ok none

/-- The syntax tree of the first child that is more than a token. -/
def operand (parts : Parts) : Read Node :=
  match parts.named with
  | r :: _ => r.node
  | [] => .error .absentOperand

/-- The syntax trees of the children that are more than tokens. -/
def nodes (parts : Parts) : Read (List Node) := parts.named.mapM (·.node)

/-- Whether a child is one of the given tokens. -/
def hasToken (parts : Parts) (tokens : List String) : Bool :=
  parts.any fun r => tokens.contains r.form.name

/-- Whether a child marks the node as optional in its chain. -/
def isOptional (parts : Parts) : Bool := parts.hasToken ["optional_chain", "?."]

end Parts

/-- A node at the place of a shape. What is wrong with the parts of the node comes before what is
wrong with its place. -/
def Source.place {α : Type} (source : Source) (shape : Shape) (build : Span → Read α) : Read α :=
  match source.spanOf shape with
  | .ok span => build span
  | .error error => do
    let _ ← build .none
    throw error

end Assay
