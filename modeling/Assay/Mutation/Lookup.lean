import Assay.Mutation.Operator
import Assay.Tree.Walk

/-!
# Looking up swaps for anything

The catalogue can be asked about an operator that may be any data, on a node that was put together
by hand, whose operands may be missing or may be anything. Only what can be a key is looked up, and
only a strict comparison looks at the operands at all.
-/

set_option autoImplicit false

namespace Assay

namespace View

/-- What a field of a node holds, if there is such a field. -/
def field? (name : String) : View → Option View
  | .node _ _ _ fields => (fields.find? (·.1 == name)).map (·.2)
  | _ => none

/-- Whether a view is nothing at all. -/
def isNothing : View → Bool
  | .data .null => true
  | _ => false

/-- Whether a view is the literal `null`. -/
def isNullLiteral (view : View) : Bool :=
  match view.kind?, view.field? "value", view.field? "regex" with
  | some .literal, some value, some regex => value.isNothing && regex.isNothing
  | _, _, _ => false

end View

namespace MutationKind

/-- Why a look-up has no answer. -/
inductive LookupFault where
  /-- The operator cannot be a key. -/
  | notKey
  /-- Operands matter, and there are none. -/
  | noOperands

/-- What an operator of a node is exchanged for. -/
def swapsOn (kind : MutationKind) (operator : Data) (node : View) :
    Except LookupFault (List Text) :=
  match operator with
  | .list _ | .object _ => .error .notKey
  | .text operator =>
    if kind = .equality && !node.isNothing && (looseOf? operator).isSome then
      match node.field? "left", node.field? "right" with
      | some left, some right =>
        .ok (kind.swaps operator (left.isNullLiteral || right.isNullLiteral))
      | _, _ => .error .noOperands
    else .ok (kind.swaps operator false)
  | _ => .ok []

/-- The sort of what may be a binary operator, if it is exchanged at all. -/
def ofOperator? (operator : Data) : Except LookupFault (Option MutationKind) :=
  match operator with
  | .list _ | .object _ => .error .notKey
  | .text operator => .ok (ofBinary? operator)
  | _ => .ok none

end MutationKind

end Assay
