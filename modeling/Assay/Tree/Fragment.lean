import Assay.Tree.Build
import Assay.Tree.Walk

/-!
# Fragments around anything

The fragments that are put into programs can also be built around views of any shape. Where a
fragment takes over the place of a node, or goes into a block, there has to be one; everything else
may be anything, and it stands in the fragment as it is.
-/

set_option autoImplicit false

namespace Assay.Fragment

/-- Why a fragment cannot be built. -/
inductive Fault where
  /-- There is no space of that name. -/
  | unknownSpace (shown : Text)
  /-- Something is no list. -/
  | wrongType
  /-- Something has no place in the source, or nothing to put a statement into. -/
  | noParts
  /-- A number has more digits than are written. -/
  | tooManyDigits

/-- The words for what cannot be built. -/
def Fault.message : Fault → Text
  | .unknownSpace shown => "Unknown id space: " ++ shown
  | .wrongType => "wrong type"
  | .noParts => "no parts"
  | .tooManyDigits => Data.longNumberMessage

/-- A built view, or the reason why there is none. -/
abbrev Built := Except Fault View

/-- A node of the given kind at the given place; the fields that are not given have defaults. -/
def nodeAt (kind : Kind) (start stop : Data) (given : List (String × View)) : View :=
  .node kind start stop (kind.fields.map fun (name, fallback) =>
    (name, ((given.find? (·.1 == name)).map (·.2)).getD (View.ofDefault fallback)))

/-- A node of the given kind without a place. -/
def node (kind : Kind) (given : List (String × View)) : View := nodeAt kind .null .null given

/-- A text as a view. -/
def textView (t : Text) : View := .data (.text t)

/-- A name, which may be anything. -/
def name (value : View) : View := node .identifier [("name", value)]

/-- A member of an object. -/
def member (object property : View) : View :=
  node .memberExpression [("object", object), ("property", property)]

/-- A text that has to be displayed. -/
def needShown (text : Option Text) : Except Fault Text :=
  match text with
  | some shown => .ok shown
  | none => .error .tooManyDigits

/-- Whether a view is the name of a space. -/
def isSpace : View → Bool
  | .data (.text name) => (Space.ofName? name).isSome
  | _ => false

/-- The call `<handle>.<space>.add(<id>)`. -/
def trackingCall (space id handle : View) : Built := do
  if !isSpace space then throw (.unknownSpace (← needShown space.display?))
  let raw ← needShown id.plain?
  return node .callExpression
    [("callee", member (member (name handle) (name space)) (name (textView "add"))),
     ("arguments", .list [node .literal [("value", id), ("raw", textView raw)]])]

/-- The tracking call as a statement. -/
def trackingStatement (space id handle : View) : Built :=
  return node .expressionStatement [("expression", ← trackingCall space id handle)]

/-- What a view runs through. -/
def elements : View → Except Fault (List View)
  | .list items | .tuple items => .ok items
  | .data value =>
    match value.elements? with
    | some values => .ok (values.map View.data)
    | none => .error .wrongType
  | .node .. => .error .wrongType

/-- The expressions from left to right, with the value of the last. -/
def sequence (expressions : View) : Built :=
  return node .sequenceExpression [("expressions", .list (← elements expressions))]

/-- The place of a node; nothing has no place. -/
def placeOf : View → Except Fault (Data × Data)
  | .data .null => .ok (.null, .null)
  | .node _ start stop _ => .ok (start, stop)
  | _ => .error .noParts

/-- Whether a view counts as true; nodes do. -/
def isTruthy : View → Bool
  | .data value => value.isTruthy
  | .list items | .tuple items => !items.isEmpty
  | .node .. => true

/-- A truth value at the place of a node. -/
def boolLiteral (value like : View) : Built := do
  let (start, stop) ← placeOf like
  return nodeAt .literal start stop
    [("value", value), ("raw", textView (if isTruthy value then "true" else "false"))]

/-- A string at the place of a node, without a spelling of its own. -/
def stringLiteral (value like : View) : Built := do
  let (start, stop) ← placeOf like
  return nodeAt .literal start stop [("value", value)]

/-- A piece of a template without escapes. -/
def templateElement (raw tail : View) : View :=
  node .templateElement [("raw", raw), ("cooked", raw), ("tail", tail)]

/-- The statement as a block: itself if it is one, else alone in a block at its place. -/
def toBlock : View → Built
  | .node .blockStatement start stop fields => .ok (.node .blockStatement start stop fields)
  | .node kind start stop fields =>
    .ok (nodeAt .blockStatement start stop [("body", .list [.node kind start stop fields])])
  | _ => .error .noParts

/-- The block that has `statement` before what `block` holds. -/
def prepend (statement : View) : View → Built
  | .data .null => .ok (node .blockStatement [("body", .list [statement])])
  | block => do
    match ← toBlock block with
    | .node kind start stop [(label, .list items)] =>
      return .node kind start stop [(label, .list (statement :: items))]
    | _ => throw .noParts

end Assay.Fragment
