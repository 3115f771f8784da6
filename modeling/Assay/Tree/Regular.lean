import Assay.Tree.View

/-!
# Regular views

A view is regular if each field holds what its kind asks for, and then `View.node?` reads it as the
syntax tree it shows. The tree is read from the leaves up: a `Slot` is what a field holds once the
nodes in it have been read, and `Slots.assemble` puts the slots of one node together.
-/

set_option autoImplicit false

namespace Assay

namespace View

/-- What a field holds once the nodes in it have been read. -/
inductive Slot where
  /-- Plain data. -/
  | data (value : Data)
  /-- Parts that belong together. -/
  | tuple (items : List Slot)
  /-- A list. -/
  | list (items : List Slot)
  /-- A syntax tree. -/
  | node (tree : Node)
  /-- A node whose fields do not hold what its kind asks for. -/
  | irregular

/-- The content of the fields of a node. -/
abbrev Slots := List (String × Slot)

namespace Slot

/-- A tree. -/
def node? : Slot → Option Node
  | .node tree => some tree
  | _ => none

/-- A tree, or nothing. -/
def optional? : Slot → Option (Option Node)
  | .data .null => some none
  | .node tree => some (some tree)
  | _ => none

/-- A piece of a template. -/
def quasi? : Slot → Option Quasi
  | .node (.templateElement quasi) => some quasi
  | _ => none

/-- A list of what `read` reads. -/
def listOf? {α : Type} (read : Slot → Option α) : Slot → Option (List α)
  | .list items => items.mapM read
  | _ => none

/-- A text. -/
def text? : Slot → Option Text
  | .data (.text value) => some value
  | _ => none

mutual

/-- Plain data; a list of plain data is such too. -/
def data? : Slot → Option Data
  | .data value => some value
  | .list items => (dataList? items).map .list
  | _ => none

/-- The items of a list as plain data. -/
def dataList? : List Slot → Option (List Data)
  | [] => some []
  | item :: rest =>
    match item.data?, dataList? rest with
    | some value, some values => some (value :: values)
    | _, _ => none

end

/-- A spelling that may be absent. -/
def spelling? : Slot → Option (Option Text)
  | .data .null => some none
  | .data (.text value) => some (some value)
  | _ => none

/-- The parts of a regular expression, if there are any. -/
def regex? : Slot → Option (Option (Text × Text))
  | .data .null => some none
  | .tuple [.data (.text pattern), .data (.text flags)] => some (some (pattern, flags))
  | _ => none

end Slot

namespace Slots

/-- What the named field holds, read by `read`. -/
def get? {α : Type} (read : Slot → Option α) (fields : Slots) (name : String) : Option α :=
  (fields.find? (·.1 == name)).bind fun field => read field.2

/-- A tree. -/
def node? (fields : Slots) : String → Option Node := fields.get? Slot.node?

/-- A tree, or nothing. -/
def optional? (fields : Slots) : String → Option (Option Node) := fields.get? Slot.optional?

/-- Trees. -/
def nodes? (fields : Slots) : String → Option (List Node) := fields.get? (Slot.listOf? Slot.node?)

/-- Trees of which some may be absent. -/
def holes? (fields : Slots) : String → Option (List (Option Node)) :=
  fields.get? (Slot.listOf? Slot.optional?)

/-- Pieces of a template. -/
def quasis? (fields : Slots) : String → Option (List Quasi) :=
  fields.get? (Slot.listOf? Slot.quasi?)

/-- A text. -/
def text? (fields : Slots) : String → Option Text := fields.get? Slot.text?

/-- Plain data. -/
def data? (fields : Slots) : String → Option Data := fields.get? Slot.data?

/-- A truth value. -/
def flag? (fields : Slots) (name : String) : Option Bool := (fields.data? name).map Data.isTruthy

/-- A spelling that may be absent. -/
def spelling? (fields : Slots) : String → Option (Option Text) := fields.get? Slot.spelling?

/-- The parts of a regular expression, if there are any. -/
def regex? (fields : Slots) : String → Option (Option (Text × Text)) := fields.get? Slot.regex?

/-- A function of the given form. -/
def function? (fields : Slots) (form : FunctionForm) (span : Span) : Option Node := do
  return .function form span (← fields.optional? "id") (← fields.nodes? "params")
    (← fields.node? "body") (← fields.flag? "is_async") (← fields.flag? "generator")
    (← fields.flag? "expression")

/-- A class of the given form. -/
def class? (fields : Slots) (form : ClassForm) (span : Span) : Option Node := do
  return .classNode form span (← fields.optional? "id") (← fields.optional? "super_class")
    (← fields.node? "body")

/-- The tree of a kind with the given fields, if they hold what the kind asks for. A bare function
that has fields is a view only. -/
def assemble (fields : Slots) (span : Span) : Kind → Option Node
  | .anyNode => some (.bare .node span)
  | .anyStatement => some (.bare .statement span)
  | .anyDeclaration => some (.bare .declaration span)
  | .anyExpression => some (.bare .expression span)
  | .anyPattern => some (.bare .pattern span)
  | .anyFunction => if fields.isEmpty then some (.bare .function span) else none
  | .functionDeclaration => fields.function? .declaration span
  | .functionExpression => fields.function? .expression span
  | .arrowFunctionExpression => fields.function? .arrow span
  | .anyClass => fields.class? .bare span
  | .classDeclaration => fields.class? .declaration span
  | .classExpression => fields.class? .expression span
  | .templateElement => do
    return .templateElement
      ⟨span, ← fields.text? "raw", ← fields.text? "cooked", ← fields.flag? "tail"⟩
  | .program => do return .program span (← fields.nodes? "body")
  | .expressionStatement => do return .expressionStatement span (← fields.node? "expression")
  | .blockStatement => do return .blockStatement span (← fields.nodes? "body")
  | .staticBlock => do return .staticBlock span (← fields.nodes? "body")
  | .emptyStatement => some (.emptyStatement span)
  | .debuggerStatement => some (.debuggerStatement span)
  | .returnStatement => do return .returnStatement span (← fields.optional? "argument")
  | .throwStatement => do return .throwStatement span (← fields.optional? "argument")
  | .breakStatement => do return .breakStatement span (← fields.optional? "label")
  | .continueStatement => do return .continueStatement span (← fields.optional? "label")
  | .labeledStatement => do
    return .labeledStatement span (← fields.node? "label") (← fields.node? "body")
  | .ifStatement => do
    return .ifStatement span (← fields.node? "test") (← fields.node? "consequent")
      (← fields.optional? "alternate")
  | .switchStatement => do
    return .switchStatement span (← fields.node? "discriminant") (← fields.nodes? "cases")
  | .switchCase => do
    return .switchCase span (← fields.optional? "test") (← fields.nodes? "consequent")
  | .whileStatement => do
    return .whileStatement span (← fields.node? "test") (← fields.node? "body")
  | .doWhileStatement => do
    return .doWhileStatement span (← fields.node? "body") (← fields.node? "test")
  | .forStatement => do
    return .forStatement span (← fields.optional? "init") (← fields.optional? "test")
      (← fields.optional? "update") (← fields.node? "body")
  | .forInStatement => do
    return .forInStatement span (← fields.node? "left") (← fields.node? "right")
      (← fields.node? "body")
  | .forOfStatement => do
    return .forOfStatement span (← fields.node? "left") (← fields.node? "right")
      (← fields.node? "body") (← fields.flag? "is_await")
  | .tryStatement => do
    return .tryStatement span (← fields.node? "block") (← fields.optional? "handler")
      (← fields.optional? "finalizer")
  | .catchClause => do
    return .catchClause span (← fields.optional? "param") (← fields.node? "body")
  | .variableDeclaration => do
    return .variableDeclaration span (← fields.text? "kind") (← fields.nodes? "declarations")
  | .variableDeclarator => do
    return .variableDeclarator span (← fields.node? "id") (← fields.optional? "init")
  | .classBody => do return .classBody span (← fields.nodes? "body")
  | .methodDefinition => do
    return .methodDefinition span (← fields.node? "key") (← fields.node? "value")
      (← fields.text? "kind") (← fields.flag? "computed") (← fields.flag? "static")
  | .propertyDefinition => do
    return .propertyDefinition span (← fields.node? "key") (← fields.optional? "value")
      (← fields.flag? "computed") (← fields.flag? "static")
  | .identifier => do return .identifier span (← fields.text? "name")
  | .privateIdentifier => do return .privateIdentifier span (← fields.text? "name")
  | .literal => do
    return .literal span (← fields.data? "value") (← fields.spelling? "raw")
      (← fields.regex? "regex")
  | .templateLiteral => do
    return .templateLiteral span (← fields.quasis? "quasis") (← fields.nodes? "expressions")
  | .taggedTemplateExpression => do
    return .taggedTemplate span (← fields.node? "tag") (← fields.node? "quasi")
  | .thisExpression => some (.thisExpression span)
  | .superReference => some (.superReference span)
  | .arrayExpression => do return .arrayExpression span (← fields.holes? "elements")
  | .objectExpression => do return .objectExpression span (← fields.nodes? "properties")
  | .property => do
    return .property span (← fields.node? "key") (← fields.node? "value") (← fields.text? "kind")
      (← fields.flag? "computed") (← fields.flag? "shorthand") (← fields.flag? "method")
  | .spreadElement => do return .spreadElement span (← fields.node? "argument")
  | .unaryExpression => do
    return .unary span (← fields.text? "operator") (← fields.node? "argument")
  | .updateExpression => do
    return .update span (← fields.text? "operator") (← fields.flag? "prefix")
      (← fields.node? "argument")
  | .binaryExpression => do
    return .binary span (← fields.node? "left") (← fields.text? "operator") (← fields.node? "right")
  | .logicalExpression => do
    return .logical span (← fields.node? "left") (← fields.text? "operator")
      (← fields.node? "right")
  | .assignmentExpression => do
    return .assignment span (← fields.node? "left") (← fields.text? "operator")
      (← fields.node? "right")
  | .conditionalExpression => do
    return .conditional span (← fields.node? "test") (← fields.node? "consequent")
      (← fields.node? "alternate")
  | .callExpression => do
    return .call span (← fields.node? "callee") (← fields.nodes? "arguments")
      (← fields.flag? "optional")
  | .newExpression => do
    return .newExpression span (← fields.node? "callee") (← fields.nodes? "arguments")
  | .memberExpression => do
    return .member span (← fields.node? "object") (← fields.node? "property")
      (← fields.flag? "computed") (← fields.flag? "optional")
  | .chainExpression => do return .chain span (← fields.node? "expression")
  | .sequenceExpression => do return .sequence span (← fields.nodes? "expressions")
  | .awaitExpression => do return .awaitExpression span (← fields.node? "argument")
  | .yieldExpression => do
    return .yieldExpression span (← fields.optional? "argument") (← fields.flag? "delegate")
  | .metaProperty => do
    return .metaProperty span (← fields.node? "meta") (← fields.node? "property")
  | .objectPattern => do return .objectPattern span (← fields.nodes? "properties")
  | .arrayPattern => do return .arrayPattern span (← fields.holes? "elements")
  | .assignmentPattern => do
    return .assignmentPattern span (← fields.node? "left") (← fields.node? "right")
  | .restElement => do return .restElement span (← fields.node? "argument")

end Slots

/-- An offset that may be unknown. -/
def offset? : Data → Option (Option Int)
  | .null => some none
  | .int index => some (some index)
  | _ => none

mutual

/-- A view with the nodes in it read. -/
def slot : View → Slot
  | .data value => .data value
  | .tuple items => .tuple (slotList items)
  | .list items => .list (slotList items)
  | .node kind start stop fields =>
    match offset? start, offset? stop with
    | some first, some last =>
      match (slotFields fields).assemble ⟨first, last⟩ kind with
      | some tree => .node tree
      | none => .irregular
    | _, _ => .irregular

/-- The items of a list, read. -/
def slotList : List View → List Slot
  | [] => []
  | item :: rest => item.slot :: slotList rest

/-- The fields of a node, read. -/
def slotFields : List (String × View) → Slots
  | [] => []
  | (name, value) :: rest => (name, value.slot) :: slotFields rest

end

/-- The syntax tree that a view shows, if each field holds what its kind asks for. -/
def node? (view : View) : Option Node := view.slot.node?

end View

end Assay
