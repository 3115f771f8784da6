import Assay.Tree.Node

/-!
# The generic view of a syntax tree

A `View` shows a tree as nodes with named fields, whatever their kinds, and a field may hold
anything. `View.make` builds a node from given fields and fills in the defaults of its kind, and
`View.ofNode` views a syntax tree.
-/

set_option autoImplicit false

namespace Assay

/-- A node with named fields, or what a field of one may hold. -/
inductive View where
  /-- Plain data. -/
  | data (value : Data)
  /-- Parts that belong together, such as the pattern and the flags of a regular expression. -/
  | tuple (items : List View)
  /-- A list. -/
  | list (items : List View)
  /-- A node, with the offsets between which it stands. -/
  | node (kind : Kind) (start stop : Data) (fields : List (String × View))

namespace View

/-- A truth value as a view. -/
def flag (value : Bool) : View := .data (.bool value)

/-- A spelling that may be absent, as a view. -/
def spelling : Option Text → View
  | some raw => .data (.text raw)
  | none => .data .null

/-- The parts of a regular expression, as a view. -/
def regex : Option (Text × Text) → View
  | some (pattern, flags) => .tuple [.data (.text pattern), .data (.text flags)]
  | none => .data .null

/-- An offset that may be unknown, as data. -/
def offset : Option Int → Data
  | some index => .int index
  | none => .null

/-- What a field holds by default. -/
def ofDefault : Kind.Default → View
  | .null => .data .null
  | .no => .flag false
  | .emptyList => .list []
  | .text value => .data (.text value)

/-- Why there is no node with the given fields. -/
inductive Misfit where
  /-- A field is given under the name by which a node refers to itself. -/
  | reserved
  /-- Names that are no fields of the kind, in order. -/
  | unexpected (kind : Kind) (names : List Text)

/-- The words for names that are no fields of a kind. -/
def Misfit.message? : Misfit → Option Text
  | .reserved => none
  | .unexpected kind names =>
    some (kind.name ++ " got unexpected fields: " ++ Text.join ", " names)

/-- The name by which a node refers to itself. -/
def ownName : String := "self"

/-- A node of the given kind. Each field holds what is given for it, or its default; it is an error
to give what is no field of the kind. -/
def make (kind : Kind) (start stop : Data) (given : List (Text × View)) : Except Misfit View :=
  let known := kind.fields
  let unknown := given.filter fun (name, _) => !known.any (Text.ofString ·.1 == name)
  if given.any (·.1 == Text.ofString ownName) then .error .reserved
  else if unknown.isEmpty then
    .ok (.node kind start stop (known.map fun (name, fallback) =>
      (name, ((given.find? (·.1 == Text.ofString name)).map (·.2)).getD (ofDefault fallback))))
  else .error (.unexpected kind (Text.sort (unknown.map (·.1))))

/-- A node of the given kind at a span. -/
def located (kind : Kind) (span : Span) (fields : List (String × View)) : View :=
  .node kind (offset span.start) (offset span.stop) fields

/-! ## Views of syntax trees -/

/-- A piece of a template as a view. -/
def ofQuasi (quasi : Quasi) : View :=
  .located .templateElement quasi.span
    [("raw", .data (.text quasi.raw)), ("cooked", .data (.text quasi.cooked)),
     ("tail", .flag quasi.tail)]

mutual

/-- The view of a syntax tree. -/
def ofNode : Node → View
  | .bare category span => .located category.kind span []
  | .function form span id params body isAsync isGenerator isExpression =>
    .located form.kind span
      [("id", ofOptional id), ("params", .list (ofList params)), ("body", ofNode body),
       ("is_async", .flag isAsync), ("generator", .flag isGenerator),
       ("expression", .flag isExpression)]
  | .classNode form span id superClass body =>
    .located form.kind span
      [("id", ofOptional id), ("super_class", ofOptional superClass), ("body", ofNode body)]
  | .templateElement quasi => ofQuasi quasi
  | .program span body => .located .program span [("body", .list (ofList body))]
  | .expressionStatement span expression =>
    .located .expressionStatement span
      [("expression", ofNode expression)]
  | .blockStatement span body => .located .blockStatement span [("body", .list (ofList body))]
  | .staticBlock span body => .located .staticBlock span [("body", .list (ofList body))]
  | .emptyStatement span => .located .emptyStatement span []
  | .debuggerStatement span => .located .debuggerStatement span []
  | .returnStatement span argument =>
    .located .returnStatement span
      [("argument", ofOptional argument)]
  | .throwStatement span argument =>
    .located .throwStatement span
      [("argument", ofOptional argument)]
  | .breakStatement span label => .located .breakStatement span [("label", ofOptional label)]
  | .continueStatement span label => .located .continueStatement span [("label", ofOptional label)]
  | .labeledStatement span label body =>
    .located .labeledStatement span
      [("label", ofNode label), ("body", ofNode body)]
  | .ifStatement span test consequent alternate =>
    .located .ifStatement span
      [("test", ofNode test), ("consequent", ofNode consequent),
       ("alternate", ofOptional alternate)]
  | .switchStatement span discriminant cases =>
    .located .switchStatement span
      [("discriminant", ofNode discriminant), ("cases", .list (ofList cases))]
  | .switchCase span test consequent =>
    .located .switchCase span
      [("test", ofOptional test), ("consequent", .list (ofList consequent))]
  | .whileStatement span test body =>
    .located .whileStatement span
      [("test", ofNode test), ("body", ofNode body)]
  | .doWhileStatement span body test =>
    .located .doWhileStatement span
      [("body", ofNode body), ("test", ofNode test)]
  | .forStatement span init test update body =>
    .located .forStatement span
      [("init", ofOptional init), ("test", ofOptional test), ("update", ofOptional update),
       ("body", ofNode body)]
  | .forInStatement span left right body =>
    .located .forInStatement span
      [("left", ofNode left), ("right", ofNode right), ("body", ofNode body)]
  | .forOfStatement span left right body isAwait =>
    .located .forOfStatement span
      [("left", ofNode left), ("right", ofNode right), ("body", ofNode body),
       ("is_await", .flag isAwait)]
  | .tryStatement span block handler finalizer =>
    .located .tryStatement span
      [("block", ofNode block), ("handler", ofOptional handler),
       ("finalizer", ofOptional finalizer)]
  | .catchClause span param body =>
    .located .catchClause span
      [("param", ofOptional param), ("body", ofNode body)]
  | .variableDeclaration span kind declarations =>
    .located .variableDeclaration span
      [("kind", .data (.text kind)), ("declarations", .list (ofList declarations))]
  | .variableDeclarator span id init =>
    .located .variableDeclarator span
      [("id", ofNode id), ("init", ofOptional init)]
  | .classBody span body => .located .classBody span [("body", .list (ofList body))]
  | .methodDefinition span key value kind computed isStatic =>
    .located .methodDefinition span
      [("key", ofNode key), ("value", ofNode value), ("kind", .data (.text kind)),
       ("computed", .flag computed), ("static", .flag isStatic)]
  | .propertyDefinition span key value computed isStatic =>
    .located .propertyDefinition span
      [("key", ofNode key), ("value", ofOptional value), ("computed", .flag computed),
       ("static", .flag isStatic)]
  | .identifier span name => .located .identifier span [("name", .data (.text name))]
  | .privateIdentifier span name => .located .privateIdentifier span [("name", .data (.text name))]
  | .literal span value raw regex =>
    .located .literal span
      [("value", .data value), ("raw", .spelling raw), ("regex", .regex regex)]
  | .templateLiteral span quasis expressions =>
    .located .templateLiteral span
      [("quasis", .list (quasis.map .ofQuasi)), ("expressions", .list (ofList expressions))]
  | .taggedTemplate span tag quasi =>
    .located .taggedTemplateExpression span
      [("tag", ofNode tag), ("quasi", ofNode quasi)]
  | .thisExpression span => .located .thisExpression span []
  | .superReference span => .located .superReference span []
  | .arrayExpression span elements =>
    .located .arrayExpression span
      [("elements", .list (ofHoles elements))]
  | .objectExpression span properties =>
    .located .objectExpression span
      [("properties", .list (ofList properties))]
  | .property span key value kind computed shorthand method =>
    .located .property span
      [("key", ofNode key), ("value", ofNode value), ("kind", .data (.text kind)),
       ("computed", .flag computed), ("shorthand", .flag shorthand), ("method", .flag method)]
  | .spreadElement span argument => .located .spreadElement span [("argument", ofNode argument)]
  | .unary span operator argument =>
    .located .unaryExpression span
      [("operator", .data (.text operator)), ("argument", ofNode argument)]
  | .update span operator leading argument =>
    .located .updateExpression span
      [("operator", .data (.text operator)), ("prefix", .flag leading),
       ("argument", ofNode argument)]
  | .binary span left operator right =>
    .located .binaryExpression span
      [("left", ofNode left), ("operator", .data (.text operator)), ("right", ofNode right)]
  | .logical span left operator right =>
    .located .logicalExpression span
      [("left", ofNode left), ("operator", .data (.text operator)), ("right", ofNode right)]
  | .assignment span left operator right =>
    .located .assignmentExpression span
      [("left", ofNode left), ("operator", .data (.text operator)), ("right", ofNode right)]
  | .conditional span test consequent alternate =>
    .located .conditionalExpression span
      [("test", ofNode test), ("consequent", ofNode consequent), ("alternate", ofNode alternate)]
  | .call span callee arguments optional =>
    .located .callExpression span
      [("callee", ofNode callee), ("arguments", .list (ofList arguments)),
       ("optional", .flag optional)]
  | .newExpression span callee arguments =>
    .located .newExpression span
      [("callee", ofNode callee), ("arguments", .list (ofList arguments))]
  | .member span object property computed optional =>
    .located .memberExpression span
      [("object", ofNode object), ("property", ofNode property), ("computed", .flag computed),
       ("optional", .flag optional)]
  | .chain span expression => .located .chainExpression span [("expression", ofNode expression)]
  | .sequence span expressions =>
    .located .sequenceExpression span
      [("expressions", .list (ofList expressions))]
  | .awaitExpression span argument => .located .awaitExpression span [("argument", ofNode argument)]
  | .yieldExpression span argument delegate =>
    .located .yieldExpression span
      [("argument", ofOptional argument), ("delegate", .flag delegate)]
  | .metaProperty span head property =>
    .located .metaProperty span
      [("meta", ofNode head), ("property", ofNode property)]
  | .objectPattern span properties =>
    .located .objectPattern span
      [("properties", .list (ofList properties))]
  | .arrayPattern span elements =>
    .located .arrayPattern span
      [("elements", .list (ofHoles elements))]
  | .assignmentPattern span left right =>
    .located .assignmentPattern span
      [("left", ofNode left), ("right", ofNode right)]
  | .restElement span argument => .located .restElement span [("argument", ofNode argument)]

/-- The view of what may be absent. -/
def ofOptional : Option Node → View
  | none => .data .null
  | some tree => ofNode tree

/-- The views of several trees. -/
def ofList : List Node → List View
  | [] => []
  | tree :: rest => ofNode tree :: ofList rest

/-- The views of trees of which some may be absent. -/
def ofHoles : List (Option Node) → List View
  | [] => []
  | none :: rest => .data .null :: ofHoles rest
  | some tree :: rest => ofNode tree :: ofHoles rest

end

end View

end Assay
