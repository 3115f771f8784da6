/-!
# Kinds of syntax nodes

Each node of a syntax tree has a `Kind`. Seven of the kinds are categories, which a bare node may
have too: any node, statement, declaration, expression, pattern, function or class. A kind's
`lineage` is the kind itself and then the categories it belongs to, the closest first. `fields`
lists the names of what a node of the kind holds, in order, each with the content it has unless
another is given.
-/

set_option autoImplicit false

namespace Assay

/-- The kind of a syntax node. -/
inductive Kind where
  | anyNode
  | anyStatement
  | anyDeclaration
  | anyExpression
  | anyPattern
  | anyFunction
  | anyClass
  | program
  | expressionStatement
  | blockStatement
  | staticBlock
  | emptyStatement
  | debuggerStatement
  | returnStatement
  | throwStatement
  | breakStatement
  | continueStatement
  | labeledStatement
  | ifStatement
  | switchStatement
  | switchCase
  | whileStatement
  | doWhileStatement
  | forStatement
  | forInStatement
  | forOfStatement
  | tryStatement
  | catchClause
  | variableDeclaration
  | variableDeclarator
  | functionDeclaration
  | classDeclaration
  | classBody
  | methodDefinition
  | propertyDefinition
  | identifier
  | privateIdentifier
  | literal
  | templateLiteral
  | templateElement
  | taggedTemplateExpression
  | thisExpression
  | superReference
  | arrayExpression
  | objectExpression
  | property
  | spreadElement
  | unaryExpression
  | updateExpression
  | binaryExpression
  | logicalExpression
  | assignmentExpression
  | conditionalExpression
  | callExpression
  | newExpression
  | memberExpression
  | chainExpression
  | sequenceExpression
  | awaitExpression
  | yieldExpression
  | metaProperty
  | functionExpression
  | arrowFunctionExpression
  | classExpression
  | objectPattern
  | arrayPattern
  | assignmentPattern
  | restElement
  deriving DecidableEq

namespace Kind

/-- Every kind. -/
def all : List Kind :=
  [.anyNode, .anyStatement, .anyDeclaration, .anyExpression, .anyPattern, .anyFunction,
   .anyClass, .program, .expressionStatement, .blockStatement, .staticBlock, .emptyStatement,
   .debuggerStatement, .returnStatement, .throwStatement, .breakStatement, .continueStatement,
   .labeledStatement, .ifStatement, .switchStatement, .switchCase, .whileStatement,
   .doWhileStatement, .forStatement, .forInStatement, .forOfStatement, .tryStatement,
   .catchClause, .variableDeclaration, .variableDeclarator, .functionDeclaration,
   .classDeclaration, .classBody, .methodDefinition, .propertyDefinition, .identifier,
   .privateIdentifier, .literal, .templateLiteral, .templateElement, .taggedTemplateExpression,
   .thisExpression, .superReference, .arrayExpression, .objectExpression, .property,
   .spreadElement, .unaryExpression, .updateExpression, .binaryExpression, .logicalExpression,
   .assignmentExpression, .conditionalExpression, .callExpression, .newExpression,
   .memberExpression, .chainExpression, .sequenceExpression, .awaitExpression, .yieldExpression,
   .metaProperty, .functionExpression, .arrowFunctionExpression, .classExpression,
   .objectPattern, .arrayPattern, .assignmentPattern, .restElement]

/-- The name of a kind. -/
def name : Kind → String
  | .anyNode => "Node"
  | .anyStatement => "Statement"
  | .anyDeclaration => "Declaration"
  | .anyExpression => "Expression"
  | .anyPattern => "Pattern"
  | .anyFunction => "Function"
  | .anyClass => "Class"
  | .program => "Program"
  | .expressionStatement => "ExpressionStatement"
  | .blockStatement => "BlockStatement"
  | .staticBlock => "StaticBlock"
  | .emptyStatement => "EmptyStatement"
  | .debuggerStatement => "DebuggerStatement"
  | .returnStatement => "ReturnStatement"
  | .throwStatement => "ThrowStatement"
  | .breakStatement => "BreakStatement"
  | .continueStatement => "ContinueStatement"
  | .labeledStatement => "LabeledStatement"
  | .ifStatement => "IfStatement"
  | .switchStatement => "SwitchStatement"
  | .switchCase => "SwitchCase"
  | .whileStatement => "WhileStatement"
  | .doWhileStatement => "DoWhileStatement"
  | .forStatement => "ForStatement"
  | .forInStatement => "ForInStatement"
  | .forOfStatement => "ForOfStatement"
  | .tryStatement => "TryStatement"
  | .catchClause => "CatchClause"
  | .variableDeclaration => "VariableDeclaration"
  | .variableDeclarator => "VariableDeclarator"
  | .functionDeclaration => "FunctionDeclaration"
  | .classDeclaration => "ClassDeclaration"
  | .classBody => "ClassBody"
  | .methodDefinition => "MethodDefinition"
  | .propertyDefinition => "PropertyDefinition"
  | .identifier => "Identifier"
  | .privateIdentifier => "PrivateIdentifier"
  | .literal => "Literal"
  | .templateLiteral => "TemplateLiteral"
  | .templateElement => "TemplateElement"
  | .taggedTemplateExpression => "TaggedTemplateExpression"
  | .thisExpression => "ThisExpression"
  | .superReference => "Super"
  | .arrayExpression => "ArrayExpression"
  | .objectExpression => "ObjectExpression"
  | .property => "Property"
  | .spreadElement => "SpreadElement"
  | .unaryExpression => "UnaryExpression"
  | .updateExpression => "UpdateExpression"
  | .binaryExpression => "BinaryExpression"
  | .logicalExpression => "LogicalExpression"
  | .assignmentExpression => "AssignmentExpression"
  | .conditionalExpression => "ConditionalExpression"
  | .callExpression => "CallExpression"
  | .newExpression => "NewExpression"
  | .memberExpression => "MemberExpression"
  | .chainExpression => "ChainExpression"
  | .sequenceExpression => "SequenceExpression"
  | .awaitExpression => "AwaitExpression"
  | .yieldExpression => "YieldExpression"
  | .metaProperty => "MetaProperty"
  | .functionExpression => "FunctionExpression"
  | .arrowFunctionExpression => "ArrowFunctionExpression"
  | .classExpression => "ClassExpression"
  | .objectPattern => "ObjectPattern"
  | .arrayPattern => "ArrayPattern"
  | .assignmentPattern => "AssignmentPattern"
  | .restElement => "RestElement"

/-- The kind of a name. -/
def ofName? (name : String) : Option Kind := all.find? (·.name == name)

/-- The categories that a kind belongs to, from the closest to the widest. -/
def categories : Kind → List Kind
  | .anyNode => []
  | .anyDeclaration => [.anyStatement, .anyNode]
  | .expressionStatement | .blockStatement | .emptyStatement | .debuggerStatement |
    .returnStatement | .throwStatement | .breakStatement | .continueStatement |
    .labeledStatement | .ifStatement | .switchStatement | .whileStatement | .doWhileStatement |
    .forStatement | .forInStatement | .forOfStatement | .tryStatement =>
    [.anyStatement, .anyNode]
  | .variableDeclaration =>
    [.anyDeclaration, .anyStatement, .anyNode]
  | .literal | .templateLiteral | .taggedTemplateExpression | .thisExpression |
    .arrayExpression | .objectExpression | .unaryExpression | .updateExpression |
    .binaryExpression | .logicalExpression | .assignmentExpression | .conditionalExpression |
    .callExpression | .newExpression | .chainExpression | .sequenceExpression |
    .awaitExpression | .yieldExpression | .metaProperty =>
    [.anyExpression, .anyNode]
  | .objectPattern | .arrayPattern | .assignmentPattern | .restElement =>
    [.anyPattern, .anyNode]
  | .identifier | .memberExpression =>
    [.anyExpression, .anyPattern, .anyNode]
  | .functionDeclaration =>
    [.anyFunction, .anyDeclaration, .anyStatement, .anyNode]
  | .classDeclaration =>
    [.anyClass, .anyDeclaration, .anyStatement, .anyNode]
  | .functionExpression | .arrowFunctionExpression =>
    [.anyFunction, .anyExpression, .anyNode]
  | .classExpression =>
    [.anyClass, .anyExpression, .anyNode]
  | _ => [.anyNode]

/-- The kind itself and then its categories. -/
def lineage (kind : Kind) : List Kind := kind :: kind.categories

/-- The name that every kind goes by in the end. -/
def commonName : String := "object"

/-- The names that a kind goes by, the closest first. -/
def names (kind : Kind) : List String := kind.lineage.map name ++ [commonName]

/-- What a field holds unless another content is given. -/
inductive Default where
  /-- Nothing. -/
  | null
  /-- The truth value `false`. -/
  | no
  /-- An empty list. -/
  | emptyList
  /-- A text. -/
  | text (value : String)

/-- The fields of a function. -/
def functionFields : List (String × Default) :=
  [("id", .null), ("params", .emptyList), ("body", .null), ("is_async", .no),
   ("generator", .no), ("expression", .no)]

/-- The fields of a class. -/
def classFields : List (String × Default) :=
  [("id", .null), ("super_class", .null), ("body", .null)]

/-- The names of a kind's fields and what they hold by default. -/
def fields : Kind → List (String × Default)
  | .anyNode | .anyStatement | .anyDeclaration | .anyExpression | .anyPattern => []
  | .anyFunction | .functionDeclaration | .functionExpression | .arrowFunctionExpression =>
    functionFields
  | .anyClass | .classDeclaration | .classExpression => classFields
  | .emptyStatement | .debuggerStatement | .thisExpression | .superReference => []
  | .program | .blockStatement | .staticBlock | .classBody => [("body", .emptyList)]
  | .expressionStatement | .chainExpression => [("expression", .null)]
  | .returnStatement | .throwStatement | .spreadElement | .awaitExpression | .restElement =>
    [("argument", .null)]
  | .breakStatement | .continueStatement => [("label", .null)]
  | .labeledStatement => [("label", .null), ("body", .null)]
  | .ifStatement | .conditionalExpression =>
    [("test", .null), ("consequent", .null), ("alternate", .null)]
  | .switchStatement => [("discriminant", .null), ("cases", .emptyList)]
  | .switchCase => [("test", .null), ("consequent", .emptyList)]
  | .whileStatement => [("test", .null), ("body", .null)]
  | .doWhileStatement => [("body", .null), ("test", .null)]
  | .forStatement => [("init", .null), ("test", .null), ("update", .null), ("body", .null)]
  | .forInStatement => [("left", .null), ("right", .null), ("body", .null)]
  | .forOfStatement => [("left", .null), ("right", .null), ("body", .null), ("is_await", .no)]
  | .tryStatement => [("block", .null), ("handler", .null), ("finalizer", .null)]
  | .catchClause => [("param", .null), ("body", .null)]
  | .variableDeclaration => [("kind", .text "var"), ("declarations", .emptyList)]
  | .variableDeclarator => [("id", .null), ("init", .null)]
  | .methodDefinition =>
    [("key", .null), ("value", .null), ("kind", .text "method"), ("computed", .no),
     ("static", .no)]
  | .propertyDefinition =>
    [("key", .null), ("value", .null), ("computed", .no), ("static", .no)]
  | .identifier | .privateIdentifier => [("name", .null)]
  | .literal => [("value", .null), ("raw", .null), ("regex", .null)]
  | .templateLiteral => [("quasis", .emptyList), ("expressions", .emptyList)]
  | .templateElement => [("raw", .text ""), ("cooked", .text ""), ("tail", .no)]
  | .taggedTemplateExpression => [("tag", .null), ("quasi", .null)]
  | .arrayExpression | .arrayPattern => [("elements", .emptyList)]
  | .objectExpression | .objectPattern => [("properties", .emptyList)]
  | .property =>
    [("key", .null), ("value", .null), ("kind", .text "init"), ("computed", .no),
     ("shorthand", .no), ("method", .no)]
  | .unaryExpression => [("operator", .null), ("argument", .null)]
  | .updateExpression => [("operator", .null), ("prefix", .no), ("argument", .null)]
  | .binaryExpression | .logicalExpression =>
    [("left", .null), ("operator", .null), ("right", .null)]
  | .assignmentExpression => [("left", .null), ("operator", .text "="), ("right", .null)]
  | .callExpression => [("callee", .null), ("arguments", .emptyList), ("optional", .no)]
  | .newExpression => [("callee", .null), ("arguments", .emptyList)]
  | .memberExpression =>
    [("object", .null), ("property", .null), ("computed", .no), ("optional", .no)]
  | .sequenceExpression => [("expressions", .emptyList)]
  | .yieldExpression => [("argument", .null), ("delegate", .no)]
  | .metaProperty => [("meta", .null), ("property", .null)]
  | .assignmentPattern => [("left", .null), ("right", .null)]

end Kind

end Assay
