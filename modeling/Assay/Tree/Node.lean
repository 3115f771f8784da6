import Assay.Data.Basic
import Assay.Source.Position
import Assay.Tree.Kind

/-!
# Syntax trees of JavaScript programs

`Node` is the syntax tree that programs are read into and printed from. Each constructor is one
kind of syntax, or a family of kinds that differ only in where they may stand (`function`,
`classNode`), and starts with the span of source it was read from. What may be absent is an
`Option`; the elements of an array are options because an array may have holes.
-/

set_option autoImplicit false

namespace Assay

/-- The categories that a bare node without content may have. -/
inductive Category where
  | node
  | statement
  | declaration
  | expression
  | pattern
  | function
  deriving DecidableEq

/-- The kind of a bare node. -/
def Category.kind : Category → Kind
  | .node => .anyNode
  | .statement => .anyStatement
  | .declaration => .anyDeclaration
  | .expression => .anyExpression
  | .pattern => .anyPattern
  | .function => .anyFunction

/-- Where a function stands. -/
inductive FunctionForm where
  | declaration
  | expression
  | arrow
  deriving DecidableEq

/-- The kind of a function. -/
def FunctionForm.kind : FunctionForm → Kind
  | .declaration => .functionDeclaration
  | .expression => .functionExpression
  | .arrow => .arrowFunctionExpression

/-- Where a class stands. -/
inductive ClassForm where
  | declaration
  | expression
  /-- A class of no particular form. -/
  | bare
  deriving DecidableEq

/-- The kind of a class. -/
def ClassForm.kind : ClassForm → Kind
  | .declaration => .classDeclaration
  | .expression => .classExpression
  | .bare => .anyClass

/-- A piece of a template between two substitutions, as written and as meant. -/
structure Quasi where
  /-- The place in the source. -/
  span : Span
  /-- The text as it is written. -/
  raw : Text
  /-- The text with its escapes resolved. -/
  cooked : Text
  /-- Whether the piece is the last of its template. -/
  tail : Bool

/-- A node of a syntax tree. -/
inductive Node where
  /-- A bare node without content. -/
  | bare (category : Category) (span : Span)
  /-- A whole script. -/
  | program (span : Span) (body : List Node)
  | expressionStatement (span : Span) (expression : Node)
  | blockStatement (span : Span) (body : List Node)
  | staticBlock (span : Span) (body : List Node)
  | emptyStatement (span : Span)
  | debuggerStatement (span : Span)
  | returnStatement (span : Span) (argument : Option Node)
  | throwStatement (span : Span) (argument : Option Node)
  | breakStatement (span : Span) (label : Option Node)
  | continueStatement (span : Span) (label : Option Node)
  | labeledStatement (span : Span) (label body : Node)
  | ifStatement (span : Span) (test consequent : Node) (alternate : Option Node)
  | switchStatement (span : Span) (discriminant : Node) (cases : List Node)
  | switchCase (span : Span) (test : Option Node) (consequent : List Node)
  | whileStatement (span : Span) (test body : Node)
  | doWhileStatement (span : Span) (body test : Node)
  | forStatement (span : Span) (init test update : Option Node) (body : Node)
  | forInStatement (span : Span) (left right body : Node)
  | forOfStatement (span : Span) (left right body : Node) (isAwait : Bool)
  | tryStatement (span : Span) (block : Node) (handler finalizer : Option Node)
  | catchClause (span : Span) (param : Option Node) (body : Node)
  | variableDeclaration (span : Span) (kind : Text) (declarations : List Node)
  | variableDeclarator (span : Span) (id : Node) (init : Option Node)
  | function (form : FunctionForm) (span : Span) (id : Option Node) (params : List Node)
      (body : Node) (isAsync isGenerator isExpression : Bool)
  | classNode (form : ClassForm) (span : Span) (id superClass : Option Node) (body : Node)
  | classBody (span : Span) (body : List Node)
  | methodDefinition (span : Span) (key value : Node) (kind : Text) (computed isStatic : Bool)
  | propertyDefinition (span : Span) (key : Node) (value : Option Node)
      (computed isStatic : Bool)
  | identifier (span : Span) (name : Text)
  | privateIdentifier (span : Span) (name : Text)
  /-- A literal: its value, its spelling if that is to be kept, and for a regular expression its
  pattern and flags. -/
  | literal (span : Span) (value : Data) (raw : Option Text) (regex : Option (Text × Text))
  | templateLiteral (span : Span) (quasis : List Quasi) (expressions : List Node)
  | templateElement (quasi : Quasi)
  | taggedTemplate (span : Span) (tag quasi : Node)
  | thisExpression (span : Span)
  | superReference (span : Span)
  | arrayExpression (span : Span) (elements : List (Option Node))
  | objectExpression (span : Span) (properties : List Node)
  | property (span : Span) (key value : Node) (kind : Text) (computed shorthand method : Bool)
  | spreadElement (span : Span) (argument : Node)
  | unary (span : Span) (operator : Text) (argument : Node)
  /-- `leading` says that the operator stands before its argument. -/
  | update (span : Span) (operator : Text) (leading : Bool) (argument : Node)
  | binary (span : Span) (left : Node) (operator : Text) (right : Node)
  | logical (span : Span) (left : Node) (operator : Text) (right : Node)
  | assignment (span : Span) (left : Node) (operator : Text) (right : Node)
  | conditional (span : Span) (test consequent alternate : Node)
  | call (span : Span) (callee : Node) (arguments : List Node) (optional : Bool)
  | newExpression (span : Span) (callee : Node) (arguments : List Node)
  | member (span : Span) (object property : Node) (computed optional : Bool)
  /-- The top of a chain of members and calls with at least one `?.` in it. -/
  | chain (span : Span) (expression : Node)
  | sequence (span : Span) (expressions : List Node)
  | awaitExpression (span : Span) (argument : Node)
  | yieldExpression (span : Span) (argument : Option Node) (delegate : Bool)
  | metaProperty (span : Span) (head property : Node)
  | objectPattern (span : Span) (properties : List Node)
  | arrayPattern (span : Span) (elements : List (Option Node))
  | assignmentPattern (span : Span) (left right : Node)
  | restElement (span : Span) (argument : Node)

namespace Node

/-- The kind of a node. -/
def kind : Node → Kind
  | .bare category _ => category.kind
  | .program .. => .program
  | .expressionStatement .. => .expressionStatement
  | .blockStatement .. => .blockStatement
  | .staticBlock .. => .staticBlock
  | .emptyStatement .. => .emptyStatement
  | .debuggerStatement .. => .debuggerStatement
  | .returnStatement .. => .returnStatement
  | .throwStatement .. => .throwStatement
  | .breakStatement .. => .breakStatement
  | .continueStatement .. => .continueStatement
  | .labeledStatement .. => .labeledStatement
  | .ifStatement .. => .ifStatement
  | .switchStatement .. => .switchStatement
  | .switchCase .. => .switchCase
  | .whileStatement .. => .whileStatement
  | .doWhileStatement .. => .doWhileStatement
  | .forStatement .. => .forStatement
  | .forInStatement .. => .forInStatement
  | .forOfStatement .. => .forOfStatement
  | .tryStatement .. => .tryStatement
  | .catchClause .. => .catchClause
  | .variableDeclaration .. => .variableDeclaration
  | .variableDeclarator .. => .variableDeclarator
  | .function form .. => form.kind
  | .classNode form .. => form.kind
  | .classBody .. => .classBody
  | .methodDefinition .. => .methodDefinition
  | .propertyDefinition .. => .propertyDefinition
  | .identifier .. => .identifier
  | .privateIdentifier .. => .privateIdentifier
  | .literal .. => .literal
  | .templateLiteral .. => .templateLiteral
  | .templateElement .. => .templateElement
  | .taggedTemplate .. => .taggedTemplateExpression
  | .thisExpression .. => .thisExpression
  | .superReference .. => .superReference
  | .arrayExpression .. => .arrayExpression
  | .objectExpression .. => .objectExpression
  | .property .. => .property
  | .spreadElement .. => .spreadElement
  | .unary .. => .unaryExpression
  | .update .. => .updateExpression
  | .binary .. => .binaryExpression
  | .logical .. => .logicalExpression
  | .assignment .. => .assignmentExpression
  | .conditional .. => .conditionalExpression
  | .call .. => .callExpression
  | .newExpression .. => .newExpression
  | .member .. => .memberExpression
  | .chain .. => .chainExpression
  | .sequence .. => .sequenceExpression
  | .awaitExpression .. => .awaitExpression
  | .yieldExpression .. => .yieldExpression
  | .metaProperty .. => .metaProperty
  | .objectPattern .. => .objectPattern
  | .arrayPattern .. => .arrayPattern
  | .assignmentPattern .. => .assignmentPattern
  | .restElement .. => .restElement

/-- The place of a node in its source. -/
def span : Node → Span
  | .bare _ span | .program span _ | .expressionStatement span _ | .blockStatement span _
  | .staticBlock span _ | .emptyStatement span | .debuggerStatement span
  | .returnStatement span _ | .throwStatement span _ | .breakStatement span _
  | .continueStatement span _ | .labeledStatement span _ _ | .ifStatement span _ _ _
  | .switchStatement span _ _ | .switchCase span _ _ | .whileStatement span _ _
  | .doWhileStatement span _ _ | .forStatement span _ _ _ _ | .forInStatement span _ _ _
  | .forOfStatement span _ _ _ _ | .tryStatement span _ _ _ | .catchClause span _ _
  | .variableDeclaration span _ _ | .variableDeclarator span _ _
  | .function _ span _ _ _ _ _ _ | .classNode _ span _ _ _ | .classBody span _
  | .methodDefinition span _ _ _ _ _ | .propertyDefinition span _ _ _ _ | .identifier span _
  | .privateIdentifier span _ | .literal span _ _ _ | .templateLiteral span _ _
  | .taggedTemplate span _ _ | .thisExpression span | .superReference span
  | .arrayExpression span _ | .objectExpression span _ | .property span _ _ _ _ _ _
  | .spreadElement span _ | .unary span _ _ | .update span _ _ _ | .binary span _ _ _
  | .logical span _ _ _ | .assignment span _ _ _ | .conditional span _ _ _
  | .call span _ _ _ | .newExpression span _ _ | .member span _ _ _ _ | .chain span _
  | .sequence span _ | .awaitExpression span _ | .yieldExpression span _ _
  | .metaProperty span _ _ | .objectPattern span _ | .arrayPattern span _
  | .assignmentPattern span _ _ | .restElement span _ => span
  | .templateElement quasi => quasi.span

/-- The range of a node in the code it was read from. -/
def range (code : Text) (node : Node) : Except RangeError Range :=
  Range.ofSpan code node.kind.name node.span

/-- Whether a node is a statement list between braces. -/
def isBlock : Node → Bool
  | .blockStatement .. => true
  | _ => false

/-- Whether a node declares a variable, a function or a class. -/
def isDeclaration (node : Node) : Bool := node.kind.lineage.contains .anyDeclaration

/-- The literal `null`: a literal without value that is no regular expression. -/
def isNull : Node → Bool
  | .literal _ .null _ none => true
  | _ => false

end Node

end Assay
