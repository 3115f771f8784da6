import Assay.Tree.Build

/-!
# Instrumentation

`Node.instrument` puts calls into a program that record which functions, statements and branches
are reached. Each call has an id, and ids are given in the order of the walk, in each of the three
spaces from zero on. The walk leaves a list of `Target`s, one for each call, in the order in which
the ids were given; the id of a target is the number of earlier targets in its space.

- Functions: every function, as the first thing in its body.
- Statements: every statement of a block, of a static block and of a case, other than declarations
  and `if`; the initial value of a declarator; the default of a pattern; the body of a function
  that is an expression.
- Branches: both arms of an `if` and of a conditional, each case of a `switch`, and each operand of
  a logical expression that is none itself.
-/

set_option autoImplicit false

namespace Assay

/-- A place of a program whose execution is recorded. -/
structure Target where
  /-- What is counted there. -/
  space : Space
  /-- The kind of the node. -/
  kind : Kind
  /-- The place. -/
  span : Span

/-- A step of the walk, which adds to the targets so far. -/
abbrev Tracking (α : Type) := StateM (List Target) α

namespace Instrument

/-- Adds a target and gives it the next id of its space. -/
def assign (space : Space) (kind : Kind) (span : Span) : Tracking Nat := fun targets =>
  ((targets.filter (·.space = space)).length, targets ++ [⟨space, kind, span⟩])

variable (handle : Text)

/-- A new target, as the statement that records it. -/
def markStatement (space : Space) (kind : Kind) (span : Span) : Tracking Node := do
  return Build.trackingStatement handle space (← assign space kind span)

/-- A new target, as the call that records it. -/
def markCall (space : Space) (kind : Kind) (span : Span) : Tracking Node := do
  return Build.trackingCall handle space (← assign space kind span)

/-- Whether a statement of a block is recorded; an `if` is recorded by its branches. -/
def isMarked (statement : Node) : Bool :=
  !(statement.isDeclaration || statement.kind = .ifStatement)

/-- A statement of a block, with its mark in front; `walk` is the walk over the statement. -/
def statement (node : Node) (walk : Tracking Node) : Tracking (List Node) := do
  if isMarked node then
    let mark ← markStatement handle .stmt node.kind node.span
    return [mark, ← walk]
  else return [← walk]

/-- An expression behind the call that records it. -/
def tracked (space : Space) (node : Node) (walk : Tracking Node) : Tracking Node := do
  let mark ← markCall handle space node.kind node.span
  return Build.sequence [mark, ← walk]

/-- An operand of a logical expression; one that is logical itself has marks of its own. -/
def operand (node : Node) (walk : Tracking Node) : Tracking Node :=
  if node.kind = .logicalExpression then walk else tracked handle .branch node walk

/-- A statement as a block: one that is no block becomes the only statement of a new one. -/
def asBlock (node : Node) (walk : Tracking Node) : Tracking Node :=
  if node.isBlock then walk
  else return .blockStatement node.span (← statement handle node walk)

/-- An arm of an `if`: a block that starts with the mark of its branch. -/
def arm (node : Node) (walk : Tracking Node) : Tracking Node := do
  let mark ← markStatement handle .branch node.kind node.span
  return Build.prepend mark (some (← asBlock handle node walk))

/-- The arm of an `if` without `else`: its place is the gap behind the other arm. -/
def missingArm (consequent whole : Span) : Tracking Node := do
  let mark ← markStatement handle .branch .ifStatement ⟨consequent.stop, whole.stop⟩
  return Build.prepend mark none

/-- The body of a function, from the walk over it, once the function has its id. -/
def functionBody (span : Span) (form : FunctionForm) (body : Node) (walk : Tracking Node) :
    Tracking Node := do
  let id ← assign .func form.kind span
  if body.isBlock then
    return Build.prepend (Build.trackingStatement handle .func id) (some (← walk))
  else
    let mark ← markCall handle .stmt body.kind body.span
    return Build.sequence [Build.trackingCall handle .func id, mark, ← walk]

mutual

/-- The walk over a tree. -/
def walk : Node → Tracking Node
  | .function form span id params body isAsync isGenerator isExpression => do
    let params ← walkList params
    let body ← functionBody handle span form body (walk body)
    return .function form span id params body isAsync isGenerator isExpression
  | .variableDeclaration span kind declarations => do
    return .variableDeclaration span kind (← walkDeclarators declarations)
  | .assignmentPattern span left right => do
    let left ← walk left
    return .assignmentPattern span left (← tracked handle .stmt right (walk right))
  | .blockStatement span body => do return .blockStatement span (← walkStatements body)
  | .staticBlock span body => do return .staticBlock span (← walkStatements body)
  | .switchStatement span discriminant cases => do
    let discriminant ← walk discriminant
    return .switchStatement span discriminant (← walkCases cases)
  | .ifStatement span test consequent none => do
    let test ← walk test
    let first ← arm handle consequent (walk consequent)
    return .ifStatement span test first (some (← missingArm handle consequent.span span))
  | .ifStatement span test consequent (some alternate) => do
    let test ← walk test
    let first ← arm handle consequent (walk consequent)
    let second ← arm handle alternate (walk alternate)
    return .ifStatement span test first (some second)
  | .conditional span test consequent alternate => do
    let test ← walk test
    let first ← tracked handle .branch consequent (walk consequent)
    let second ← tracked handle .branch alternate (walk alternate)
    return .conditional span test first second
  | .logical span left operator right => do
    let left ← operand handle left (walk left)
    let right ← operand handle right (walk right)
    return .logical span left operator right
  | .labeledStatement span label body => do return .labeledStatement span label (← walk body)
  | .whileStatement span test body => do
    let test ← walk test
    return .whileStatement span test (← asBlock handle body (walk body))
  | .doWhileStatement span body test => do
    let body ← asBlock handle body (walk body)
    return .doWhileStatement span body (← walk test)
  | .forStatement span init test update body => do
    let init ← walkOptional init
    let test ← walkOptional test
    let update ← walkOptional update
    return .forStatement span init test update (← asBlock handle body (walk body))
  | .forInStatement span left right body => do
    let left ← walk left
    let right ← walk right
    return .forInStatement span left right (← asBlock handle body (walk body))
  | .forOfStatement span left right body isAwait => do
    let left ← walk left
    let right ← walk right
    return .forOfStatement span left right (← asBlock handle body (walk body)) isAwait
  | .program span body => do return .program span (← walkList body)
  | .expressionStatement span expression => do
    return .expressionStatement span (← walk expression)
  | .returnStatement span argument => do return .returnStatement span (← walkOptional argument)
  | .throwStatement span argument => do return .throwStatement span (← walkOptional argument)
  | .breakStatement span label => do return .breakStatement span (← walkOptional label)
  | .continueStatement span label => do return .continueStatement span (← walkOptional label)
  | .switchCase span test consequent => do
    let test ← walkOptional test
    return .switchCase span test (← walkList consequent)
  | .tryStatement span block handler finalizer => do
    let block ← walk block
    let handler ← walkOptional handler
    return .tryStatement span block handler (← walkOptional finalizer)
  | .catchClause span param body => do
    let param ← walkOptional param
    return .catchClause span param (← walk body)
  | .variableDeclarator span id init => do
    let id ← walk id
    return .variableDeclarator span id (← walkOptional init)
  | .classNode form span id superClass body => do
    let id ← walkOptional id
    let superClass ← walkOptional superClass
    return .classNode form span id superClass (← walk body)
  | .classBody span body => do return .classBody span (← walkList body)
  | .methodDefinition span key value kind computed isStatic => do
    let key ← walk key
    return .methodDefinition span key (← walk value) kind computed isStatic
  | .propertyDefinition span key value computed isStatic => do
    let key ← walk key
    return .propertyDefinition span key (← walkOptional value) computed isStatic
  | .templateLiteral span quasis expressions => do
    return .templateLiteral span quasis (← walkList expressions)
  | .taggedTemplate span tag quasi => do
    let tag ← walk tag
    return .taggedTemplate span tag (← walk quasi)
  | .arrayExpression span elements => do return .arrayExpression span (← walkHoles elements)
  | .objectExpression span properties => do return .objectExpression span (← walkList properties)
  | .property span key value kind computed shorthand method => do
    let key ← walk key
    return .property span key (← walk value) kind computed shorthand method
  | .spreadElement span argument => do return .spreadElement span (← walk argument)
  | .unary span operator argument => do return .unary span operator (← walk argument)
  | .update span operator leading argument => do
    return .update span operator leading (← walk argument)
  | .binary span left operator right => do
    let left ← walk left
    return .binary span left operator (← walk right)
  | .assignment span left operator right => do
    let left ← walk left
    return .assignment span left operator (← walk right)
  | .call span callee arguments optional => do
    let callee ← walk callee
    return .call span callee (← walkList arguments) optional
  | .newExpression span callee arguments => do
    let callee ← walk callee
    return .newExpression span callee (← walkList arguments)
  | .member span object property computed optional => do
    let object ← walk object
    return .member span object (← walk property) computed optional
  | .chain span expression => do return .chain span (← walk expression)
  | .sequence span expressions => do return .sequence span (← walkList expressions)
  | .awaitExpression span argument => do return .awaitExpression span (← walk argument)
  | .yieldExpression span argument delegate => do
    return .yieldExpression span (← walkOptional argument) delegate
  | .metaProperty span head property => do
    let head ← walk head
    return .metaProperty span head (← walk property)
  | .objectPattern span properties => do return .objectPattern span (← walkList properties)
  | .arrayPattern span elements => do return .arrayPattern span (← walkHoles elements)
  | .restElement span argument => do return .restElement span (← walk argument)
  | .bare category span => return .bare category span
  | .emptyStatement span => return .emptyStatement span
  | .debuggerStatement span => return .debuggerStatement span
  | .identifier span name => return .identifier span name
  | .privateIdentifier span name => return .privateIdentifier span name
  | .literal span value raw regex => return .literal span value raw regex
  | .templateElement quasi => return .templateElement quasi
  | .thisExpression span => return .thisExpression span
  | .superReference span => return .superReference span

/-- The walk over a part that may be absent. -/
def walkOptional : Option Node → Tracking (Option Node)
  | none => return none
  | some node => return some (← walk node)

/-- The walk over a list. -/
def walkList : List Node → Tracking (List Node)
  | [] => return []
  | node :: rest => do
    let first ← walk node
    return first :: (← walkList rest)

/-- The walk over a list with holes. -/
def walkHoles : List (Option Node) → Tracking (List (Option Node))
  | [] => return []
  | node :: rest => do
    let first ← walkOptional node
    return first :: (← walkHoles rest)

/-- The walk over the statements of a block, with their marks. -/
def walkStatements : List Node → Tracking (List Node)
  | [] => return []
  | node :: rest => do
    let first ← statement handle node (walk node)
    return first ++ (← walkStatements rest)

/-- The walk over the declarators of a declaration: an initial value is recorded under the place of
its declarator. -/
def walkDeclarators : List Node → Tracking (List Node)
  | [] => return []
  | .variableDeclarator span id none :: rest => do
    let id ← walk id
    return .variableDeclarator span id none :: (← walkDeclarators rest)
  | .variableDeclarator span id (some init) :: rest => do
    let id ← walk id
    let mark ← markCall handle .stmt .variableDeclarator span
    let init ← walk init
    return .variableDeclarator span id (some (Build.sequence [mark, init])) ::
      (← walkDeclarators rest)
  | node :: rest => do
    let first ← walk node
    return first :: (← walkDeclarators rest)

/-- The walk over the cases of a `switch`, each with the mark of its branch. -/
def walkCases : List Node → Tracking (List Node)
  | [] => return []
  | .switchCase span test consequent :: rest => do
    let mark ← markStatement handle .branch .switchCase span
    let test ← walkOptional test
    let body ← walkStatements consequent
    return .switchCase span test (mark :: body) :: (← walkCases rest)
  | node :: rest => do
    let first ← walk node
    return first :: (← walkCases rest)

end

end Instrument

/-- The instrumented tree and its targets in the order of their ids. -/
def Node.instrument (handle : Text) (program : Node) : Node × List Target :=
  (Instrument.walk handle program).run []

end Assay
