import Assay.Config
import Assay.Mutation.Sites
import Assay.Tree.Build

/-!
# Where a program is altered

`Mutate.walk` finds every alteration of a tree, in the order of the text: first those of a node
itself, then those of its parts. Names that are keys are not altered, and of an assertion only the
arguments are. `Rules` are the choices that a walk can be given: what it does with binary
expressions, and whether the plain keys of a kind are passed over.
-/

set_option autoImplicit false

namespace Assay

/-- What a walk does with a binary expression. -/
inductive BinaryRule where
  /-- It exchanges the operator and goes on to the operands. -/
  | swap
  /-- It reports the expression as it is and goes no further. -/
  | keep
  /-- It puts the operator in place for good and goes no further. -/
  | settle (operator : Text)

/-- The choices of a walk. -/
structure Rules where
  /-- The name of the function whose calls are assertions. -/
  assertion : Text
  /-- The value that stands in for an empty string. -/
  sentinel : Data
  /-- What happens to binary expressions. -/
  binary : BinaryRule := .swap
  /-- The kinds whose plain keys are walked over like values. -/
  openKeys : List Kind := []

namespace Mutate

/-- The value that an emptied string gets: a string that is empty already gets the sentinel. -/
def blankFor (rules : Rules) (text : Text) : Data :=
  if text.isEmpty then rules.sentinel else .text []

/-- A variant that is reported as a whole. -/
def whole (kind : MutationKind) (node : Node) : Altered Node := ⟨kind, node, node⟩

/-- The variants with each of the operators, rebuilt by `build`. -/
def swapped (kind : MutationKind) (operators : List Text) (build : Text → Node) :
    List (Altered Node) :=
  operators.map fun operator => whole kind (build operator)

/-- Whether a test is the literal with the given truth value. -/
def isLiteral (value : Bool) : Option Node → Bool
  | some (.literal _ (.bool v) _ _) => v == value
  | _ => false

/-- The variants with a forced test, rebuilt by `build`; a test that is absent counts as true, and
a literal test is not forced to its own value. -/
def forced (span : Span) (test : Option Node) (build : Node → Node) : List (Altered Node) :=
  let values := match test with
    | none => [false]
    | some _ => [true, false]
  let place := match test with
    | none => span
    | some test => test.span
  (values.filter fun value => !isLiteral value test).map fun value =>
    let literal := Build.boolLiteral value place
    ⟨.conditional, literal, build literal⟩

/-- The variant of a collection without its items, if it has any. -/
def emptied {α : Type} (kind : MutationKind) (items : List α) (empty : Node) :
    List (Altered Node) :=
  if items.isEmpty then [] else [whole kind empty]

/-- A chain of members and calls with every link made a plain one. -/
def plainChain : Node → Node
  | .member span object property computed _ =>
    .member span (plainChain object) property computed false
  | .call span callee arguments _ => .call span (plainChain callee) arguments false
  | node => node

/-- Whether a call is an assertion. -/
def isAssertion (rules : Rules) : Node → Bool
  | .identifier _ name => name == rules.assertion
  | _ => false

/-- The variants of a literal. -/
def literalVariants (rules : Rules) (span : Span) (value : Data) (raw : Option Text)
    (regex : Option (Text × Text)) : List (Altered Node) :=
  match value, regex with
  | .bool v, _ => [whole .booleanLiteral (.literal span (.bool !v) raw regex)]
  | .text t, none => [whole .stringLiteral (Build.stringLiteral (blankFor rules t) span)]
  | _, _ => []

/-- The variants of a template: its first piece is emptied. What is no text is no piece. -/
def templateVariants (rules : Rules) (span : Span) (quasis : List Quasi)
    (expressions : List Node) : List (Altered Node) :=
  match quasis with
  | [] => []
  | first :: rest =>
    match blankFor rules first.raw with
    | .text blank =>
      [whole .stringLiteral
        (.templateLiteral span (Build.quasi blank first.tail :: rest) expressions)]
    | _ => []

/-- The variants of a node itself. -/
def own (rules : Rules) : Node → List (Altered Node)
  | .binary span left operator right =>
    match rules.binary with
    | .keep => [whole .arithmetic (.binary span left operator right)]
    | .settle _ => []
    | .swap =>
      match MutationKind.ofBinary? operator with
      | some kind =>
        swapped kind (kind.swaps operator (left.isNull || right.isNull))
          fun operator => .binary span left operator right
      | none => []
  | .logical span left operator right =>
    swapped .logical (MutationKind.swaps .logical operator false)
      fun operator => .logical span left operator right
  | .assignment span left operator right =>
    swapped .assignment (MutationKind.swaps .assignment operator false)
      fun operator => .assignment span left operator right
  | .unary span operator argument =>
    swapped .unary (MutationKind.swaps .unary operator false)
      fun operator => .unary span operator argument
  | .update span operator leading argument =>
    swapped .update (MutationKind.swaps .update operator false)
      (fun operator => .update span operator leading argument)
      ++ [whole .update (.update span operator (!leading) argument)]
  | .literal span value raw regex => literalVariants rules span value raw regex
  | .templateLiteral span quasis expressions => templateVariants rules span quasis expressions
  | .arrayExpression span elements =>
    emptied .collectionLiteral elements (.arrayExpression span [])
  | .objectExpression span properties =>
    emptied .collectionLiteral properties (.objectExpression span [])
  | .call span callee arguments optional =>
    if isAssertion rules callee then []
    else emptied .collectionLiteral arguments (.call span callee [] optional)
  | .newExpression span callee arguments =>
    emptied .collectionLiteral arguments (.newExpression span callee [])
  | .blockStatement span body => emptied .blockStatement body (.blockStatement span [])
  | .ifStatement span test consequent alternate =>
    forced span (some test) fun test => .ifStatement span test consequent alternate
  | .whileStatement span test body =>
    forced span (some test) fun test => .whileStatement span test body
  | .doWhileStatement span body test =>
    forced span (some test) fun test => .doWhileStatement span body test
  | .forStatement span init test update body =>
    forced span test fun test => .forStatement span init (some test) update body
  | .chain span expression => [whole .optionalChaining (.chain span (plainChain expression))]
  | _ => []

/-- The key of a property, which is walked over if it is computed or if its kind has open keys. -/
def key (rules : Rules) (kind : Kind) (computed : Bool) (node : Node) (walk : Sites Node) :
    Sites Node :=
  if computed || rules.openKeys.contains kind then walk else .fixed node

variable (rules : Rules)

mutual

/-- A tree with all its variants. -/
def walk (node : Node) : Sites Node :=
  Sites.withOwn (own rules node) <| match node with
  | .binary span left operator right =>
    match rules.binary with
    | .swap => Node.binary span <$> walk left <*> pure operator <*> walk right
    | .keep => .fixed (.binary span left operator right)
    | .settle other =>
      ⟨.binary span left operator right, [], .binary span left other right⟩
  | .program span body => Node.program span <$> walkList body
  | .expressionStatement span expression => Node.expressionStatement span <$> walk expression
  | .blockStatement span body => Node.blockStatement span <$> walkList body
  | .staticBlock span body => Node.staticBlock span <$> walkList body
  | .returnStatement span argument => Node.returnStatement span <$> walkOptional argument
  | .throwStatement span argument => Node.throwStatement span <$> walkOptional argument
  | .breakStatement span label => Node.breakStatement span <$> walkOptional label
  | .continueStatement span label => Node.continueStatement span <$> walkOptional label
  | .labeledStatement span label body => Node.labeledStatement span <$> walk label <*> walk body
  | .ifStatement span test consequent alternate =>
    Node.ifStatement span <$> walk test <*> walk consequent <*> walkOptional alternate
  | .switchStatement span discriminant cases =>
    Node.switchStatement span <$> walk discriminant <*> walkList cases
  | .switchCase span test consequent =>
    Node.switchCase span <$> walkOptional test <*> walkList consequent
  | .whileStatement span test body => Node.whileStatement span <$> walk test <*> walk body
  | .doWhileStatement span body test => Node.doWhileStatement span <$> walk body <*> walk test
  | .forStatement span init test update body =>
    Node.forStatement span <$> walkOptional init <*> walkOptional test <*> walkOptional update
      <*> walk body
  | .forInStatement span left right body =>
    Node.forInStatement span <$> walk left <*> walk right <*> walk body
  | .forOfStatement span left right body isAwait =>
    Node.forOfStatement span <$> walk left <*> walk right <*> walk body <*> pure isAwait
  | .tryStatement span block handler finalizer =>
    Node.tryStatement span <$> walk block <*> walkOptional handler <*> walkOptional finalizer
  | .catchClause span param body =>
    Node.catchClause span <$> walkOptional param <*> walk body
  | .variableDeclaration span kind declarations =>
    Node.variableDeclaration span kind <$> walkList declarations
  | .variableDeclarator span id init =>
    Node.variableDeclarator span <$> walk id <*> walkOptional init
  | .function form span id params body isAsync isGenerator isExpression =>
    Node.function form span <$> walkOptional id <*> walkList params <*> walk body
      <*> pure isAsync <*> pure isGenerator <*> pure isExpression
  | .classNode form span id superClass body =>
    Node.classNode form span <$> walkOptional id <*> walkOptional superClass <*> walk body
  | .classBody span body => Node.classBody span <$> walkList body
  | .methodDefinition span name value kind computed isStatic =>
    Node.methodDefinition span <$> key rules .methodDefinition computed name (walk name)
      <*> walk value <*> pure kind <*> pure computed <*> pure isStatic
  | .propertyDefinition span name value computed isStatic =>
    Node.propertyDefinition span <$> key rules .propertyDefinition computed name (walk name)
      <*> walkOptional value <*> pure computed <*> pure isStatic
  | .templateLiteral span quasis expressions =>
    Node.templateLiteral span quasis <$> walkList expressions
  | .taggedTemplate span tag quasi => Node.taggedTemplate span <$> walk tag <*> walk quasi
  | .arrayExpression span elements => Node.arrayExpression span <$> walkHoles elements
  | .objectExpression span properties => Node.objectExpression span <$> walkList properties
  | .property span name value kind computed shorthand method =>
    Node.property span <$> key rules .property computed name (walk name) <*> walk value
      <*> pure kind <*> pure computed <*> pure shorthand <*> pure method
  | .spreadElement span argument => Node.spreadElement span <$> walk argument
  | .unary span operator argument => Node.unary span operator <$> walk argument
  | .update span operator leading argument =>
    Node.update span operator leading <$> walk argument
  | .logical span left operator right =>
    Node.logical span <$> walk left <*> pure operator <*> walk right
  | .assignment span left operator right =>
    Node.assignment span <$> walk left <*> pure operator <*> walk right
  | .conditional span test consequent alternate =>
    Node.conditional span <$> walk test <*> walk consequent <*> walk alternate
  | .call span callee arguments optional =>
    if isAssertion rules callee then
      Node.call span callee <$> walkList arguments <*> pure optional
    else Node.call span <$> walk callee <*> walkList arguments <*> pure optional
  | .newExpression span callee arguments =>
    Node.newExpression span <$> walk callee <*> walkList arguments
  | .member span object property computed optional =>
    Node.member span <$> walk object <*> walk property <*> pure computed <*> pure optional
  | .chain span expression => Node.chain span <$> walk expression
  | .sequence span expressions => Node.sequence span <$> walkList expressions
  | .awaitExpression span argument => Node.awaitExpression span <$> walk argument
  | .yieldExpression span argument delegate =>
    Node.yieldExpression span <$> walkOptional argument <*> pure delegate
  | .metaProperty span head property => Node.metaProperty span <$> walk head <*> walk property
  | .objectPattern span properties => Node.objectPattern span <$> walkList properties
  | .arrayPattern span elements => Node.arrayPattern span <$> walkHoles elements
  | .assignmentPattern span left right =>
    Node.assignmentPattern span <$> walk left <*> walk right
  | .restElement span argument => Node.restElement span <$> walk argument
  | .bare category span => .fixed (.bare category span)
  | .emptyStatement span => .fixed (.emptyStatement span)
  | .debuggerStatement span => .fixed (.debuggerStatement span)
  | .identifier span name => .fixed (.identifier span name)
  | .privateIdentifier span name => .fixed (.privateIdentifier span name)
  | .literal span value raw regex => .fixed (.literal span value raw regex)
  | .templateElement quasi => .fixed (.templateElement quasi)
  | .thisExpression span => .fixed (.thisExpression span)
  | .superReference span => .fixed (.superReference span)

/-- A part that may be absent, with its variants. -/
def walkOptional : Option Node → Sites (Option Node)
  | none => .fixed none
  | some node => some <$> walk node

/-- A list with its variants. -/
def walkList : List Node → Sites (List Node)
  | [] => .fixed []
  | node :: rest => List.cons <$> walk node <*> walkList rest

/-- A list with holes, with its variants. -/
def walkHoles : List (Option Node) → Sites (List (Option Node))
  | [] => .fixed []
  | node :: rest => List.cons <$> walkOptional node <*> walkHoles rest

end

end Mutate

end Assay
