import Assay.Proofs.Tree.Every

/-!
# Trees that differ in one part

`Node.Replaced x y` relates a node that has `x` for a part to the same node with `y` in its place.
The places are those that an alteration can reach: a key is one only if it is computed, and the
name of a function is none.
-/

set_option autoImplicit false

namespace Assay

variable {x y node other : Node}

/-- The second list is the first one with `y` at one place of `x`. -/
inductive ReplacedIn {α : Type} (x y : α) : List α → List α → Prop
  | head {rest : List α} : ReplacedIn x y (x :: rest) (y :: rest)
  | tail {first : α} {xs ys : List α} : ReplacedIn x y xs ys →
      ReplacedIn x y (first :: xs) (first :: ys)

/-- The second node is the first one with `y` in place of the part `x`. -/
inductive Node.Replaced (x y : Node) : Node → Node → Prop
  | program {span xs ys} : ReplacedIn x y xs ys → Replaced x y (.program span xs) (.program span ys)
  | expressionStatement {span} :
      Replaced x y (.expressionStatement span x) (.expressionStatement span y)
  | blockStatement {span xs ys} : ReplacedIn x y xs ys →
      Replaced x y (.blockStatement span xs) (.blockStatement span ys)
  | staticBlock {span xs ys} : ReplacedIn x y xs ys →
      Replaced x y (.staticBlock span xs) (.staticBlock span ys)
  | returnArgument {span} :
      Replaced x y (.returnStatement span (some x)) (.returnStatement span (some y))
  | throwArgument {span} :
      Replaced x y (.throwStatement span (some x)) (.throwStatement span (some y))
  | breakLabel {span} : Replaced x y (.breakStatement span (some x)) (.breakStatement span (some y))
  | continueLabel {span} :
      Replaced x y (.continueStatement span (some x)) (.continueStatement span (some y))
  | label {span body} : Replaced x y (.labeledStatement span x body) (.labeledStatement span y body)
  | labeledBody {span label} :
      Replaced x y (.labeledStatement span label x) (.labeledStatement span label y)
  | ifTest {span consequent alternate} :
      Replaced x y (.ifStatement span x consequent alternate)
        (.ifStatement span y consequent alternate)
  | ifConsequent {span test alternate} :
      Replaced x y (.ifStatement span test x alternate) (.ifStatement span test y alternate)
  | ifAlternate {span test consequent} :
      Replaced x y (.ifStatement span test consequent (some x))
        (.ifStatement span test consequent (some y))
  | switchDiscriminant {span parts} :
      Replaced x y (.switchStatement span x parts) (.switchStatement span y parts)
  | switchCases {span discriminant xs ys} : ReplacedIn x y xs ys →
      Replaced x y (.switchStatement span discriminant xs) (.switchStatement span discriminant ys)
  | caseTest {span body} :
      Replaced x y (.switchCase span (some x) body) (.switchCase span (some y) body)
  | caseBody {span test xs ys} : ReplacedIn x y xs ys →
      Replaced x y (.switchCase span test xs) (.switchCase span test ys)
  | whileTest {span body} : Replaced x y (.whileStatement span x body) (.whileStatement span y body)
  | whileBody {span test} : Replaced x y (.whileStatement span test x) (.whileStatement span test y)
  | doBody {span test} :
      Replaced x y (.doWhileStatement span x test) (.doWhileStatement span y test)
  | doTest {span body} :
      Replaced x y (.doWhileStatement span body x) (.doWhileStatement span body y)
  | forInit {span test step body} :
      Replaced x y (.forStatement span (some x) test step body)
        (.forStatement span (some y) test step body)
  | forTest {span init step body} :
      Replaced x y (.forStatement span init (some x) step body)
        (.forStatement span init (some y) step body)
  | forStep {span init test body} :
      Replaced x y (.forStatement span init test (some x) body)
        (.forStatement span init test (some y) body)
  | forBody {span init test step} :
      Replaced x y (.forStatement span init test step x) (.forStatement span init test step y)
  | forInLeft {span right body} :
      Replaced x y (.forInStatement span x right body) (.forInStatement span y right body)
  | forInRight {span left body} :
      Replaced x y (.forInStatement span left x body) (.forInStatement span left y body)
  | forInBody {span left right} :
      Replaced x y (.forInStatement span left right x) (.forInStatement span left right y)
  | forOfLeft {span right body isAwait} :
      Replaced x y (.forOfStatement span x right body isAwait)
        (.forOfStatement span y right body isAwait)
  | forOfRight {span left body isAwait} :
      Replaced x y (.forOfStatement span left x body isAwait)
        (.forOfStatement span left y body isAwait)
  | forOfBody {span left right isAwait} :
      Replaced x y (.forOfStatement span left right x isAwait)
        (.forOfStatement span left right y isAwait)
  | tryBlock {span handler finalizer} :
      Replaced x y (.tryStatement span x handler finalizer)
        (.tryStatement span y handler finalizer)
  | tryHandler {span block finalizer} :
      Replaced x y (.tryStatement span block (some x) finalizer)
        (.tryStatement span block (some y) finalizer)
  | tryFinalizer {span block handler} :
      Replaced x y (.tryStatement span block handler (some x))
        (.tryStatement span block handler (some y))
  | catchParam {span body} :
      Replaced x y (.catchClause span (some x) body) (.catchClause span (some y) body)
  | catchBody {span param} : Replaced x y (.catchClause span param x) (.catchClause span param y)
  | declarations {span kind xs ys} : ReplacedIn x y xs ys →
      Replaced x y (.variableDeclaration span kind xs) (.variableDeclaration span kind ys)
  | declaratorName {span init} :
      Replaced x y (.variableDeclarator span x init) (.variableDeclarator span y init)
  | declaratorValue {span name} :
      Replaced x y (.variableDeclarator span name (some x)) (.variableDeclarator span name (some y))
  | functionParams {form span id body isAsync isGenerator isExpression xs ys} :
      ReplacedIn x y xs ys →
      Replaced x y (.function form span id xs body isAsync isGenerator isExpression)
        (.function form span id ys body isAsync isGenerator isExpression)
  | functionBody {form span id params isAsync isGenerator isExpression} :
      Replaced x y (.function form span id params x isAsync isGenerator isExpression)
        (.function form span id params y isAsync isGenerator isExpression)
  | className {form span superClass body} :
      Replaced x y (.classNode form span (some x) superClass body)
        (.classNode form span (some y) superClass body)
  | classSuper {form span id body} :
      Replaced x y (.classNode form span id (some x) body) (.classNode form span id (some y) body)
  | classBody {form span id superClass} :
      Replaced x y (.classNode form span id superClass x) (.classNode form span id superClass y)
  | classMembers {span xs ys} : ReplacedIn x y xs ys →
      Replaced x y (.classBody span xs) (.classBody span ys)
  | methodKey {span value kind isStatic} :
      Replaced x y (.methodDefinition span x value kind true isStatic)
        (.methodDefinition span y value kind true isStatic)
  | methodValue {span key kind computed isStatic} :
      Replaced x y (.methodDefinition span key x kind computed isStatic)
        (.methodDefinition span key y kind computed isStatic)
  | fieldKey {span value isStatic} :
      Replaced x y (.propertyDefinition span x value true isStatic)
        (.propertyDefinition span y value true isStatic)
  | fieldValue {span key computed isStatic} :
      Replaced x y (.propertyDefinition span key (some x) computed isStatic)
        (.propertyDefinition span key (some y) computed isStatic)
  | templateParts {span quasis xs ys} : ReplacedIn x y xs ys →
      Replaced x y (.templateLiteral span quasis xs) (.templateLiteral span quasis ys)
  | templateTag {span quasi} :
      Replaced x y (.taggedTemplate span x quasi) (.taggedTemplate span y quasi)
  | taggedQuasi {span tag} :
      Replaced x y (.taggedTemplate span tag x) (.taggedTemplate span tag y)
  | arrayElements {span xs ys} : ReplacedIn (some x) (some y) xs ys →
      Replaced x y (.arrayExpression span xs) (.arrayExpression span ys)
  | objectProperties {span xs ys} : ReplacedIn x y xs ys →
      Replaced x y (.objectExpression span xs) (.objectExpression span ys)
  | propertyKey {span value kind shorthand method} :
      Replaced x y (.property span x value kind true shorthand method)
        (.property span y value kind true shorthand method)
  | propertyValue {span key kind computed shorthand method} :
      Replaced x y (.property span key x kind computed shorthand method)
        (.property span key y kind computed shorthand method)
  | spreadArgument {span} : Replaced x y (.spreadElement span x) (.spreadElement span y)
  | unaryArgument {span operator} : Replaced x y (.unary span operator x) (.unary span operator y)
  | updateArgument {span operator leading} :
      Replaced x y (.update span operator leading x) (.update span operator leading y)
  | binaryLeft {span operator right} :
      Replaced x y (.binary span x operator right) (.binary span y operator right)
  | binaryRight {span left operator} :
      Replaced x y (.binary span left operator x) (.binary span left operator y)
  | logicalLeft {span operator right} :
      Replaced x y (.logical span x operator right) (.logical span y operator right)
  | logicalRight {span left operator} :
      Replaced x y (.logical span left operator x) (.logical span left operator y)
  | assignmentLeft {span operator right} :
      Replaced x y (.assignment span x operator right) (.assignment span y operator right)
  | assignmentRight {span left operator} :
      Replaced x y (.assignment span left operator x) (.assignment span left operator y)
  | conditionalTest {span consequent alternate} :
      Replaced x y (.conditional span x consequent alternate)
        (.conditional span y consequent alternate)
  | conditionalConsequent {span test alternate} :
      Replaced x y (.conditional span test x alternate) (.conditional span test y alternate)
  | conditionalAlternate {span test consequent} :
      Replaced x y (.conditional span test consequent x) (.conditional span test consequent y)
  | callCallee {span arguments optional} :
      Replaced x y (.call span x arguments optional) (.call span y arguments optional)
  | callArguments {span callee optional xs ys} : ReplacedIn x y xs ys →
      Replaced x y (.call span callee xs optional) (.call span callee ys optional)
  | newCallee {span arguments} :
      Replaced x y (.newExpression span x arguments) (.newExpression span y arguments)
  | newArguments {span callee xs ys} : ReplacedIn x y xs ys →
      Replaced x y (.newExpression span callee xs) (.newExpression span callee ys)
  | memberObject {span property computed optional} :
      Replaced x y (.member span x property computed optional)
        (.member span y property computed optional)
  | memberProperty {span object computed optional} :
      Replaced x y (.member span object x computed optional)
        (.member span object y computed optional)
  | chain {span} : Replaced x y (.chain span x) (.chain span y)
  | sequence {span xs ys} : ReplacedIn x y xs ys →
      Replaced x y (.sequence span xs) (.sequence span ys)
  | awaitArgument {span} : Replaced x y (.awaitExpression span x) (.awaitExpression span y)
  | yieldArgument {span delegate} :
      Replaced x y (.yieldExpression span (some x) delegate)
        (.yieldExpression span (some y) delegate)
  | metaHead {span property} :
      Replaced x y (.metaProperty span x property) (.metaProperty span y property)
  | metaProperty {span head} : Replaced x y (.metaProperty span head x) (.metaProperty span head y)
  | patternProperties {span xs ys} : ReplacedIn x y xs ys →
      Replaced x y (.objectPattern span xs) (.objectPattern span ys)
  | patternElements {span xs ys} : ReplacedIn (some x) (some y) xs ys →
      Replaced x y (.arrayPattern span xs) (.arrayPattern span ys)
  | patternLeft {span right} :
      Replaced x y (.assignmentPattern span x right) (.assignmentPattern span y right)
  | patternRight {span left} :
      Replaced x y (.assignmentPattern span left x) (.assignmentPattern span left y)
  | restArgument {span} : Replaced x y (.restElement span x) (.restElement span y)

/-- Only the replaced item is new. -/
theorem ReplacedIn.mem {α : Type} {x y : α} {xs ys : List α} (h : ReplacedIn x y xs ys) :
    ∀ z ∈ ys, z ∈ xs ∨ z = y := by
  induction h with
  | head => grind
  | tail _ ih => grind

/-- No item is lost. -/
theorem ReplacedIn.length_eq {α : Type} {x y : α} {xs ys : List α} (h : ReplacedIn x y xs ys) :
    ys.length = xs.length := by
  induction h with
  | head => rfl
  | tail _ ih => exact congrArg Nat.succ ih

/-- The replaced item was there, -/
theorem ReplacedIn.mem_left {α : Type} {x y : α} {xs ys : List α} (h : ReplacedIn x y xs ys) :
    x ∈ xs := by
  induction h with
  | head => exact List.mem_cons_self
  | tail _ ih => exact List.mem_cons_of_mem _ ih

/-- and what replaces it is. -/
theorem ReplacedIn.mem_right {α : Type} {x y : α} {xs ys : List α} (h : ReplacedIn x y xs ys) :
    y ∈ ys := by
  induction h with
  | head => exact List.mem_cons_self
  | tail _ ih => exact List.mem_cons_of_mem _ ih

/-- The parts of the second node are those of the first, and what was put in place. -/
theorem Node.Replaced.mem_parts (h : Node.Replaced x y node other) :
    ∀ part ∈ other.parts, part ∈ node.parts ∨ part = y := by
  cases h <;> simp only [Node.parts, Node.looseParts, Node.placedParts] <;>
    grind [ReplacedIn.mem]

/-- What is replaced in a node is one of its parts. -/
theorem Node.Replaced.mem_left (h : Node.Replaced x y node other) : x ∈ node.parts := by
  cases h
  case arrayElements hIn | patternElements hIn =>
    exact List.mem_append_left _ (List.mem_flatMap.2 ⟨some x, hIn.mem_left, by simp⟩)
  all_goals
    simp only [Node.parts, Node.looseParts, Node.placedParts]
    grind [ReplacedIn.mem_left]

/-- The node keeps its kind. -/
theorem Node.Replaced.kind_eq (h : Node.Replaced x y node other) : other.kind = node.kind := by
  cases h <;> rfl

end Assay
