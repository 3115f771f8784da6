import Assay.Tree.Node
import Mathlib.Data.List.Basic

/-!
# Properties of every node of a tree

Most parts of a node may be of many kinds: these are its loose parts. The others stand in a place
that is made for one kind of node, such as the cases of a `switch`, and nodes of those kinds stand
nowhere else in a program; a node that may be a loose part is `isFree`. `Node.Every` says that all
nodes of a tree have a property.
-/

set_option autoImplicit false

namespace Assay

namespace Node

/-- The parts of a node that may be of many kinds. -/
def looseParts : Node → List Node
  | .program _ body | .blockStatement _ body | .staticBlock _ body | .sequence _ body
  | .templateLiteral _ _ body => body
  | .expressionStatement _ part | .spreadElement _ part | .unary _ _ part | .update _ _ _ part
  | .chain _ part | .awaitExpression _ part | .restElement _ part => [part]
  | .returnStatement _ part | .throwStatement _ part | .breakStatement _ part
  | .continueStatement _ part | .yieldExpression _ part _ => part.toList
  | .labeledStatement _ first second | .whileStatement _ first second
  | .doWhileStatement _ first second | .taggedTemplate _ first second
  | .binary _ first _ second | .logical _ first _ second | .assignment _ first _ second
  | .member _ first second _ _ | .metaProperty _ first second | .assignmentPattern _ first second
  | .property _ first second _ _ _ _ | .methodDefinition _ first second _ _ _ => [first, second]
  | .forInStatement _ first second third | .forOfStatement _ first second third _
  | .conditional _ first second third => [first, second, third]
  | .ifStatement _ test consequent alternate => test :: consequent :: alternate.toList
  | .switchStatement _ discriminant _ => [discriminant]
  | .switchCase _ test consequent => test.toList ++ consequent
  | .forStatement _ init test step body =>
    init.toList ++ test.toList ++ step.toList ++ [body]
  | .tryStatement _ block _ finalizer => block :: finalizer.toList
  | .catchClause _ param body => param.toList ++ [body]
  | .variableDeclarator _ name value | .propertyDefinition _ name value _ _ =>
    name :: value.toList
  | .function _ _ id params body _ _ _ => id.toList ++ params ++ [body]
  | .classNode _ _ id superClass _ => id.toList ++ superClass.toList
  | .call _ callee arguments _ | .newExpression _ callee arguments => callee :: arguments
  | .arrayExpression _ elements | .arrayPattern _ elements => elements.flatMap Option.toList
  | _ => []

/-- The parts of a node that stand in a place that is made for their kind. -/
def placedParts : Node → List Node
  | .switchStatement _ _ parts | .variableDeclaration _ _ parts | .classBody _ parts
  | .objectExpression _ parts | .objectPattern _ parts => parts
  | .tryStatement _ _ handler _ => handler.toList
  | .classNode _ _ _ _ body => [body]
  | _ => []

/-- The kinds that the places of a node are made for. -/
def placedKinds : Node → List Kind
  | .switchStatement .. => [.switchCase]
  | .variableDeclaration .. => [.variableDeclarator]
  | .tryStatement .. => [.catchClause]
  | .classNode .. => [.classBody]
  | .classBody .. => [.methodDefinition, .propertyDefinition, .staticBlock]
  | .objectExpression .. | .objectPattern .. => [.property]
  | _ => []

/-- The parts of a node. -/
def parts (node : Node) : List Node := node.looseParts ++ node.placedParts

/-- Whether a node may be a loose part of another one. -/
def isFree : Node → Bool
  | .bare .. | .program .. | .staticBlock .. | .switchCase .. | .catchClause ..
  | .variableDeclarator .. | .classBody .. | .methodDefinition .. | .propertyDefinition ..
  | .templateElement .. | .property .. => false
  | _ => true

attribute [local simp] looseParts placedParts placedKinds parts isFree

/-- The parts of a node are smaller than the node. -/
theorem sizeOf_lt_of_mem_parts {node part : Node} (h : part ∈ node.parts) :
    sizeOf part < sizeOf node := by
  have hList (nodes : List Node) (hMem : part ∈ nodes) : sizeOf part < sizeOf nodes :=
    List.sizeOf_lt_of_mem hMem
  have hOption (item : Option Node) (hMem : part ∈ item) : sizeOf part < sizeOf item := by
    cases hMem
    simp
  have hHoles (items : List (Option Node)) (hMem : some part ∈ items) :
      sizeOf part < sizeOf items := by
    have hItem := List.sizeOf_lt_of_mem hMem
    simp only [Option.some.sizeOf_spec] at hItem
    omega
  cases node <;> simp at h <;> grind

/-- What holds of a node as soon as it holds of its parts holds of every node. -/
theorem induction_parts {p : Node → Prop} (h : ∀ tree, (∀ part ∈ tree.parts, p part) → p tree)
    (tree : Node) : p tree :=
  h tree fun part _ => induction_parts h part
termination_by tree
decreasing_by exact sizeOf_lt_of_mem_parts ‹_›

/-- Each node of a tree has the property. -/
inductive Every (p : Node → Prop) : Node → Prop
  | mk {tree : Node} : p tree → (∀ part ∈ tree.parts, Every p part) → Every p tree

variable {p q : Node → Prop} {tree : Node}

theorem every_iff : tree.Every p ↔ p tree ∧ ∀ part ∈ tree.parts, part.Every p := by
  constructor
  · rintro ⟨hTree, hParts⟩
    exact ⟨hTree, hParts⟩
  · rintro ⟨hTree, hParts⟩
    exact ⟨hTree, hParts⟩

theorem Every.here (h : tree.Every p) : p tree := (every_iff.1 h).1

theorem Every.part (h : tree.Every p) {part : Node} (hPart : part ∈ tree.parts) : part.Every p :=
  (every_iff.1 h).2 part hPart

theorem Every.imp (h : tree.Every p) (hImp : ∀ node, p node → q node) : tree.Every q := by
  induction h with
  | mk hTree _ ih => exact ⟨hImp _ hTree, ih⟩

theorem Every.and (hp : tree.Every p) (hq : tree.Every q) :
    tree.Every fun node => p node ∧ q node := by
  induction hp with
  | mk hTree _ ih => exact ⟨⟨hTree, hq.here⟩, fun part hPart => ih part hPart (hq.part hPart)⟩

/-- Each node of a tree is the root of a tree with the property. -/
theorem Every.nested (h : tree.Every p) : tree.Every (Every p) := by
  induction h with
  | mk hTree hParts ih => exact ⟨⟨hTree, hParts⟩, ih⟩

end Node

end Assay
