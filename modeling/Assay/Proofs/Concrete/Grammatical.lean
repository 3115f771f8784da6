import Assay.Proofs.Tree.WellFormed

/-!
# Concrete trees as the grammar gives them

`Script.isGrammatical` holds of the concrete trees that come from the grammar of the language, and
says of them no more than is needed: children stand one after the other inside of their parent,
operators are those of the language, functions and labels have plain names, and what the grammar
requires is there. `Script.isSpelled` says in addition that tokens are spelled as a `Lexicon` has
it. Both are computed from the shapes of single nodes and of their children.
-/

set_option autoImplicit false

namespace Assay

namespace Form

/-- The forms that are read as names. -/
def isName : Form → Bool
  | .identifier | .propertyIdentifier | .shorthandPropertyIdentifier
  | .shorthandPropertyIdentifierPattern | .statementIdentifier | .undefinedName => true
  | _ => false

/-- The forms that may hold a name, for the names that stand for no value and may be any word. -/
def keepers? : Form → Option (List Form)
  | .propertyIdentifier =>
    some [.memberExpression, .pair, .pairPattern, .methodDefinition, .fieldDefinition]
  | .statementIdentifier => some [.labeledStatement, .breakStatement, .continueStatement]
  | _ => none

/-- The operators that the expressions of a form may have. -/
def operators? : Form → Option (List String)
  | .binaryExpression => some (Print.operatorRanks.map (·.1))
  | .unaryExpression => some Grammar.unaryOperators
  | .updateExpression => some Grammar.updateOperators
  | _ => none

/-- The role of the plain name that what has the form goes by. -/
def nameRole? : Form → Option String
  | .labeledStatement => some "label"
  | .functionDeclaration | .generatorFunctionDeclaration | .functionExpression | .functionKeyword
  | .generatorFunction => some "name"
  | _ => none

/-- Whether what has the form cannot be without an operand. -/
def needsOperand : Form → Bool
  | .throwStatement | .sequenceExpression => true
  | _ => false

/-- Two roles of which the first comes before the second. -/
def rolesInOrder? : Form → Option (String × String)
  | .methodDefinition => some ("parameters", "body")
  | .forInStatement => some ("kind", "left")
  | _ => none

/-- Whether what has the form may have a child of the given shape. -/
def admits (form : Form) (child : Shape) : Bool :=
  child.form != .program && child.form.keepers?.all (·.contains form) &&
    (form.nameRole? != some child.field || child.form.isName) &&
    (child.field != "operator" || form.operators?.all (·.contains child.form.name))

end Form

namespace Shape

/-- Whether the shapes stand one after the other between two byte offsets. -/
def inOrder (start stop : Int) : List Shape → Bool
  | [] => start ≤ stop
  | shape :: rest =>
    start ≤ shape.start && shape.start ≤ shape.stop && inOrder shape.stop stop rest

/-- Whether the first child in one role does not start behind the first in another. -/
def startsBefore (children : List Shape) (roles : String × String) : Bool :=
  match children.find? (·.field == roles.1), children.find? (·.field == roles.2) with
  | some first, some second => first.start ≤ second.stop
  | _, _ => true

/-- Whether a node of the shape may have children of the given shapes. -/
def isRegular (shape : Shape) (children : List Shape) : Bool :=
  inOrder shape.start shape.stop children && children.all shape.form.admits &&
    (!shape.form.needsOperand || children.any fun child => child.named && !child.form.isNoise) &&
    shape.form.rolesInOrder?.all (startsBefore children)

/-- Whether the token at a shape is spelled as the lexicon has it. -/
def isSpelled (lexicon : Lexicon) (source : Source) (shape : Shape) : Bool :=
  match source.textOf shape with
  | .error _ => true
  | .ok text =>
    (!shape.form.isName || lexicon.isName text) &&
      (!shape.form.isName || shape.form.keepers?.isSome || lexicon.isVariable text) &&
      (shape.form != .stringLiteral || lexicon.isString text) &&
      (shape.form != .metaProperty ||
        lexicon.isName (Text.strip (text.cutAt '.').1) &&
          lexicon.isName (Text.strip (text.cutAt '.').2))

end Shape

namespace Concrete

mutual

/-- Whether each node of a tree passes a check of its shape and the shapes of its children. -/
def all (check : Shape → List Shape → Bool) : Concrete → Bool
  | .mk shape children => check shape (children.map Concrete.shape) && allIn check children

/-- Whether each node of several trees passes the check. -/
def allIn (check : Shape → List Shape → Bool) : List Concrete → Bool
  | [] => true
  | tree :: rest => all check tree && allIn check rest

end

theorem all_iff {check : Shape → List Shape → Bool} {shape : Shape} {children : List Concrete} :
    (Concrete.mk shape children).all check = true ↔
      check shape (children.map Concrete.shape) = true ∧
        ∀ child ∈ children, child.all check = true := by
  have hChildren : allIn check children = children.all (all check) := by
    induction children with
    | nil => rfl
    | cons tree rest ih => rw [allIn, List.all_cons, ih]
  rw [all, Bool.and_eq_true, hChildren, List.all_eq_true]

/-- What holds of a tree if it holds of its children holds of all trees. -/
@[elab_as_elim]
theorem induction {motive : Concrete → Prop}
    (mk : ∀ shape children, (∀ child ∈ children, motive child) → motive (.mk shape children))
    (tree : Concrete) : motive tree := by
  obtain ⟨shape, children⟩ := tree
  exact mk shape children fun child _ => induction mk child
termination_by sizeOf tree

end Concrete

namespace Script

/-- Whether the concrete tree is one that the grammar may give for the text. -/
def isGrammatical (script : Script) : Bool :=
  let root := script.tree.shape
  0 ≤ root.start && root.start ≤ root.stop && root.stop ≤ (Source.ofText script.code).size &&
    script.tree.all Shape.isRegular

/-- Whether the tokens of the program are spelled as the lexicon has it. -/
def isSpelled (lexicon : Lexicon) (script : Script) : Bool :=
  script.tree.all fun shape _ => shape.isSpelled lexicon (Source.ofText script.code)

end Script

/-! ## Tokens of any spelling -/

theorem Shape.isSpelled_any (source : Source) (shape : Shape) :
    shape.isSpelled Lexicon.any source = true := by
  unfold Shape.isSpelled
  split <;> simp [Lexicon.any]

/-- A check that no shape fails holds of every tree. -/
theorem Concrete.all_of_forall {check : Shape → List Shape → Bool}
    (h : ∀ shape children, check shape children = true) (tree : Concrete) :
    tree.all check = true := by
  induction tree using Concrete.induction with
  | mk shape children ih => exact all_iff.2 ⟨h _ _, ih⟩

theorem Script.isSpelled_any (script : Script) : script.isSpelled Lexicon.any = true :=
  Concrete.all_of_forall (fun shape _ => Shape.isSpelled_any _ shape) script.tree
end Assay
