import Assay.Failure
import Assay.Mutation.Mutant
import Assay.Mutation.Walk

/-!
# Mutant generation

`Mutation.generate` reads a program, walks over it once and gives one mutant for each alteration,
numbered from one on. A mutant whose text is that of the unaltered program is worth a warning, and
so is a walk that leaves the program changed behind.
-/

set_option autoImplicit false

namespace Assay

/-- What a walk can be told to do otherwise. -/
structure Variation where
  /-- What happens to binary expressions. -/
  binary : BinaryRule := .swap
  /-- The kinds of nodes that lose their handler. -/
  dropped : List Text := []

/-- The mutants of a program. -/
structure Mutation where
  /-- The unaltered program as it is printed. -/
  beautified : Text
  /-- The mutants in order. -/
  mutants : List Mutant
  /-- The log records of the walk. -/
  records : List (Level × Text)

namespace Mutation

/-- The kinds of nodes that have alterations of their own. -/
def kinds : List Kind :=
  [.binaryExpression, .logicalExpression, .assignmentExpression, .unaryExpression,
   .updateExpression, .literal, .templateLiteral, .arrayExpression, .objectExpression,
   .callExpression, .newExpression, .blockStatement, .ifStatement, .whileStatement,
   .doWhileStatement, .forStatement, .chainExpression]

/-- The kinds of nodes whose plain keys are names. -/
def keyedKinds : List Kind := [.property, .methodDefinition, .propertyDefinition]

/-- Whether a kind loses its handler. -/
def Variation.drops (variation : Variation) (kind : Kind) : Bool :=
  variation.dropped.contains (Text.ofString kind.name)

/-- The rules of a walk. -/
def rules (config : Config) (variation : Variation) : Rules :=
  { assertion := config.assertion
    sentinel := config.sentinel
    binary := variation.binary
    openKeys := keyedKinds.filter (Variation.drops variation) }

/-- The mutant with the given number from an altered program. -/
def mutantOf (code : Text) (id : Nat) (altered : Altered Node) : Except Failure Mutant := do
  let source ← altered.whole.write
  let range ← altered.reported.locate code
  let text ← altered.reported.write
  return ⟨.int id, altered.kind, source, code, range, text⟩

/-- The mutants of a list of altered programs, numbered on from `id`. -/
def mutantsFrom (code : Text) : Nat → List (Altered Node) → Except Failure (List Mutant)
  | _, [] => .ok []
  | id, altered :: rest => do
    let first ← mutantOf code id altered
    return first :: (← mutantsFrom code (id + 1) rest)

/-- The log record of a mutant. -/
def recordOf (beautified : Text) (detail : Bool) (mutant : Mutant) : List (Level × Text) :=
  if mutant.mutatedSource = beautified then
    [(.warning, "The code is the same after generating a mutant: " ++ mutant.text)]
  else if detail then [(.info, mutant.text)]
  else []

/-- The log records of a walk. -/
def recordsOf (beautified settled : Text) (detail : Bool) (mutants : List Mutant) :
    List (Level × Text) :=
  let opening : List (Level × Text) := if detail then [(.info, "Generating mutants...")] else []
  let closing : List (Level × Text) :=
    if settled = beautified then []
    else [(.warning, "The AST is changed after generating mutants")]
  opening ++ mutants.flatMap (recordOf beautified detail) ++ closing

/-- The mutants of a program, with a record for each mutant if there is to be detail. -/
def generate (config : Config) (detail : Bool) (variation : Variation) (script : Script) :
    Except Failure Mutation := do
  let missing := kinds.filter (Variation.drops variation)
  if !missing.isEmpty then throw (.missingHandlers (missing.map fun kind => kind.name))
  let program ← script.read
  let beautified ← program.write
  let sites := Mutate.walk (rules config variation) program
  let mutants ← mutantsFrom script.code 1 sites.altered
  let settled ← sites.settled.write
  return ⟨beautified, mutants, recordsOf beautified settled (detail || config.detail) mutants⟩

end Mutation

end Assay
