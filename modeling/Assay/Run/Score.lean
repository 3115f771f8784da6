import Assay.Mutation.Mutant
import Assay.Run.Observe

/-!
# Scoring a mutant

A mutant is killed by the first input whose outcome differs from the expected one, or that takes
too long. Later inputs are not tried, and without anything to try no isolate is opened.
-/

set_option autoImplicit false

namespace Assay

/-- The input that killed a mutant. -/
structure Kill where
  /-- The input. -/
  input : Data
  /-- The outcome of the program. -/
  expected : Data
  /-- The outcome of the mutant. -/
  actual : Text

/-- What came of trying the inputs on a mutant. -/
structure MutantResult where
  /-- The mutant. -/
  mutant : Mutant
  /-- The number of inputs tried. -/
  testsRun : Nat
  /-- The input that killed the mutant, if one did. -/
  kill : Option Kill
  /-- The file of the program. -/
  filePath : Option Text

namespace MutantResult

/-- Whether the mutant was killed. -/
def killed (r : MutantResult) : Bool := r.kill.isSome

end MutantResult

namespace Score

/-- Whether an outcome is the expected one, which may be any data. -/
def isExpected (actual : Text) : Data → Bool
  | .text expected => actual == expected
  | _ => false

/-- Whether an outcome kills a mutant. -/
def kills (expected : Data) (actual : Text) : Bool :=
  actual = Observe.timeoutOutcome || !isExpected actual expected

/-- Tries inputs, each with its expected outcome, until one kills; `tried` counts those before. -/
def tryEach (js : Behaviour) (config : Config) (program : Observe.Loaded) :
    Nat → List (Data × Data) → Trial (Nat × Option Kill)
  | tried, [] => return (tried, none)
  | tried, (input, expected) :: rest => do
    let actual ← Observe.outcome js config program input
    if kills expected actual then return (tried + 1, some ⟨input, expected, actual⟩)
    else tryEach js config program (tried + 1) rest

/-- Tries inputs on a mutant. Without expected outcomes they are those of the program. -/
def run (js : Behaviour) (config : Config) (mutant : Mutant) (inputs : List Data)
    (expected : Option (List Data)) (filePath : Option Text) : Trial MutantResult := do
  let expected ←
    match expected with
    | some expected => pure expected
    | none => do pure ((← Observe.observe js config mutant.originalSource inputs).map Data.text)
  match inputs.zip expected with
  | [] => return ⟨mutant, 0, none, filePath⟩
  | pairs =>
    let (tried, kill) ← Observe.withProgram js config mutant.mutatedSource fun program =>
      tryEach js config program 0 pairs
    return ⟨mutant, tried, kill, filePath⟩

end Score

end Assay
