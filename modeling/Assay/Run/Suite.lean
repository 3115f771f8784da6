import Assay.Coverage.Session
import Assay.Files.Discovery
import Assay.Mutation.Generate
import Assay.Run.Score

/-!
# A whole run

A run takes files one after the other, measures their coverage and makes their mutants; then, if
there are inputs for it, each mutant is scored against what its program does. What a program does is
observed once for each file. A file that cannot be read stops the run.
-/

set_option autoImplicit false

namespace Assay

/-- Values under keys, in the order in which the keys were first used. -/
abbrev Register (α : Type) := List (Text × α)

namespace Register

/-- The value under a key. -/
def get? {α : Type} (register : Register α) (key : Text) : Option α :=
  (List.find? (·.1 = key) register).map (·.2)

/-- Puts a value under a key, in place of one that is there. -/
def put {α : Type} (key : Text) (value : α) : Register α → Register α
  | [] => [(key, value)]
  | entry :: rest => if entry.1 = key then (key, value) :: rest else entry :: put key value rest

end Register

/-- The result of a run. -/
structure RunResult where
  /-- The files. -/
  targetFiles : List Text
  /-- The number of mutants. -/
  totalMutants : Int
  /-- The number of mutants that were scored. -/
  mutantsTested : Int
  /-- What came of each mutant. -/
  results : List MutantResult
  /-- The time that the run took, in seconds. -/
  wallTime : Float
  /-- The coverage of each file. -/
  coverage : Register Coverage := []
  /-- The text of each file. -/
  sources : Register Text := []

namespace RunResult

/-- The number of killed mutants. -/
def killed (r : RunResult) : Nat := (r.results.filter (·.killed)).length

/-- The results of the mutants that survived. -/
def survived (r : RunResult) : List MutantResult := r.results.filter (!·.killed)

/-- The share of the scored mutants that were killed, in percent. -/
def score (r : RunResult) : Float :=
  if r.mutantsTested = 0 then 0.0
  else r.killed.toFloat / Float.ofInt r.mutantsTested * 100.0

end RunResult

namespace Suite

/-- What is known after the first part of a run. -/
structure Survey where
  /-- The coverage of each file. -/
  coverage : Register Coverage := []
  /-- The text of each file. -/
  sources : Register Text := []
  /-- The mutants with their files. -/
  mutants : List (Text × Mutant) := []

/-- Writes log records. -/
def logAll : List (Level × Text) → Bench Unit
  | [] => return ()
  | (level, message) :: rest => do
    Bench.log level message
    logAll rest

/-- The coverage of a program: it runs on the inputs, if there are any, and is closed. -/
def cover (js : Behaviour) (config : Config) (script : Script) (inputs : Data) :
    Trial Coverage := do
  let coverage ← Coverage.start js config script
  let (coverage, result) ←
    if inputs.isTruthy then Trial.lift (coverage.runAndClose js inputs)
    else do pure (← Trial.lift coverage.close, .ok ())
  match result with
  | .ok () => return coverage
  | .error failure => throw failure

/-- The file at a target, which has to be a path. -/
def fileOf (store : Store) : Data → Except Failure (Place × File)
  | .text path => store.readNormal path
  | _ => .error .wrongType

/-- Takes one more file into a survey. -/
def surveyFile (js : Behaviour) (config : Config) (store : Store) (inputs : Data)
    (survey : Survey) (target : Data) : Trial Survey := do
  let (place, file) ← Trial.ofExcept id (fileOf store target)
  let path := store.pathOf place
  let coverage ← cover js config file.script inputs
  let mutation ← Trial.ofExcept id (Mutation.generate config false {} file.script)
  Trial.lift (logAll mutation.records)
  Trial.lift (Bench.log .info
    (Discovery.baseName path ++ ": " ++ Text.ofNat mutation.mutants.length ++ " mutants"))
  return ⟨Register.put path coverage survey.coverage,
    Register.put path file.readText survey.sources,
    survey.mutants ++ mutation.mutants.map fun mutant => (path, mutant)⟩

/-- Takes files into a survey one after the other. -/
def surveyAll (js : Behaviour) (config : Config) (store : Store) (inputs : Data) :
    Survey → List Data → Trial Survey
  | survey, [] => return survey
  | survey, target :: rest => do
    let survey ← surveyFile js config store inputs survey target
    surveyAll js config store inputs survey rest

/-- Scores mutants; what their programs do is kept for the next mutant of the same file. -/
def scoreAll (js : Behaviour) (config : Config) (sources : Register Text) (inputs : List Data) :
    Register (List Text) → List (Text × Mutant) → Trial (List MutantResult)
  | _, [] => return []
  | known, (path, mutant) :: rest => do
    let expected ←
      match known.get? path with
      | some expected => pure expected
      | none => Observe.observe js config ((sources.get? path).getD []) inputs
    let first ← Score.run js config mutant inputs (some (expected.map Data.text)) (some path)
    return first :: (← scoreAll js config sources inputs (Register.put path expected known) rest)

/-- Scores the mutants of a survey, if there are inputs for them. -/
def score (js : Behaviour) (config : Config) (survey : Survey) (inputs : Data) :
    Trial (List MutantResult) :=
  if inputs.isTruthy && !survey.mutants.isEmpty then
    match inputs.elements? with
    | some values => scoreAll js config survey.sources values [] survey.mutants
    | none => throw .wrongType
  else return []

/-- Runs on files, with inputs for coverage and for the mutants. -/
def run (js : Behaviour) (config : Config) (store : Store) (targets : List Data)
    (coverageInputs mutationInputs : Data) : Trial RunResult := do
  let survey ← surveyAll js config store coverageInputs {} targets
  let results ← score js config survey mutationInputs
  return ⟨survey.sources.map (·.1), survey.mutants.length, results.length, results, 0.0,
    survey.coverage, survey.sources⟩

end Suite

end Assay
