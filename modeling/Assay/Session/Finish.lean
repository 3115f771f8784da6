import Assay.Files.Inputs
import Assay.Report.Structured
import Assay.Session.Options

/-!
# The end of a session

When a session ends without failures, its target files are tested, the report is shown, and the
session fails if a mutant survived.
-/

set_option autoImplicit false

namespace Assay

/-- A session at its end. -/
structure Session where
  /-- The options. -/
  options : Options
  /-- The files. -/
  store : Store
  /-- Zero if nothing failed. -/
  exitStatus : Data

namespace Session

/-- The files to be tested, each once and in order. -/
def targetFiles (options : Options) (store : Store) : Except Failure (List Place) :=
  let targets := options.get "jsprobe_target" (.list [])
  if targets.isTruthy then
    match targets.elements? with
    | none => .error .wrongType
    | some values => do
      let found ← values.mapM fun value =>
        match value with
        | .text target => .ok (Discovery.filesOf store target)
        | _ => .error .wrongType
      return store.sortPlaces found.flatten.eraseDups
  else .ok (Discovery.defaultFiles store)

/-- The settings of the run. -/
def config (options : Options) : Except Failure Config :=
  match options.settings.check with
  | .ok config => .ok config
  | .error fault => .error (.settings fault)

/-- The inputs of the run, from the file that the options name. -/
def inputs (options : Options) (store : Store) : Except Failure Inputs :=
  match options.get "jsprobe_inputs" .null with
  | .null => .ok {}
  | .text path => do
    let (_, file) ← store.read path
    Inputs.read file.readText
  | _ => .error .wrongType

/-- Stores the structured report, if the options name a file for it. -/
def saveReport (options : Options) (store : Store) (result : RunResult) : Except Failure Store :=
  match options.get "jsprobe_json" .null with
  | .text path => if path.isEmpty then .ok store else store.write path (Report.structured result)
  | value => if value.isTruthy then .error .wrongType else .ok store

/-- A session after its end. -/
structure Finished where
  /-- The report, if there was something to report. -/
  report : Option Text
  /-- The files. -/
  store : Store
  /-- Zero if nothing failed. -/
  exitStatus : Data

/-- Ends a session. -/
def finish (js : Behaviour) (session : Session) : Trial Finished := do
  let unchanged : Finished := ⟨none, session.store, session.exitStatus⟩
  if session.exitStatus.whole? ≠ some 0 then return unchanged
  let targets ← Trial.ofExcept id (targetFiles session.options session.store)
  if targets.isEmpty then return unchanged
  let config ← Trial.ofExcept id (config session.options)
  let inputs ← Trial.ofExcept id (inputs session.options session.store)
  let result ← Suite.run js config session.store
    (targets.map fun place => .text (Text.join "/" place))
    (.list (inputs.coverage.map Data.list)) (.list (inputs.mutation.map Data.text))
  let store ← Trial.ofExcept id (saveReport session.options session.store result)
  return ⟨some (Report.terminal result config.detail), store,
    if result.survived.isEmpty then session.exitStatus else .int 1⟩

end Session

end Assay
