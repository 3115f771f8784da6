import Assay.Coverage.CoverSet
import Assay.Data.Json.Writer

/-!
# Coverage of one program

A `Coverage` is an instrumented program that is loaded into an isolate. Each run calls the program
with arguments and then asks the isolate for all ids reached so far. A program that cannot be
loaded has no isolate; its runs only leave a warning. The ids reached before a failure are kept, so
a run gives back the coverage whether it failed or not.
-/

set_option autoImplicit false

namespace Assay

/-- A cover set for each space. -/
structure Covers where
  /-- The functions. -/
  func : CoverSet
  /-- The statements. -/
  stmt : CoverSet
  /-- The branches. -/
  branch : CoverSet

namespace Covers

/-- The cover set of a space. -/
def get (covers : Covers) : Space → CoverSet
  | .func => covers.func
  | .stmt => covers.stmt
  | .branch => covers.branch

/-- Puts another cover set in place for a space. -/
def set (covers : Covers) : Space → CoverSet → Covers
  | .func, s => { covers with func := s }
  | .stmt, s => { covers with stmt := s }
  | .branch, s => { covers with branch := s }

end Covers

/-- An instrumented program with what was reached in it. -/
structure Coverage where
  /-- The settings. -/
  config : Config
  /-- The program. -/
  code : Text
  /-- The instrumented program. -/
  modified : Text
  /-- The targets and what was reached of them. -/
  covers : Covers
  /-- The isolate that holds the program, if it could be loaded and is not closed. -/
  isolate : Option Nat

namespace Coverage

/-- The warning for a program that has no isolate. -/
def notRunnable : Text := "The given code is not runnable with arguments."

/-- The variable that holds the sets of ids. -/
def hitsName : Text := "__jsprobe_hits__"

/-- The variable that holds the function to call. -/
def entryName : Text := "__jsprobe_entry__"

/-- An object with one field for each space. -/
def spaceObject (value : Space → Text) : Text :=
  "\x7b" ++ Text.join ", " (Space.all.map fun space => space.name ++ ": " ++ value space) ++ "\x7d"

/-- The text that loads an instrumented program; the program is bound as an expression. -/
def entrySource (handle modified : Text) : Text :=
  "var " ++ hitsName ++ " = " ++ spaceObject (fun _ => "new Set()") ++ ";\n"
    ++ "var " ++ entryName ++ " = (function (" ++ handle ++ ") \x7b\n"
    ++ "const orig = " ++ modified ++ "\n;\n"
    ++ "return function () \x7b\n"
    ++ "  try \x7b return orig.apply(null, arguments); \x7d catch (e) \x7b \x7d\n"
    ++ "\x7d;\n"
    ++ "\x7d)(" ++ hitsName ++ ");"

/-- The text that gives all ids reached so far. -/
def harvestSource : Text :=
  "JSON.stringify("
    ++ spaceObject (fun space => "Array.from(" ++ hitsName ++ "." ++ space.name ++ ")") ++ ")"

/-- The text that calls the program. -/
def callSource (arguments : List Data) : Text :=
  "void " ++ entryName ++ ".apply(null, " ++ Json.compact (.list arguments) ++ ")"

/-- The targets with their ranges; the first place that is no range is the failure. -/
def rangesOf (code : Text) : List Target → Except Failure (List (Space × Range))
  | [] => .ok []
  | target :: rest =>
    match Range.ofSpan code target.kind.name target.span with
    | .ok range => return (target.space, range) :: (← rangesOf code rest)
    | .error error => .error (.range error)

/-- The ranges of one space, numbered from zero on. -/
def catalogOf (space : Space) (ranges : List (Space × Range)) : Catalog :=
  ((ranges.filter (·.1 = space)).zipIdx 0).map fun (entry, id) => (.int id, entry.2)

/-- The instrumented text of a program and its empty cover sets. -/
def prepare (config : Config) (script : Script) : Except Failure (Text × Covers) := do
  let program ← script.read
  let (tree, targets) := program.instrument config.handle
  let ranges ← rangesOf script.code targets
  let modified ← tree.write
  return (modified,
    ⟨⟨catalogOf .func ranges, []⟩, ⟨catalogOf .stmt ranges, []⟩, ⟨catalogOf .branch ranges, []⟩⟩)

/-- Loads an instrumented text into an isolate of its own. -/
def load (js : Behaviour) (config : Config) (modified : Text) : Bench (Option Nat) := do
  let isolate ← Bench.openIsolate
  match ← Bench.evaluate js isolate (entrySource config.handle modified) (some config.timeout) with
  | .ok _ => return some isolate
  | .error fault =>
    Bench.close isolate
    Bench.log .warning (notRunnable ++ " (" ++ fault.message ++ ")")
    return none

/-- Instruments and loads a program. -/
def start (js : Behaviour) (config : Config) (script : Script) : Trial Coverage := do
  let (modified, covers) ← Trial.ofExcept id (prepare config script)
  let isolate ← Trial.lift (load js config modified)
  return ⟨config, script.code, modified, covers, isolate⟩

/-- Whether the program can be called. -/
def runnable (coverage : Coverage) : Bool := coverage.isolate.isSome

/-- Closes the isolate; what was reached stays. -/
def close (coverage : Coverage) : Bench Coverage := do
  match coverage.isolate with
  | some isolate =>
    Bench.close isolate
    return { coverage with isolate := none }
  | none => return coverage

/-! ## Runs -/

/-- Adds harvested values up to the first that is refused. -/
def addAll (s : CoverSet) : List Data → CoverSet × Except Failure Unit
  | [] => (s, .ok ())
  | value :: rest =>
    match s.add value with
    | .ok s => addAll s rest
    | .error failure => (s, .error failure)

/-- Adds what was harvested for each of the spaces, up to the first value that is refused. -/
def absorb (hits : Data) : List Space → Covers → Covers × Except Failure Unit
  | [], covers => (covers, .ok ())
  | space :: rest, covers =>
    match hits with
    | .object _ =>
      match ((hits.field? space.name).getD (.list [])).elements? with
      | none => (covers, .error .wrongType)
      | some values =>
        match addAll (covers.get space) values with
        | (s, .ok ()) => absorb hits rest (covers.set space s)
        | (s, .error failure) => (covers.set space s, .error failure)
    | _ => (covers, .error .noParts)

/-- Calls the program once and gives all ids reached so far, as the isolate tells them. -/
def invoke (js : Behaviour) (config : Config) (isolate : Nat) (arguments : Data) : Trial Data := do
  match arguments.elements? with
  | none => throw .wrongType
  | some values =>
    match ← Trial.lift (Bench.evaluate js isolate (callSource values) (some config.timeout)) with
    | .error .timeout =>
      Trial.lift (Bench.log .warning
        ("Coverage run timed out after " ++ Text.ofInt config.timeout.truncate
          ++ " ms for arguments " ++ arguments.display))
    | _ => pure ()
    match ← Trial.lift (Bench.evaluate js isolate harvestSource none) with
    | .error fault => throw (.isolate fault)
    | .ok value => Trial.ofExcept id (Data.readJson value)

/-- One run of the program. -/
def runSingle (js : Behaviour) (coverage : Coverage) (arguments : Data) :
    Bench (Coverage × Except Failure Unit) := do
  match coverage.isolate with
  | none =>
    Bench.log .warning notRunnable
    return (coverage, .ok ())
  | some isolate =>
    match ← (invoke js coverage.config isolate arguments).run with
    | .error failure => return (coverage, .error failure)
    | .ok hits =>
      let (covers, result) := absorb hits Space.all coverage.covers
      return ({ coverage with covers := covers }, result)

/-- Runs up to the first that fails. -/
def runEach (js : Behaviour) : Coverage → List Data → Bench (Coverage × Except Failure Unit)
  | coverage, [] => return (coverage, .ok ())
  | coverage, arguments :: rest => do
    match ← runSingle js coverage arguments with
    | (coverage, .ok ()) => runEach js coverage rest
    | failed => return failed

/-- A run for each of the inputs. -/
def run (js : Behaviour) (coverage : Coverage) (inputs : Data) :
    Bench (Coverage × Except Failure Unit) :=
  match inputs.elements? with
  | some inputs => runEach js coverage inputs
  | none => return (coverage, .error .wrongType)

/-- Runs, and closes the isolate whether they failed or not. -/
def runAndClose (js : Behaviour) (coverage : Coverage) (inputs : Data) :
    Bench (Coverage × Except Failure Unit) := do
  let (coverage, result) ← run js coverage inputs
  return (← close coverage, result)

/-! ## Text -/

/-- What to show of a coverage. -/
structure Display where
  /-- The instrumented program. -/
  modified : Bool := false
  /-- A line for each target. -/
  detail : Bool := false
  /-- The program text of each target. -/
  source : Bool := false

/-- The line for one space; a space without targets has none. -/
def spaceText (coverage : Coverage) (display : Display) (space : Space) : Text :=
  let cover := coverage.covers.get space
  if 0 < cover.total then
    "- " ++ space.name ++ ": "
      ++ cover.text display.detail (if display.source then some coverage.code else none) ++ "\n"
  else []

/-- The coverage of each space. -/
def text (coverage : Coverage) (display : Display) : Text :=
  Text.strip
    ((if display.modified then "Modified: " ++ coverage.modified ++ "\n" else [])
      ++ "Coverage:\n" ++ Space.all.flatMap (coverage.spaceText display))

end Coverage

end Assay
