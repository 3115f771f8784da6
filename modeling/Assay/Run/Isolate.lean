import Assay.Data.Basic
import Assay.Text.Blank

/-!
# Isolates

JavaScript runs in isolates, which are opened, evaluate texts, and are closed. What an evaluation
gives is not computed here: a `Behaviour` says, for each isolate and for the texts evaluated in it
so far, what comes of the last one. What happens is written down as a `Trace` of events, and
everything about an isolate, and every log record, is read off from the trace.
-/

set_option autoImplicit false

namespace Assay

/-- Why an evaluation gives no value. -/
inductive Fault where
  /-- It took too long. -/
  | timeout
  /-- The text is no program. -/
  | parse (message : Text)
  /-- The program failed. -/
  | eval (message : Text)

namespace Fault

/-- The words for a fault. -/
def message : Fault → Text
  | .timeout => "JavaScript was terminated by timeout"
  | .parse message => message
  | .eval message => message

/-- The name of a fault, which stands in for words that are blank. -/
def name : Fault → String
  | .timeout => "JSTimeoutException"
  | .parse _ => "JSParseException"
  | .eval _ => "JSEvalException"

/-- The first line of the words for a fault, or its name. -/
def firstLine (fault : Fault) : Text :=
  (fault.message.strip.lines.head?).getD fault.name

end Fault

/-- A text given to an isolate, and the time it may take in milliseconds. -/
structure Evaluation where
  /-- The text. -/
  text : Text
  /-- The time it may take, if it is limited. -/
  limit : Option Data

/-- What comes of the last of the evaluations in an isolate, which is given by its number. -/
abbrev Behaviour := Nat → List Evaluation → Except Fault Data

/-- Isolates that follow a script: the outcomes of each are listed in order, and where the lists
have nothing to say there is always the same value. -/
def Behaviour.scripted (scripts : List (List (Option (Except Fault Data)))) (otherwise : Data) :
    Behaviour := fun isolate evaluations =>
  match scripts[isolate]? with
  | none => .ok otherwise
  | some script => (script[evaluations.length - 1]?.join).getD (.ok otherwise)

/-- How serious a log record is. -/
inductive Level where
  | info
  | warning

/-- The name of a level. -/
def Level.name : Level → String
  | .info => "INFO"
  | .warning => "WARNING"

/-- Something that happens in the course of a run. -/
inductive Event where
  /-- A new isolate is opened; isolates are numbered from zero in this order. -/
  | opened
  /-- An isolate evaluates a text. -/
  | evaluated (isolate : Nat) (evaluation : Evaluation)
  /-- An isolate is closed. -/
  | closed (isolate : Nat)
  /-- A log record is written. -/
  | logged (level : Level) (message : Text)

/-- What happened so far, in order. -/
abbrev Trace := List Event

namespace Trace

/-- The number of isolates. -/
def isolateCount : Trace → Nat
  | [] => 0
  | .opened :: rest => isolateCount rest + 1
  | _ :: rest => isolateCount rest

/-- The evaluations in an isolate. -/
def evaluationsIn (isolate : Nat) : Trace → List Evaluation
  | [] => []
  | .evaluated number evaluation :: rest =>
    if number = isolate then evaluation :: evaluationsIn isolate rest
    else evaluationsIn isolate rest
  | _ :: rest => evaluationsIn isolate rest

/-- How often an isolate was closed. -/
def closings (isolate : Nat) : Trace → Nat
  | [] => 0
  | .closed number :: rest => (if number = isolate then 1 else 0) + closings isolate rest
  | _ :: rest => closings isolate rest

/-- The log records. -/
def records : Trace → List (Level × Text)
  | [] => []
  | .logged level message :: rest => (level, message) :: records rest
  | _ :: rest => records rest

end Trace

/-- An activity that leaves a trace. -/
abbrev Bench (α : Type) := StateM Trace α

namespace Bench

/-- Writes down an event. -/
def note (event : Event) : Bench Unit := modify (· ++ [event])

/-- Writes a log record. -/
def log (level : Level) (message : Text) : Bench Unit := note (.logged level message)

/-- Opens an isolate and gives its number. -/
def openIsolate : Bench Nat := do
  let number := (← get).isolateCount
  note .opened
  return number

/-- Evaluates a text in an isolate. -/
def evaluate (js : Behaviour) (isolate : Nat) (text : Text) (limit : Option Data) :
    Bench (Except Fault Data) := do
  note (.evaluated isolate ⟨text, limit⟩)
  return js isolate ((← get).evaluationsIn isolate)

/-- Closes an isolate. -/
def close (isolate : Nat) : Bench Unit := note (.closed isolate)

end Bench

end Assay
