import Assay.Data.Json.Writer
import Assay.Failure

/-!
# What a program does

A program is observed by loading it into a fresh isolate and evaluating expressions there, one
after the other. The outcome of an expression is a text: `return` or `throw` with a value, `error`
with the reason why there is none, or `timeout`. A program that cannot be loaded has the same
outcome for every expression.
-/

set_option autoImplicit false

namespace Assay.Observe

/-- The outcome of what took too long. -/
def timeoutOutcome : Text := "timeout"

/-- The definition of the assertion function, which stands before every program. -/
def prelude (config : Config) : Text :=
  "function " ++ config.assertion ++ "(condition, message) \x7b\n"
    ++ "  if (!condition) throw new Error(message === undefined ? 'Assertion failed' "
    ++ ": String(message));\n"
    ++ "\x7d\n"

/-- The text that evaluates an expression globally and gives its outcome as JSON; the expression is
embedded as JSON, a text as a string, so that a fault in it is a fault of its evaluation. -/
def harness (expression : Data) : Text :=
  "(function () \x7b\n"
    ++ "  try \x7b\n"
    ++ "    var value = (0, eval)(" ++ Json.compact expression ++ ");\n"
    ++ "    var text = JSON.stringify(value);\n"
    ++ "    return JSON.stringify(\x7bok: true, value: "
    ++ "text === undefined ? String(value) : text\x7d);\n"
    ++ "  \x7d catch (e) \x7b\n"
    ++ "    return JSON.stringify(\x7bok: false, value: String(e)\x7d);\n"
    ++ "  \x7d\n"
    ++ "\x7d)()"

/-- The outcome that the answer of an isolate stands for. -/
def outcomeOf (answer : Data) : Except Failure Text :=
  match Data.readJson answer with
  | .error failure => .error failure
  | .ok (.object fields) =>
    match (Data.object fields).field? "ok", (Data.object fields).field? "value" with
    | none, _ => .error (.missingField "ok")
    | some _, none => .error (.missingField "value")
    | some ok, some (.text value) =>
      .ok ((if ok.isTruthy then ("return " : Text) else "throw ") ++ value)
    | some _, some _ => .error .wrongType
  | .ok _ => .error .wrongType

/-- A program in an isolate. -/
structure Loaded where
  /-- The isolate. -/
  isolate : Nat
  /-- The outcome of every expression, if the program could not be loaded. -/
  stuck : Option Text

/-- Loads a program into a fresh isolate. -/
def load (js : Behaviour) (config : Config) (source : Text) : Bench Loaded := do
  let isolate ← Bench.openIsolate
  match ← Bench.evaluate js isolate (prelude config ++ source) (some config.timeout) with
  | .ok _ => return ⟨isolate, none⟩
  | .error .timeout => return ⟨isolate, some timeoutOutcome⟩
  | .error fault => return ⟨isolate, some ("load error " ++ fault.firstLine)⟩

/-- The outcome of an expression in a program. -/
def outcome (js : Behaviour) (config : Config) (program : Loaded) (expression : Data) :
    Trial Text := do
  match program.stuck with
  | some outcome => return outcome
  | none =>
    let answer ← Trial.lift
      (Bench.evaluate js program.isolate (harness expression) (some config.timeout))
    match answer with
    | .error .timeout => return timeoutOutcome
    | .error fault => return "error " ++ fault.firstLine
    | .ok value => Trial.ofExcept id (outcomeOf value)

/-- Works with a program in a fresh isolate, which is closed in the end. -/
def withProgram {α : Type} (js : Behaviour) (config : Config) (source : Text)
    (work : Loaded → Trial α) : Trial α := do
  let program ← Trial.lift (load js config source)
  Trial.ensuring (work program) (Bench.close program.isolate)

/-- The outcomes of expressions, in order. -/
def outcomes (js : Behaviour) (config : Config) (program : Loaded) : List Data → Trial (List Text)
  | [] => return []
  | expression :: rest => do
    let first ← outcome js config program expression
    return first :: (← outcomes js config program rest)

/-- The outcome of each expression in a program. -/
def observe (js : Behaviour) (config : Config) (source : Text) (inputs : List Data) :
    Trial (List Text) :=
  withProgram js config source fun program => outcomes js config program inputs

end Assay.Observe
