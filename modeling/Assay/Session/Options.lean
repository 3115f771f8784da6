import Assay.Config

/-!
# Options

The options with which a test session is started, and what they make of the settings of a run. An
option that is not given has its default.
-/

set_option autoImplicit false

namespace Assay

/-- A command-line option as it is announced. -/
structure OptionSpec where
  /-- The name with its dashes. -/
  flag : String
  /-- What happens to its value. -/
  action : Option String := none
  /-- The type of its value. -/
  valueType : Option String := none
  /-- Its value if it is not given. -/
  fallback : Data
  /-- What it is for. -/
  help : String

namespace OptionSpec

/-- The name of the group of options and what it is for. -/
def group : List String := ["jsprobe", "JavaScript coverage and mutation testing"]

/-- All options. -/
def all : List OptionSpec :=
  [{ flag := "--jsprobe", action := some "store_true", fallback := .bool false,
     help := "Enable JavaScript coverage and mutation testing" },
   { flag := "--jsprobe-target", action := some "append", fallback := .list [],
     help := "JavaScript file/directory to probe (repeatable)" },
   { flag := "--jsprobe-inputs", fallback := .null,
     help := "JSON file with \"coverage\" argument lists and \"mutation\" input expressions" },
   { flag := "--jsprobe-detail", action := some "store_true", fallback := .bool false,
     help := "Itemize coverage targets and log every mutant" },
   { flag := "--jsprobe-timeout", valueType := some "int", fallback := .null,
     help := "Per-evaluation timeout in milliseconds" },
   { flag := "--jsprobe-json", fallback := .null,
     help := "Also write a JSON report to this path" }]

end OptionSpec

/-- The options of a session. -/
abbrev Options := List (Text × Data)

namespace Options

/-- The value of an option. -/
def get (options : Options) (name : String) (fallback : Data) : Data :=
  ((Data.object options).field? name).getD fallback

/-- Whether the session is to be tested at all. -/
def enabled (options : Options) : Bool := (options.get "jsprobe" (.bool false)).isTruthy

/-- The plugins that a session gets, each with the name it is registered under. -/
def plugins (options : Options) : List (String × String) :=
  if options.enabled then [("JsProbePlugin", "jsprobe-plugin")] else []

/-- The settings that the options make. -/
def settings (options : Options) : Settings :=
  let detail := .bool (options.get "jsprobe_detail" (.bool false)).isTruthy
  match options.get "jsprobe_timeout" .null with
  | .null => { detail := detail }
  | timeout => { timeout := timeout, detail := detail }

end Options

end Assay
