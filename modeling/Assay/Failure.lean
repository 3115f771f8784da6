import Assay.Concrete.Lowering
import Assay.Config
import Assay.Data.Json.Reader
import Assay.Issue
import Assay.Print.Printer
import Assay.Run.Isolate

/-!
# Failures

The causes for which an operation has no result, from a program that cannot be read to a file that
is not there. `Trial` is the type of activities that leave a trace and may fail: what was done
before a failure stays in the trace.
-/

set_option autoImplicit false

namespace Assay

/-- Why an operation has no result. -/
inductive Failure where
  /-- A program cannot be read. -/
  | parse (code : Text) (error : ParseError)
  /-- A tree cannot be printed. -/
  | print (error : PrintError)
  /-- A place in a program is no range. -/
  | range (error : RangeError)
  /-- Settings are refused. -/
  | settings (fault : Settings.Fault)
  /-- An evaluation that has to succeed gives no value. -/
  | isolate (fault : Fault)
  /-- A text is no JSON. -/
  | json (error : Json.ReadError)
  /-- An id is not in its catalog. -/
  | notTarget (id : Data)
  /-- Coverage over different catalogs cannot be merged. -/
  | differentCatalogs
  /-- An object lacks a field. -/
  | missingField (name : Text)
  /-- A value is of the wrong type. -/
  | wrongType
  /-- A value has none of the parts that are asked for. -/
  | noParts
  /-- Nothing handles these kinds of nodes. -/
  | missingHandlers (kinds : List Text)
  /-- There is no such file. -/
  | fileNotFound (path : Text)
  /-- There is a folder in place of the file. -/
  | isFolder (path : Text)
  /-- There is a file in place of a folder on the way. -/
  | notFolder (path : Text)
  /-- A path or a name in it is too long. -/
  | longPath (path : Text)
  /-- A path holds the code point zero. -/
  | nullInPath
  /-- A path holds a surrogate that stands for no byte. -/
  | notEncodable

namespace Failure

/-- The words for an id that is not in its catalog. -/
def notTargetMessage (id : Data) : Text := "Id " ++ id.plain ++ " is not a coverage target"

/-- The words for catalogs that differ. -/
def differentCatalogsMessage : Text := "Cannot merge coverage over different catalogs"

/-- The words for a path with the code point zero. -/
def nullInPathMessage : Text := "embedded null byte"

end Failure

/-- Reads the JSON in a text; other data holds none. -/
def Data.readJson : Data → Except Failure Data
  | .text written =>
    match Json.read written with
    | .ok value => .ok value
    | .error error => .error (.json error)
  | _ => .error .wrongType

/-- An activity that leaves a trace and may fail. -/
abbrev Trial (α : Type) := ExceptT Failure (StateM Trace) α

namespace Trial

/-- Runs an activity that cannot fail. -/
def lift {α : Type} (activity : Bench α) : Trial α := ExceptT.lift activity

/-- Takes over a result that may be a failure. -/
def ofExcept {α ε : Type} (wrap : ε → Failure) : Except ε α → Trial α
  | .ok value => pure value
  | .error error => throw (wrap error)

/-- Runs an activity and then, whether it failed or not, another one. -/
def ensuring {α : Type} (activity : Trial α) (after : Bench Unit) : Trial α :=
  ExceptT.mk do
    let result ← activity.run
    after
    return result

end Trial

/-- The syntax tree of a program, with the program in the failure. -/
def Script.read (script : Script) : Except Failure Node :=
  match script.parse with
  | .ok node => .ok node
  | .error error => .error (.parse script.code error)

/-- The text of a tree, with the cause in the failure. -/
def Node.write (node : Node) : Except Failure Text :=
  match node.print with
  | .ok text => .ok text
  | .error error => .error (.print error)

/-- The range of a node, with the cause in the failure. -/
def Node.locate (code : Text) (node : Node) : Except Failure Range :=
  match Range.ofSpan code node.kind.name node.span with
  | .ok range => .ok range
  | .error error => .error (.range error)

end Assay
