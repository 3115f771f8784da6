import Assay.Data.Json.Reader
import Assay.Failure

/-!
# Inputs from a file

The inputs of a run are JSON: an object with lists of arguments under `coverage` and expressions
under `mutation`.
-/

set_option autoImplicit false

namespace Assay

/-- The inputs of a run. -/
structure Inputs where
  /-- Argument lists, one for each call. -/
  coverage : List (List Data) := []
  /-- Expressions to evaluate. -/
  mutation : List Text := []

namespace Inputs

/-- The elements of a field of an object; a field that is absent has none. -/
def elementsOf (fields : List (Text × Data)) (name : String) : Except Failure (List Data) :=
  match ((Data.object fields).field? name).map Data.elements? with
  | none => .ok []
  | some none => .error .wrongType
  | some (some values) => .ok values

/-- The elements of each value. -/
def argumentLists : List Data → Except Failure (List (List Data))
  | [] => .ok []
  | value :: rest =>
    match value.elements? with
    | none => .error .wrongType
    | some values => return values :: (← argumentLists rest)

/-- Reads the inputs from a text. -/
def read (text : Text) : Except Failure Inputs :=
  match Json.read text with
  | .error error => .error (.json error)
  | .ok (.object fields) => do
    let coverage ← argumentLists (← elementsOf fields "coverage")
    let mutation ← elementsOf fields "mutation"
    return ⟨coverage, mutation.map Data.plain⟩
  | .ok _ => .error .noParts

end Inputs

end Assay
