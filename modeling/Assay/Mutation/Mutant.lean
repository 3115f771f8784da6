import Assay.Mutation.Operator
import Assay.Source.Position
import Assay.Text.Blank

/-!
# Mutants

A mutant is a variant of a whole program with one alteration. It knows the range of what was
altered and the text that stands there instead.
-/

set_option autoImplicit false

namespace Assay

/-- A variant of a program. -/
structure Mutant where
  /-- The key of the mutant; generated mutants are numbered. -/
  id : Data
  /-- The sort of the alteration. -/
  kind : MutationKind
  /-- The altered program. -/
  mutatedSource : Text
  /-- The program. -/
  originalSource : Text
  /-- Where the program was altered. -/
  range : Range
  /-- What stands there in the altered program. -/
  mutatedText : Text

namespace Mutant

/-- What stands in the program where it was altered. -/
def originalText (m : Mutant) : Text := m.range.substring m.originalSource

/-- The two texts. -/
def description (m : Mutant) : Text := m.originalText ++ " → " ++ m.mutatedText

/-- A mutant in full. -/
def text (m : Mutant) : Text :=
  "[" ++ m.id.plain ++ "] " ++ m.kind.name ++ " " ++ m.range.text ++ ": " ++ m.description

/-- The two texts, each in one line. -/
def display (m : Mutant) : Text := m.originalText.flatten ++ " → " ++ m.mutatedText.flatten

end Mutant

end Assay
