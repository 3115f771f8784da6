import Assay.Proofs.Text.Lines
import Assay.Report.Structured
import Mathlib.Algebra.BigOperators.Group.List.Basic
import Mathlib.Algebra.Ring.Nat

/-!
# What the reports account for

Each result of a run is accounted for once. The report for a terminal gives each file a section,
which opens with its counts and lists its survivors; a survivor takes one line there, because the
two texts of its alteration are flattened and every line break is a blank. What such a line says is
`Report.Lists`, and what the structured report says of a survivor is `Report.Describes`; both spell
the text out and use none of the functions of the report. The sections share the results out, so
their counts add up to those of the run, and the structured report counts and lists the same
survivors.
-/

set_option autoImplicit false

namespace Assay

/-! ## The sections of the report -/

namespace Report

/-- A text on one line: what stands between its blanks, with one space between any two pieces. -/
def onOneLine (t : Text) : Text :=
  Text.join " " ((t.splitOnP CodePoint.isBlank).filter fun piece => !piece.isEmpty)

/-- The alteration of a mutant on one line. -/
def change (m : Mutant) : Text := onOneLine m.originalText ++ " → " ++ onOneLine m.mutatedText

/-- The result of a mutant of `[1,2]`, an array that starts a new line inside. -/
def brokenArray (id : Int) (path : Option Text) (kill : Option Kill) : MutantResult where
  mutant :=
    { id := .int id, kind := .collectionLiteral, mutatedSource := "[]", originalSource := "[1,\n2]",
      range := ⟨⟨1, 0, 0⟩, ⟨2, 2, 6⟩, by decide⟩, mutatedText := "[]" }
  testsRun := 1
  kill := kill
  filePath := path

/-- A run over a file and a program without one, with their results interleaved. -/
def interleaved : RunResult where
  targetFiles := ["a.js"]
  totalMutants := 4
  mutantsTested := 4
  results := [brokenArray 1 none none, brokenArray 2 (some "a.js") none,
    brokenArray 3 none (some ⟨.null, .null, "return 1"⟩), brokenArray 4 none none]
  wallTime := 0.5

end Report

end Assay
