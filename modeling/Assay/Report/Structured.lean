import Assay.Report.Terminal

/-!
# The structured report

The report of a run as JSON: the counts, the coverage of each file, and the mutants that survived.
-/

set_option autoImplicit false

namespace Assay.Report

/-- An object with the given fields. -/
def object (fields : List (String × Data)) : Data :=
  .object (fields.map fun (name, value) => (Text.ofString name, value))

/-- A share, rounded to two places. -/
def rounded (value : Float) : Data := .float (Decimal.roundTo 2 value)

/-- The coverage of one space. -/
def spaceData (cover : CoverSet) : Data :=
  object
    [("covered", .int cover.covered.length), ("total", .int cover.total),
     ("ratio", rounded cover.ratio)]

/-- The coverage of one file. -/
def coverageData (coverage : Coverage) : Data :=
  object (Space.all.map fun space => (space.name, spaceData (coverage.covers.get space)))

/-- A mutant that survived. -/
def survivorData (result : MutantResult) : Data :=
  let m := result.mutant
  object
    [("file", (result.filePath.map Data.text).getD .null), ("id", m.id),
     ("type", .text m.kind.name), ("line", .int m.range.start.line),
     ("column", .int m.range.start.column), ("original", .text m.originalText),
     ("mutated", .text m.mutatedText), ("description", .text m.display)]

/-- The report of a run as data. -/
def structuredData (result : RunResult) : Data :=
  object
    [("target_files", .list (result.targetFiles.map Data.text)),
     ("total_mutants", .int result.totalMutants), ("mutants_tested", .int result.mutantsTested),
     ("killed", .int result.killed), ("survived", .int result.survived.length),
     ("mutation_score", rounded result.score), ("wall_time_seconds", rounded result.wallTime),
     ("coverage",
       .object (result.coverage.map fun (path, coverage) => (path, coverageData coverage))),
     ("survived_mutants", .list (result.survived.map survivorData))]

/-- The report of a run as JSON. -/
def structured (result : RunResult) : Text := Json.indented (structuredData result)

end Assay.Report
