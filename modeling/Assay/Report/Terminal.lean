import Assay.Decimal.Fixed
import Assay.Run.Suite

/-!
# The report for a terminal

A report lists the coverage of each file, and then, for each file, how many of its mutants were
killed and which survived. Files come in the order of their paths.
-/

set_option autoImplicit false

namespace Assay.Report

/-- The share of killed mutants in percent; of no mutants all were killed. -/
def share (killed total : Nat) : Float :=
  if 0 < total then killed.toFloat / total.toFloat * 100.0 else 100.0

/-- The lines on the coverage of a file. -/
def coverageLines (detail : Bool) (path : Text) (coverage : Coverage) : List Text :=
  ("  " ++ Discovery.baseName path) ::
    (Text.lines (coverage.text ⟨false, detail, detail⟩)).map fun line => "    " ++ line

/-- The coverage of all files. -/
def coverageReport (detail : Bool) (coverage : Register Coverage) : Text :=
  Text.join "\n" ((Text.sort (coverage.map (·.1))).flatMap fun path =>
    match coverage.get? path with
    | some entry => coverageLines detail path entry
    | none => [])

/-- The name under which the results without a file are reported. -/
def noFile : Text := "<source>"

/-- The file under which a result is reported. -/
def fileOf (result : MutantResult) : Text :=
  match result.filePath with
  | none | some [] => noFile
  | some path => path

/-- The files of the results, each once and in order. -/
def filesOf (results : List MutantResult) : List Text := Text.sort (results.map fileOf).eraseDups

/-- The line on a mutant that survived. -/
def survivorLine (result : MutantResult) : Text :=
  let m := result.mutant
  "    [" ++ m.id.plain ++ "] " ++ m.kind.name ++ " " ++ m.range.text ++ ": "
    ++ m.display.padRight 40 ++ " SURVIVED"

/-- The lines on the mutants of a file. -/
def fileLines (results : List MutantResult) (path : Text) : List Text :=
  let own := results.filter fun result => fileOf result = path
  let killed := (own.filter (·.killed)).length
  ("  " ++ (Discovery.baseName path).padRight 30 ++ " " ++ Text.ofNat killed ++ "/"
      ++ Text.ofNat own.length ++ " killed (" ++ Decimal.fixed 1 (share killed own.length)
      ++ "%)") ::
    (own.filter (!·.killed)).map survivorLine

/-- The lines at the top of a report. -/
def headLines (result : RunResult) : List Text :=
  let rule := Text.fill 70 '='
  let files := result.targetFiles.length
  ["", rule, "jsprobe coverage and mutation testing", rule,
    "Target: " ++ Text.ofNat files ++ " " ++ (if files = 1 then ("file" : Text) else "files"),
    "Mutants: " ++ Text.ofInt result.totalMutants ++ " generated, "
      ++ Text.ofInt result.mutantsTested ++ " tested",
    ""]

/-- The lines at the bottom of a report. -/
def tailLines (result : RunResult) : List Text :=
  let overall : Text :=
    "Overall: " ++ Text.ofNat result.killed ++ "/" ++ Text.ofInt result.mutantsTested
      ++ " killed (" ++ Decimal.fixed 1 result.score ++ "%) in "
      ++ Decimal.fixed 1 result.wallTime ++ "s"
  if result.mutantsTested = 0 then [[]] else [[], overall, []]

/-- The report of a run. -/
def terminal (result : RunResult) (detail : Bool) : Text :=
  Text.join "\n"
    (headLines result
      ++ (if result.coverage.isEmpty then [] else [coverageReport detail result.coverage, []])
      ++ (filesOf result.results).flatMap (fileLines result.results)
      ++ tailLines result)

end Assay.Report
