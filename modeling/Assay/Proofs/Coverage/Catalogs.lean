import Assay.Proofs.Concrete.Formation
import Assay.Proofs.Coverage.Completeness
import Assay.Proofs.Coverage.Correspondence
import Assay.Proofs.Coverage.Printable

/-!
# The catalogs of a program

A program that was read can be instrumented and printed, and its catalogs have the ranges of the
places that are counted in it, each as often as it is counted: `Coverage.catalogs_complete`.
-/

set_option autoImplicit false

namespace Assay

/-- The range lies in the text. -/
def Range.LiesIn (code : Text) (range : Range) : Prop :=
  0 ≤ range.start.index ∧ range.start.index ≤ range.stop.index ∧ range.stop.index ≤ code.length

/-- What lies in a text has a range there. -/
theorem Range.exists_ofSpan {code : Text} {span : Span} (h : span.Within code.length)
    (kind : String) : ∃ range, Range.ofSpan code kind span = .ok range ∧ range.LiesIn code := by
  obtain ⟨start, stop, rfl, hStart, hOrder, hStop⟩ := h
  refine ⟨⟨Position.ofIndex code start, Position.ofIndex code stop, hOrder⟩, ?_, ?_⟩
  · exact dif_pos hOrder
  · exact ⟨hStart, hOrder, hStop⟩

/-- Programs that were read: their nodes fit, and what is counted in them can be found. -/
theorem Script.surveyed {script : Script} {program : Node} (hGrammar : script.isGrammatical = true)
    (hParse : script.parse = .ok program) :
    program.Surveyed Lexicon.any script.code.length := by
  obtain ⟨hFits, hRoot⟩ := script.parse_fits hGrammar script.isSpelled_any hParse
  refine ⟨hFits, ?_⟩
  rcases hRoot with hRoot | hRoot
  · cases program <;> first | rfl | cases hRoot
  · exact Node.isSurveyed_of_isFree hRoot

namespace Coverage

open View Target Outcome

/-- Targets that lie in the text have ranges there. -/
theorem exists_rangesOf {code : Text} {targets : List Target}
    (h : ∀ target ∈ targets, target.span.Within code.length) :
    ∃ ranges, rangesOf code targets = .ok ranges ∧ (∀ entry ∈ ranges, entry.2.LiesIn code) ∧
      ∀ kind, ranges.map (fun entry => (entry.1, Except.ok entry.2)) =
        targets.map fun target => (target.space, Range.ofSpan code kind target.span) := by
  induction targets with
  | nil => exact ⟨[], rfl, by simp, by simp⟩
  | cons target rest ih =>
    obtain ⟨range, hRange, hLies⟩ :=
      Range.exists_ofSpan (h target List.mem_cons_self) target.kind.name
    obtain ⟨others, hOthers, hLie, hMap⟩ :=
      ih (List.forall_mem_cons.1 h).2
    refine ⟨(target.space, range) :: others, ?_, ?_, ?_⟩
    · simp [rangesOf, hRange, hOthers]
    · simp only [List.mem_cons, forall_eq_or_imp]
      exact ⟨hLies, hLie⟩
    · intro kind
      simp [Range.ofSpan_kind hRange kind, hMap kind]

/-- The cover sets of a program in which nothing was reached yet. -/
def emptyCovers (ranges : List (Space × Range)) : Covers :=
  ⟨⟨catalogOf .func ranges, []⟩, ⟨catalogOf .stmt ranges, []⟩, ⟨catalogOf .branch ranges, []⟩⟩

theorem catalog_emptyCovers (ranges : List (Space × Range)) (space : Space) :
    ((emptyCovers ranges).get space).catalog = catalogOf space ranges := by
  cases space <;> rfl

/-- The ranges in the catalog of a space. -/
theorem map_snd_catalogOf (space : Space) (ranges : List (Space × Range)) :
    (catalogOf space ranges).map (·.2) = (ranges.filter (·.1 = space)).map (·.2) := by
  have hFirst := List.zipIdx_map_fst 0 (ranges.filter (·.1 = space))
  unfold catalogOf
  rw [List.map_map]
  conv_rhs => rw [← hFirst, List.map_map]
  rfl

/-- A program that was read can be instrumented and printed, and the ranges of its targets are
those of the places that are counted in it. -/
theorem exists_prepare (config : Config) {script : Script} {program : Node}
    (hGrammar : script.isGrammatical = true) (hParse : script.parse = .ok program) :
    ∃ modified ranges, prepare config script = .ok (modified, emptyCovers ranges) ∧
      (∀ entry ∈ ranges, entry.2.LiesIn script.code) ∧
      ∀ kind, (ranges.map fun entry => (entry.1, Except.ok entry.2)).Perm
        ((gather Node.spots (ofNode program)).map fun spot =>
          (spot.1, Range.ofSpan script.code kind spot.2)) := by
  have hSurveyed := Script.surveyed hGrammar hParse
  have hPerm := Instrument.perm_spots hSurveyed (rfl : program.instrument config.handle = (_, _))
  have hWithin : ∀ target ∈ (program.instrument config.handle).2,
      target.span.Within script.code.length := by
    intro target hTarget
    have hSpot := hPerm.subset (List.mem_map_of_mem hTarget)
    obtain ⟨node, hNode, hSpot⟩ :=
      exists_of_mem_gather (fun _ => rfl) hSurveyed.fits hSpot
    exact Node.within_of_mem_spots hNode hSpot
  obtain ⟨ranges, hRanges, hLie, hMap⟩ := exists_rangesOf hWithin
  have hPrintable : (program.instrument config.handle).1.Printable :=
    Instrument.printable_walk config.handle program
      (hSurveyed.fits.imp fun _ hFits => Print.isPrintable_of_proper hFits.proper) []
  obtain ⟨modified, hModified⟩ := Print.succeeds_printAt hPrintable 0
  refine ⟨modified, ranges, ?_, hLie, ?_⟩
  · have hRead : script.read = .ok program := by simp [Script.read, hParse]
    have hWrite : (program.instrument config.handle).1.write = .ok modified := by
      simp [Node.write, Node.print, hModified]
    simp [prepare, hRead, hRanges, hWrite, emptyCovers]
  · intro kind
    rw [hMap kind]
    have hMapped := hPerm.map fun spot => (spot.1, Range.ofSpan script.code kind spot.2)
    rwa [List.map_map] at hMapped

/-- The catalogs of a program are complete and have nothing twice: the ranges in the catalog of a
space are, up to their order, those of the places that are counted in the space, for each node of
the program. -/
theorem catalogs_complete (config : Config) {script : Script} {program : Node}
    (hGrammar : script.isGrammatical = true) (hParse : script.parse = .ok program) :
    ∃ modified covers, prepare config script = .ok (modified, covers) ∧
      ∀ space kind, ((covers.get space).catalog.map fun entry => Except.ok entry.2).Perm
        (((gather Node.spots (ofNode program)).filter (·.1 = space)).map fun spot =>
          Range.ofSpan script.code kind spot.2) := by
  obtain ⟨modified, ranges, hPrepare, -, hPerm⟩ := exists_prepare config hGrammar hParse
  refine ⟨modified, emptyCovers ranges, hPrepare, fun space kind => ?_⟩
  have hSpace := ((hPerm kind).filter (·.1 = space)).map (·.2)
  rw [List.filter_map, List.filter_map, List.map_map, List.map_map] at hSpace
  have hCatalog := congrArg (List.map fun range => (Except.ok range : Except RangeError Range))
    (map_snd_catalogOf space ranges)
  rw [List.map_map, List.map_map] at hCatalog
  rw [catalog_emptyCovers]
  exact (List.Perm.of_eq hCatalog).trans hSpace

/-- The program `(a = 1) => a && b` as it comes from the grammar. -/
def defaultedArrow : Script where
  code := "(a = 1) => a && b"
  tree :=
    .part .program 0 17 "" [.part .expressionStatement 0 17 "" [.part .arrowFunction 0 17 ""
      [.part (.other "formal_parameters") 0 7 "parameters"
        [.part .assignmentPattern 1 6 ""
          [.part .identifier 1 2 "left" [], .part .numberLiteral 5 6 "right" []]],
       .part .binaryExpression 11 17 "body"
        [.part .identifier 11 12 "left" [], .part (.other "&&") 13 15 "operator" [],
         .part .identifier 16 17 "right" []]]]]

/-- The syntax tree of `(a = 1) => a && b`. -/
def defaultedArrowTree : Node :=
  .program (.between 0 17) [.expressionStatement (.between 0 17)
    (.function .arrow (.between 0 17) none
      [.assignmentPattern (.between 1 6) (.identifier (.between 1 2) "a")
        (.literal (.between 5 6) (.int 1) (some "1") none)]
      (.logical (.between 11 17) (.identifier (.between 11 12) "a") "&&"
        (.identifier (.between 16 17) "b"))
      false false true)]

/-- The default and the body are statements, and each operand is a branch. -/
theorem catalogs_complete_defaultedArrow :
    defaultedArrow.isGrammatical = true ∧ defaultedArrow.parse = .ok defaultedArrowTree ∧
      ∃ modified covers, prepare Config.default defaultedArrow = .ok (modified, covers) ∧
        ((covers.get .stmt).catalog.map fun entry => Except.ok entry.2).Perm
          [Range.ofSpan "(a = 1) => a && b" "" (.between 11 17),
           Range.ofSpan "(a = 1) => a && b" "" (.between 5 6)] ∧
        ((covers.get .branch).catalog.map fun entry => Except.ok entry.2).Perm
          [Range.ofSpan "(a = 1) => a && b" "" (.between 11 12),
           Range.ofSpan "(a = 1) => a && b" "" (.between 16 17)] := by
  have hGrammar : defaultedArrow.isGrammatical = true := by decide
  have hParse : defaultedArrow.parse = .ok defaultedArrowTree := rfl
  obtain ⟨modified, covers, hPrepare, hPerm⟩ :=
    catalogs_complete Config.default hGrammar hParse
  exact ⟨hGrammar, hParse, modified, covers, hPrepare, hPerm .stmt "", hPerm .branch ""⟩

end Coverage

end Assay
