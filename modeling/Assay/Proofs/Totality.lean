import Assay.Proofs.Coverage.Catalogs
import Assay.Proofs.Mutation.Variants

/-!
# Reading is the only step that can fail

A program that was read has catalogs and mutants: the instrumented program and all variants can be
printed, and every range lies in the program.
-/

set_option autoImplicit false

namespace Assay

/-- A tree all of whose nodes can be printed has a text. -/
theorem Node.exists_write {tree : Node} (h : tree.Printable) : ∃ text, tree.write = .ok text := by
  obtain ⟨text, hText⟩ := Print.succeeds_printAt h 0
  exact ⟨text, by simp [Node.write, Node.print, hText]⟩

/-- A node that lies in a text has a range there. -/
theorem Node.exists_locate {code : Text} {node : Node} (h : node.span.Within code.length) :
    ∃ range, node.locate code = .ok range ∧ range.LiesIn code := by
  obtain ⟨range, hRange, hLies⟩ := Range.exists_ofSpan h node.kind.name
  exact ⟨range, by simp [Node.locate, hRange], hLies⟩

namespace Mutation

open Variant Mutate Outcome

variable {code : Text}

/-- The mutant shows the variant, at a range in the text. -/
def Shows (code : Text) (mutant : Mutant) (altered : Altered Node) : Prop :=
  altered.whole.write = .ok mutant.mutatedSource ∧ mutant.range.LiesIn code

/-- A fair variant has a mutant. -/
theorem exists_mutantOf {program : Node} {altered : Altered Node} (id : Nat)
    (h : Fair code.length program altered.reported altered.whole) :
    ∃ mutant, mutantOf code id altered = .ok mutant ∧ Shows code mutant altered := by
  obtain ⟨source, hSource⟩ := Node.exists_write h.printable
  obtain ⟨range, hRange, hLies⟩ := Node.exists_locate h.reported.within
  obtain ⟨text, hText⟩ := Node.exists_write h.reported.printable
  refine ⟨⟨.int id, altered.kind, source, code, range, text⟩, ?_, hSource, hLies⟩
  simp [mutantOf, hSource, hRange, hText]

/-- Fair variants have mutants, and each of these shows one of them. -/
theorem exists_mutantsFrom {program : Node} {variants : List (Altered Node)} (id : Nat)
    (h : ∀ altered ∈ variants, Fair code.length program altered.reported altered.whole) :
    ∃ mutants, mutantsFrom code id variants = .ok mutants ∧
      ∀ mutant ∈ mutants, ∃ altered ∈ variants, Shows code mutant altered := by
  induction variants generalizing id with
  | nil => exact ⟨[], rfl, by simp⟩
  | cons first rest ih =>
    obtain ⟨mutant, hMutant, hShows⟩ := exists_mutantOf id (h first List.mem_cons_self)
    obtain ⟨mutants, hMutants, hRest⟩ :=
      ih (id + 1) fun altered hAltered => h altered (List.mem_cons_of_mem _ hAltered)
    refine ⟨mutant :: mutants, by simp [mutantsFrom, hMutant, hMutants], ?_⟩
    rintro other (_ | ⟨_, hOther⟩)
    · exact ⟨first, List.mem_cons_self, hShows⟩
    · obtain ⟨altered, hAltered, hShows⟩ := hRest other hOther
      exact ⟨altered, List.mem_cons_of_mem _ hAltered, hShows⟩

/-- Without variation the rules are the plain ones. -/
theorem rules_eq_plainRules {config : Config} {sentinel : Text}
    (hSentinel : config.sentinel = .text sentinel) :
    rules config {} = plainRules config.assertion sentinel := by
  simp [rules, hSentinel, Variation.drops, plainRules]

/-- A mutation is generated from a program that is read and printed, from mutants for all its
variants in order, and from the text of what is left of it. -/
theorem generate_eq_ok {config : Config} {detail : Bool} {script : Script} {mutation : Mutation} :
    generate config detail {} script = .ok mutation ↔ ∃ program settled,
      script.read = .ok program ∧ program.write = .ok mutation.beautified ∧
      mutantsFrom script.code 1 (walk (rules config {}) program).altered = .ok mutation.mutants ∧
      (walk (rules config {}) program).settled.write = .ok settled ∧
      mutation.records =
        recordsOf mutation.beautified settled (detail || config.detail) mutation.mutants := by
  have hHandlers : kinds.filter (Variation.drops {}) = [] := by simp [Variation.drops]
  unfold generate
  rw [hHandlers]
  constructor
  · intro h
    obtain ⟨program, hRead, hRest⟩ := bind_eq_ok.1 h
    obtain ⟨beautified, hBeautified, hRest⟩ := bind_eq_ok.1 hRest
    obtain ⟨mutants, hMutants, hRest⟩ := bind_eq_ok.1 hRest
    obtain ⟨settled, hSettled, hRest⟩ := bind_eq_ok.1 hRest
    cases hRest
    exact ⟨program, settled, hRead, hBeautified, hMutants, hSettled, rfl⟩
  · rintro ⟨program, settled, hRead, hBeautified, hMutants, hSettled, hRecords⟩
    simp [hRead, hBeautified, hMutants, hSettled, ← hRecords]

/-- A program that was read has mutants that show its variants, and is left as it was. -/
theorem exists_generate {config : Config} {sentinel : Text}
    (hSentinel : config.sentinel = .text sentinel) (detail : Bool) {script : Script}
    {program : Node} (hGrammar : script.isGrammatical = true)
    (hParse : script.parse = .ok program) :
    ∃ beautified mutants, program.write = .ok beautified ∧
      generate config detail {} script = .ok
        ⟨beautified, mutants, recordsOf beautified beautified (detail || config.detail) mutants⟩ ∧
      ∀ mutant ∈ mutants,
        ∃ altered ∈ (walk (plainRules config.assertion sentinel) program).altered,
          Shows script.code mutant altered := by
  have hFits := (script.parse_fits hGrammar script.isSpelled_any hParse).1
  have hRead : script.read = .ok program := by simp [Script.read, hParse]
  have hRules := rules_eq_plainRules hSentinel
  obtain ⟨beautified, hBeautified⟩ := Node.exists_write
    (hFits.imp fun _ hFits => Print.isPrintable_of_proper hFits.proper)
  obtain ⟨mutants, hMutants, hShows⟩ := exists_mutantsFrom 1 (fair_walk hFits)
  refine ⟨beautified, mutants, hBeautified, generate_eq_ok.mpr ?_, hShows⟩
  exact ⟨program, beautified, hRead, hBeautified, hRules ▸ hMutants,
    by simp [hRules, hBeautified], rfl⟩

end Mutation

namespace Script

/-- Once a program is read nothing can fail any more: it is instrumented and printed, its mutants
are made, and the ranges of all targets and of all mutants lie in it. -/
theorem analysis_total {config : Config} {sentinel : Text}
    (hSentinel : config.sentinel = .text sentinel) {script : Script} {program : Node}
    (hGrammar : script.isGrammatical = true) (hParse : script.parse = .ok program) :
    (∃ modified covers, Coverage.prepare config script = .ok (modified, covers) ∧
      ∀ space, ∀ entry ∈ (covers.get space).catalog, entry.2.LiesIn script.code) ∧
    ∀ detail, ∃ mutation, Mutation.generate config detail {} script = .ok mutation ∧
      ∀ mutant ∈ mutation.mutants, mutant.range.LiesIn script.code := by
  constructor
  · obtain ⟨modified, ranges, hPrepare, hLie, -⟩ :=
      Coverage.exists_prepare config hGrammar hParse
    refine ⟨modified, _, hPrepare, fun space entry hEntry => ?_⟩
    rw [Coverage.catalog_emptyCovers] at hEntry
    have hRange := List.mem_map_of_mem (f := (·.2)) hEntry
    rw [Coverage.map_snd_catalogOf] at hRange
    obtain ⟨target, hTarget, hEq⟩ := List.mem_map.1 hRange
    exact hEq ▸ hLie target (List.mem_of_mem_filter hTarget)
  · intro detail
    obtain ⟨beautified, mutants, -, hGenerate, hShows⟩ :=
      Mutation.exists_generate hSentinel detail hGrammar hParse
    refine ⟨_, hGenerate, fun mutant hMutant => ?_⟩
    obtain ⟨altered, -, -, hLies⟩ := hShows mutant hMutant
    exact hLies

/-- The program `if (a) b?.c;` as it comes from the grammar. -/
def openIf : Script where
  code := "if (a) b?.c;"
  tree :=
    .part .program 0 12 "" [.part .ifStatement 0 12 ""
      [.part .parenthesizedExpression 3 6 "condition" [.part .identifier 4 5 "" []],
       .part .expressionStatement 7 12 "consequence" [.part .memberExpression 7 11 ""
        [.part .identifier 7 8 "object" [], .part (.other "optional_chain") 8 10 "" [],
         .part .propertyIdentifier 10 11 "property" []]]]]

/-- The syntax tree of `if (a) b?.c;`. -/
def openIfTree : Node :=
  .program (.between 0 12) [.ifStatement (.between 0 12) (.identifier (.between 4 5) "a")
    (.expressionStatement (.between 7 12) (.chain (.between 7 11)
      (.member (.between 7 11) (.identifier (.between 7 8) "b")
        (.identifier (.between 10 11) "c") false true))) none]

/-- The arm that is absent has a range too, and so has what takes the place of the test. -/
theorem analysis_total_openIf :
    Config.default.sentinel = .text "__mutated__" ∧ openIf.isGrammatical = true ∧
      openIf.parse = .ok openIfTree ∧
      (∃ modified covers, Coverage.prepare Config.default openIf = .ok (modified, covers) ∧
        ∀ space, ∀ entry ∈ (covers.get space).catalog, entry.2.LiesIn "if (a) b?.c;") ∧
      ∀ detail, ∃ mutation, Mutation.generate Config.default detail {} openIf = .ok mutation ∧
        ∀ mutant ∈ mutation.mutants, mutant.range.LiesIn "if (a) b?.c;" := by
  have hGrammar : openIf.isGrammatical = true := by decide
  have hParse : openIf.parse = .ok openIfTree := rfl
  exact ⟨rfl, hGrammar, hParse, analysis_total rfl hGrammar hParse⟩

end Script

end Assay
