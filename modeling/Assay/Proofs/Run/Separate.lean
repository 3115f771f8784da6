import Assay.Proofs.Run.Independence
import Assay.Proofs.Totality

/-!
# Mutants are scored as if each were alone

A run observes each program once and uses what it saw for all mutants of that program. If isolates
differ in nothing but their numbers, then the result of each mutant is still what scoring it alone
gives, with a look at its program of its own: `Suite.run_eq_separate`. In particular the results for
a file do not depend on the other files.
-/

set_option autoImplicit false

namespace Assay

open Outcome

/-! ## Mutants of a program -/

namespace Mutation

/-- The mutants of a program; a program that cannot be read has none. -/
def mutantsOf (config : Config) (script : Script) : List Mutant :=
  match generate config false {} script with
  | .ok mutation => mutation.mutants
  | .error _ => []

/-- Mutants know their program, and they are numbered in order. -/
theorem of_mutantsFrom {code : Text} {id : Nat} {variants : List (Altered Node)}
    {mutants : List Mutant} (h : mutantsFrom code id variants = .ok mutants) :
    (∀ mutant ∈ mutants, mutant.originalSource = code) ∧
      mutants.map (·.id) = (List.range' id mutants.length).map fun number => .int number := by
  induction variants generalizing id mutants with
  | nil =>
    cases h
    simp
  | cons first rest ih =>
    obtain ⟨mutant, hMutant, hRest⟩ := bind_eq_ok.1 h
    obtain ⟨others, hOthers, hAll⟩ := bind_eq_ok.1 hRest
    obtain ⟨hSource, hIds⟩ := ih hOthers
    cases hAll
    simp only [mutantOf, bind_eq_ok] at hMutant
    obtain ⟨source, -, range, -, text, -, hMutant⟩ := hMutant
    cases hMutant
    refine ⟨List.forall_mem_cons.2 ⟨rfl, hSource⟩, ?_⟩
    simp [hIds, List.range'_succ]

/-- So are the mutants that are generated from a script. -/
theorem of_mutantsOf (config : Config) (script : Script) :
    (∀ mutant ∈ mutantsOf config script, mutant.originalSource = script.code) ∧
      (mutantsOf config script).map (·.id) =
        (List.range' 1 (mutantsOf config script).length).map fun number => .int number := by
  unfold mutantsOf
  cases hGenerate : generate config false {} script with
  | error failure => simp
  | ok mutation =>
    obtain ⟨program, settled, -, -, hMutants, -⟩ := generate_eq_ok.mp hGenerate
    exact of_mutantsFrom hMutants

end Mutation

/-! ## Registers -/

namespace Register

variable {α : Type} {register : Register α} {key : Text} {value : α}

theorem get?_put_self : (put key value register).get? key = some value := by
  induction register with
  | nil => simp [put, get?]
  | cons entry rest ih =>
    by_cases hKey : entry.1 = key
    · simp [put, get?, hKey]
    · simpa [put, get?, hKey] using ih

theorem get?_put_of_ne {other : Text} (h : other ≠ key) :
    (put key value register).get? other = register.get? other := by
  induction register with
  | nil => simp [put, get?, h.symm]
  | cons entry rest ih =>
    by_cases hKey : entry.1 = key
    · simp [put, get?, hKey, h.symm]
    · by_cases hOther : entry.1 = other
      · subst hOther
        simp [put, get?, hKey]
      · simpa [put, get?, hKey, hOther] using ih

end Register

/-! ## Scoring -/

namespace Suite

/-- What is asked of a file: it can be read, and running it on the inputs for coverage does not
fail. -/
structure IsReady (js : Behaviour) (config : Config) (inputs : Data) (file : File) : Prop where
  grammatical : file.script.isGrammatical = true
  parsed : ∃ program, file.script.parse = .ok program
  covered : ∃ coverage, (cover js config file.script inputs).outcome = .ok coverage

/-- The mutants of several files, each with the path of its file. -/
def mutantsIn (config : Config) (store : Store) (files : List (Place × File)) :
    List (Text × Mutant) :=
  files.flatMap fun file =>
    (Mutation.mutantsOf config file.2.script).map (store.pathOf file.1, ·)

end Suite

/-- What comes of scoring a mutant alone, with a look at its program of its own. -/
def Score.alone (js : Behaviour) (config : Config) (inputs : List Data) (path : Text)
    (mutant : Mutant) : Except Failure MutantResult :=
  (run js config mutant inputs none (some path)).outcome

section Uniform

variable {js : Behaviour} (hUniform : js.IsUniform) {config : Config}

include hUniform

/-- A mutant that is scored alone is scored with what comes of observing its program. -/
theorem Score.alone_eq (inputs : List Data) (path : Text) (mutant : Mutant) :
    alone js config inputs path mutant = (do
      let expected ← (Observe.observe js config mutant.originalSource inputs).outcome
      (run js config mutant inputs (some (expected.map Data.text)) (some path)).outcome) := by
  rw [alone, run_none]
  refine Trial.Yields.outcome_eq ?_
  exact (Observe.yields_observe hUniform mutant.originalSource inputs).bind fun expected _ =>
    yields_run hUniform mutant inputs _ (some path)

namespace Suite

omit hUniform in
theorem yields_logAll (records : List (Level × Text)) :
    (Trial.lift (logAll records)).Yields (.ok ()) where
  runs := fun hTrace => by
    have hLogs : Trial.Keeps none (Trial.lift (logAll records)) :=
      Trial.leads_lift (keeps_logAll records)
    exact ⟨rfl, hLogs.orderly _ hTrace⟩

omit hUniform in
theorem yields_log (level : Level) (message : Text) :
    (Trial.lift (Bench.log level message)).Yields (.ok ()) :=
  yields_logAll [(level, message)]

/-- A mutant is scored with what was seen of its program before, which is what scoring it alone
would see. -/
theorem yields_scoreAll {sources : Register Text} {inputs : List Data}
    {known : Register (List Text)} {mutants : List (Text × Mutant)}
    (hKnown : ∀ path expected, known.get? path = some expected →
      (Observe.observe js config ((sources.get? path).getD []) inputs).outcome = .ok expected)
    (hSources : ∀ entry ∈ mutants, sources.get? entry.1 = some entry.2.originalSource) :
    (scoreAll js config sources inputs known mutants).Yields
      (mutants.mapM fun entry => Score.alone js config inputs entry.1 entry.2) := by
  induction mutants generalizing known with
  | nil => exact Trial.yields_pure []
  | cons entry rest ih =>
    obtain ⟨path, mutant⟩ := entry
    obtain ⟨hSource, hRest⟩ := List.forall_mem_cons.1 hSources
    have hProgram : (sources.get? path).getD [] = mutant.originalSource := by simp [hSource]
    have hScore (expected : List Text)
        (hOutcome : (Observe.observe js config mutant.originalSource inputs).outcome =
          .ok expected) :
        Trial.Yields (do
          let first ← Score.run js config mutant inputs (some (expected.map Data.text)) (some path)
          return first :: (← scoreAll js config sources inputs
            (Register.put path expected known) rest)) (do
          let first ← (Score.run js config mutant inputs (some (expected.map Data.text))
            (some path)).outcome
          return first :: (← rest.mapM fun entry =>
            Score.alone js config inputs entry.1 entry.2)) := by
      refine (Score.yields_run hUniform mutant inputs _ _).bind fun first _ => ?_
      refine (ih ?_ hRest).bind fun others _ => Trial.yields_pure (first :: others)
      intro other outcomes hOther
      by_cases hSame : other = path
      · subst hSame
        rw [Register.get?_put_self] at hOther
        cases hOther
        rw [hProgram, hOutcome]
      · rw [Register.get?_put_of_ne hSame] at hOther
        exact hKnown other outcomes hOther
    rw [scoreAll, List.mapM_cons, Score.alone_eq hUniform, bind_assoc]
    cases hPath : known.get? path with
    | some expected =>
      have hOutcome := hProgram ▸ hKnown path expected hPath
      rw [hOutcome]
      exact hScore expected hOutcome
    | none =>
      rw [hProgram]
      exact (Observe.yields_observe hUniform mutant.originalSource inputs).bind hScore

/-- One more file of which the coverage and the mutants are known. -/
theorem yields_surveyFile {store : Store} {inputs target : Data} (survey : Survey) {place : Place}
    {file : File} {coverage : Coverage} {mutation : Mutation}
    (hFile : fileOf store target = .ok (place, file))
    (hCover : (cover js config file.script inputs).outcome = .ok coverage)
    (hMutation : Mutation.generate config false {} file.script = .ok mutation) :
    (surveyFile js config store inputs survey target).Yields (.ok
      ⟨Register.put (store.pathOf place) coverage survey.coverage,
        Register.put (store.pathOf place) file.readText survey.sources,
        survey.mutants ++ mutation.mutants.map fun mutant => (store.pathOf place, mutant)⟩) := by
  have hCovers : (cover js config file.script inputs).Yields (.ok coverage) :=
    hCover ▸ yields_cover hUniform file.script inputs
  unfold surveyFile
  rw [hFile]
  refine (Trial.yields_ofExcept (.ok (place, file))).bind_ok ?_
  refine hCovers.bind_ok ?_
  rw [hMutation]
  refine (Trial.yields_ofExcept (.ok mutation)).bind_ok ?_
  refine (yields_logAll _).bind_ok ?_
  exact (yields_log ..).bind_ok (Trial.yields_pure _)

/-- The files have mutants, and their texts are at hand. -/
theorem exists_surveyAll {sentinel : Text} (hSentinel : config.sentinel = .text sentinel)
    {store : Store} {inputs : Data} {targets : List Data} {files : List (Place × File)}
    (hFiles : targets.map (fileOf store) = files.map .ok)
    (hDistinct : (files.map fun file => store.pathOf file.1).Nodup)
    (hReady : ∀ file ∈ files, IsReady js config inputs file.2) (survey : Survey) :
    ∃ final, (surveyAll js config store inputs survey targets).Yields (.ok final) ∧
      final.mutants = survey.mutants ++ mutantsIn config store files ∧
      (∀ path, path ∉ (files.map fun file => store.pathOf file.1) →
        final.sources.get? path = survey.sources.get? path) ∧
      ∀ file ∈ files, final.sources.get? (store.pathOf file.1) = some file.2.readText := by
  induction files generalizing targets survey with
  | nil =>
    obtain rfl : targets = [] := by simpa using hFiles
    exact ⟨survey, Trial.yields_pure survey, by simp [mutantsIn], by simp, by simp⟩
  | cons first rest ih =>
    obtain ⟨place, file⟩ := first
    match targets, hFiles with
    | target :: targets, hFiles =>
    obtain ⟨hFile, hFiles⟩ := List.cons.inj hFiles
    obtain ⟨hFresh, hDistinct⟩ := List.nodup_cons.1 hDistinct
    obtain ⟨⟨hGrammar, ⟨program, hParse⟩, ⟨coverage, hCover⟩⟩, hReady⟩ :=
      List.forall_mem_cons.1 hReady
    obtain ⟨beautified, mutants, -, hMutation, -⟩ :=
      Mutation.exists_generate hSentinel false hGrammar hParse
    have hFirst := yields_surveyFile hUniform survey hFile hCover hMutation
    obtain ⟨final, hFinal, hMutants, hOthers, hSources⟩ := ih hFiles hDistinct hReady
      ⟨Register.put (store.pathOf place) coverage survey.coverage,
        Register.put (store.pathOf place) file.readText survey.sources,
        survey.mutants ++ mutants.map (store.pathOf place, ·)⟩
    refine ⟨final, ?_, ?_, ?_, ?_⟩
    · exact hFirst.bind_ok hFinal
    · simp [hMutants, mutantsIn, Mutation.mutantsOf, hMutation]
    · intro path hPath
      simp only [List.map_cons, List.mem_cons, not_or] at hPath
      rw [hOthers path hPath.2, Register.get?_put_of_ne hPath.1]
    · refine List.forall_mem_cons.2 ⟨?_, hSources⟩
      rw [hOthers _ hFresh, Register.get?_put_self]

/-- The results are those of the mutants scored alone, or the run fails as the first of these does
that fails. -/
theorem yields_run {sentinel : Text} (hSentinel : config.sentinel = .text sentinel)
    {store : Store} {coverageInputs : Data} {targets : List Data} {files : List (Place × File)}
    (hFiles : targets.map (fileOf store) = files.map .ok)
    (hDistinct : (files.map fun file => store.pathOf file.1).Nodup)
    (hReady : ∀ file ∈ files, IsReady js config coverageInputs file.2) {inputs : List Data}
    (hInputs : inputs ≠ []) :
    ∃ survey : Survey, survey.mutants = mutantsIn config store files ∧
      (run js config store targets coverageInputs (.list inputs)).Yields (do
        let results ← (mutantsIn config store files).mapM fun entry =>
          Score.alone js config inputs entry.1 entry.2
        return ⟨survey.sources.map (·.1), survey.mutants.length, results.length, results, 0.0,
          survey.coverage, survey.sources⟩) := by
  obtain ⟨survey, hSurvey, hMutants, -, hSources⟩ :=
    exists_surveyAll hUniform hSentinel hFiles hDistinct hReady {}
  replace hMutants : survey.mutants = mutantsIn config store files := by simpa using hMutants
  refine ⟨survey, hMutants, hSurvey.bind_ok ?_⟩
  refine Trial.Yields.bind ?_ fun results _ => Trial.yields_pure _
  have hOriginal : ∀ entry ∈ survey.mutants,
      survey.sources.get? entry.1 = some entry.2.originalSource := by
    intro entry hEntry
    rw [hMutants] at hEntry
    obtain ⟨file, hFile, hEntry⟩ := List.mem_flatMap.1 hEntry
    obtain ⟨mutant, hMutant, rfl⟩ := List.mem_map.1 hEntry
    rw [hSources file hFile, (Mutation.of_mutantsOf config file.2.script).1 mutant hMutant]
    rfl
  have hScores : (scoreAll js config survey.sources inputs [] (mutantsIn config store files)).Yields
      ((mutantsIn config store files).mapM fun entry =>
        Score.alone js config inputs entry.1 entry.2) :=
    yields_scoreAll hUniform (by simp [Register.get?]) (hMutants ▸ hOriginal)
  have hTruthy : (Data.list inputs).isTruthy = true := by
    simp [Data.isTruthy, hInputs]
  unfold score
  rw [hTruthy, hMutants]
  cases hEmpty : (mutantsIn config store files).isEmpty with
  | true =>
    rw [List.isEmpty_iff.1 hEmpty]
    exact Trial.yields_pure []
  | false => exact hScores

end Suite

end Uniform

/-! ## Scoring does not fail -/

/-- The activity gives something, whatever happened before. -/
def Trial.Succeeds {α : Type} (activity : Trial α) : Prop :=
  ∀ trace, ∃ value, (activity.run.run trace).1 = .ok value

/-- Whatever the activity gives has the property. -/
def Trial.Ensures {α : Type} (activity : Trial α) (p : α → Prop) : Prop :=
  ∀ trace value, (activity.run.run trace).1 = .ok value → p value

namespace Trial

variable {α β : Type}

theorem succeeds_pure (value : α) : (pure value : Trial α).Succeeds := fun _ => ⟨value, rfl⟩

theorem succeeds_lift (activity : Bench α) : (lift activity).Succeeds := fun _ => ⟨_, rfl⟩

theorem run_bind_ok {activity : Trial α} {rest : α → Trial β} {trace after : Trace} {value : α}
    (h : activity.run.run trace = (.ok value, after)) :
    (activity >>= rest).run.run trace = (rest value).run.run after := by
  rw [ExceptT.run_bind, StateT.run_bind, h]
  rfl

theorem run_bind_error {activity : Trial α} {rest : α → Trial β} {trace after : Trace}
    {failure : Failure} (h : activity.run.run trace = (.error failure, after)) :
    (activity >>= rest).run.run trace = (.error failure, after) := by
  rw [ExceptT.run_bind, StateT.run_bind, h]
  rfl

theorem Succeeds.bind {activity : Trial α} {rest : α → Trial β} (hActivity : activity.Succeeds)
    (hRest : ∀ value, (rest value).Succeeds) : (activity >>= rest).Succeeds := by
  intro trace
  obtain ⟨value, hValue⟩ := hActivity trace
  rw [run_bind_ok (Prod.ext hValue rfl)]
  exact hRest value _

theorem run_evaluate (js : Behaviour) (isolate : Nat) (text : Text) (limit : Option Data)
    (trace : Trace) :
    (lift (Bench.evaluate js isolate text limit)).run.run trace =
      (.ok (js isolate (trace.evaluationsIn isolate ++ [⟨text, limit⟩])),
        trace ++ [Event.evaluated isolate ⟨text, limit⟩]) := by
  have hEvaluations :
      Trace.evaluationsIn isolate (trace ++ [Event.evaluated isolate ⟨text, limit⟩]) =
        trace.evaluationsIn isolate ++ [⟨text, limit⟩] := by
    simp [Trace.evaluationsIn]
  rw [← hEvaluations]
  rfl

theorem succeeds_evaluate_bind {js : Behaviour} {isolate : Nat} {text : Text}
    {limit : Option Data} {rest : Except Fault Data → Trial β}
    (hRest : ∀ history, (rest (js isolate (history ++ [⟨text, limit⟩]))).Succeeds) :
    (lift (Bench.evaluate js isolate text limit) >>= rest).Succeeds := by
  intro trace
  rw [run_bind_ok (run_evaluate js isolate text limit trace)]
  exact hRest _ _

theorem Succeeds.ensuring {activity : Trial α} (hActivity : activity.Succeeds)
    (after : Bench Unit) : (ensuring activity after).Succeeds :=
  fun trace => hActivity trace

theorem ensures_pure {value : α} {p : α → Prop} (h : p value) : (pure value : Trial α).Ensures p := by
  rintro _ _ ⟨⟩
  exact h

theorem ensures_bind {activity : Trial α} {rest : α → Trial β} {p : β → Prop}
    (hRest : ∀ value, (rest value).Ensures p) : (activity >>= rest).Ensures p := by
  intro trace value hValue
  cases hRun : activity.run.run trace with
  | mk result after =>
    cases result with
    | error failure =>
      rw [run_bind_error hRun] at hValue
      cases hValue
    | ok first =>
      rw [run_bind_ok hRun] at hValue
      exact hRest first after value hValue

end Trial

/-- The isolates answer the harness around each input with what it promises. -/
def Observe.AnswersWell (js : Behaviour) (inputs : List Data) : Prop :=
  ∀ expression ∈ inputs, ∀ isolate history limit answer,
    js isolate (history ++ [⟨harness expression, limit⟩]) = .ok answer →
      ∃ text, outcomeOf answer = .ok text

section Answers

variable {js : Behaviour} {inputs : List Data} (hAnswers : Observe.AnswersWell js inputs)
  {config : Config}

include hAnswers

namespace Observe

theorem succeeds_outcome (program : Loaded) {expression : Data} (hInput : expression ∈ inputs) :
    (outcome js config program expression).Succeeds := by
  unfold outcome
  cases program.stuck with
  | some text => exact Trial.succeeds_pure text
  | none =>
    refine Trial.succeeds_evaluate_bind fun history => ?_
    split
    · exact Trial.succeeds_pure _
    · exact Trial.succeeds_pure _
    · rename_i answer hAnswer
      obtain ⟨text, hText⟩ := hAnswers expression hInput _ _ _ answer hAnswer
      rw [hText]
      exact Trial.succeeds_pure text

omit hAnswers in
theorem succeeds_withProgram {α : Type} (source : Text) {work : Loaded → Trial α}
    (hWork : ∀ program, (work program).Succeeds) :
    (withProgram js config source work).Succeeds :=
  (Trial.succeeds_lift _).bind fun program => (hWork program).ensuring _

theorem succeeds_outcomes (program : Loaded) {expressions : List Data}
    (hInputs : expressions ⊆ inputs) :
    (outcomes js config program expressions).Succeeds := by
  induction expressions with
  | nil => exact Trial.succeeds_pure []
  | cons expression rest ih =>
    obtain ⟨hInput, hRest⟩ := List.cons_subset.1 hInputs
    refine (succeeds_outcome hAnswers program hInput).bind fun first => ?_
    exact (ih hRest).bind fun others => Trial.succeeds_pure _

theorem succeeds_observe (source : Text) : (observe js config source inputs).Succeeds :=
  succeeds_withProgram source fun program =>
    succeeds_outcomes hAnswers program (List.Subset.refl inputs)

end Observe

namespace Score

theorem succeeds_tryEach (program : Observe.Loaded) (tried : Nat) {pairs : List (Data × Data)}
    (hInputs : ∀ pair ∈ pairs, pair.1 ∈ inputs) :
    (tryEach js config program tried pairs).Succeeds := by
  induction pairs generalizing tried with
  | nil => exact Trial.succeeds_pure _
  | cons pair rest ih =>
    obtain ⟨hInput, hRest⟩ := List.forall_mem_cons.1 hInputs
    refine (Observe.succeeds_outcome hAnswers program hInput).bind fun actual => ?_
    split
    · exact Trial.succeeds_pure _
    · exact ih (tried + 1) hRest

theorem succeeds_run (mutant : Mutant) (expected : Option (List Data)) (filePath : Option Text) :
    (run js config mutant inputs expected filePath).Succeeds := by
  have hSome (expected : List Data) :
      (run js config mutant inputs (some expected) filePath).Succeeds := by
    rw [run_some]
    split
    · exact Trial.succeeds_pure _
    · refine (Observe.succeeds_withProgram _ fun program => ?_).bind fun _ =>
        Trial.succeeds_pure _
      exact succeeds_tryEach hAnswers program 0 fun pair hPair => (List.of_mem_zip hPair).1
  cases expected with
  | some expected => exact hSome expected
  | none =>
    rw [run_none]
    exact (Observe.succeeds_observe hAnswers _).bind fun outcomes => hSome _

end Score

end Answers

/-- The result of scoring names the mutant and its file. -/
theorem Score.ensures_run {js : Behaviour} {config : Config} (mutant : Mutant)
    (inputs : List Data) (expected : Option (List Data)) (filePath : Option Text) :
    (run js config mutant inputs expected filePath).Ensures fun result =>
      result.mutant = mutant ∧ result.filePath = filePath := by
  have hSome (expected : List Data) :
      (run js config mutant inputs (some expected) filePath).Ensures fun result =>
        result.mutant = mutant ∧ result.filePath = filePath := by
    rw [run_some]
    split
    · exact Trial.ensures_pure ⟨rfl, rfl⟩
    · exact Trial.ensures_bind fun _ => Trial.ensures_pure ⟨rfl, rfl⟩
  cases expected with
  | some expected => exact hSome expected
  | none =>
    rw [run_none]
    exact Trial.ensures_bind fun outcomes => hSome _

theorem Score.alone_names {js : Behaviour} {config : Config} {inputs : List Data} {path : Text}
    {mutant : Mutant} {result : MutantResult}
    (h : alone js config inputs path mutant = .ok result) :
    result.mutant = mutant ∧ result.filePath = some path :=
  ensures_run mutant inputs none (some path) [] result h

/-- Results of mutants scored alone name these mutants in order. -/
theorem Score.map_mutant {js : Behaviour} {config : Config} {inputs : List Data} {path : Text}
    {mutants : List Mutant} {results : List MutantResult}
    (h : results.map .ok = mutants.map (alone js config inputs path)) :
    results.map (·.mutant) = mutants := by
  induction mutants generalizing results with
  | nil => simpa using h
  | cons mutant rest ih =>
    match results, h with
    | result :: others, h =>
    obtain ⟨hFirst, hOthers⟩ := List.cons.inj h
    simp [(alone_names hFirst.symm).1, ih hOthers]

/-! ## Results file by file -/

theorem exists_mapM {α β ε : Type} {f : α → Except ε β} {xs : List α}
    (h : ∀ x ∈ xs, Succeeds (f x)) : ∃ ys, xs.mapM f = .ok ys ∧ ys.map .ok = xs.map f := by
  induction xs with
  | nil => exact ⟨[], rfl, rfl⟩
  | cons x xs ih =>
    obtain ⟨⟨y, hFirst⟩, hRest⟩ := List.forall_mem_cons.1 h
    obtain ⟨ys, hYs, hMap⟩ := ih hRest
    exact ⟨y :: ys, by simp [List.mapM_cons, hFirst, hYs], by simp [hFirst, hMap]⟩

namespace Suite

/-- The results for one path are those of the mutants with this path. -/
theorem filter_results {score : Text × Mutant → Except Failure MutantResult}
    (hScore : ∀ entry result, score entry = .ok result → result.filePath = some entry.1)
    {entries : List (Text × Mutant)} {results : List MutantResult}
    (hResults : results.map .ok = entries.map score) (path : Text) :
    (results.filter (·.filePath = some path)).map .ok =
      (entries.filter (·.1 = path)).map score := by
  induction entries generalizing results with
  | nil =>
    obtain rfl : results = [] := by simpa using hResults
    rfl
  | cons entry rest ih =>
    match results, hResults with
    | result :: others, hResults =>
    obtain ⟨hFirst, hOthers⟩ := List.cons.inj hResults
    have hPath := hScore entry result hFirst.symm
    by_cases hSame : entry.1 = path
    · simp [hPath, hSame, hFirst, ih hOthers]
    · simp [hPath, hSame, ih hOthers]

/-- Among the mutants of files with different paths, one path has the mutants of one file. -/
theorem filter_mutantsIn {config : Config} {store : Store} {files : List (Place × File)}
    (hDistinct : (files.map fun file => store.pathOf file.1).Nodup) {file : Place × File}
    (hFile : file ∈ files) :
    (mutantsIn config store files).filter (·.1 = store.pathOf file.1) =
      (Mutation.mutantsOf config file.2.script).map (store.pathOf file.1, ·) := by
  induction files with
  | nil => cases hFile
  | cons first rest ih =>
    obtain ⟨hFresh, hDistinct⟩ := List.nodup_cons.1 hDistinct
    have hNone {other : Place × File} {path : Text} (h : store.pathOf other.1 ≠ path) :
        ((Mutation.mutantsOf config other.2.script).map (store.pathOf other.1, ·)).filter
          (·.1 = path) = [] := by
      simp [List.filter_eq_nil_iff, h]
    have hCons : mutantsIn config store (first :: rest) =
        (Mutation.mutantsOf config first.2.script).map (store.pathOf first.1, ·) ++
          mutantsIn config store rest := rfl
    rw [hCons, List.filter_append]
    rcases List.mem_cons.1 hFile with rfl | hRest
    · have hOthers : (mutantsIn config store rest).filter (·.1 = store.pathOf file.1) = [] := by
        rw [mutantsIn, List.filter_flatMap, List.flatMap_eq_nil_iff]
        intro other hOther
        refine hNone fun hSame => hFresh ?_
        exact List.mem_map.2 ⟨other, hOther, hSame⟩
      simp [hOthers]
    · have hOther : store.pathOf first.1 ≠ store.pathOf file.1 := by
        intro hSame
        exact hFresh (List.mem_map.2 ⟨file, hRest, hSame.symm⟩)
      rw [hNone hOther, List.nil_append, ih hDistinct hRest]

/-- Files with different paths are scored file by file and mutant by mutant, and what comes of a
mutant is what comes of scoring it alone, so that the results for a file are the same whatever other
files there are. The isolates may answer as they like, as long as their numbers make no difference
and they answer the harness as it promises. -/
theorem run_eq_separate {js : Behaviour} (hUniform : js.IsUniform) {config : Config}
    {sentinel : Text} (hSentinel : config.sentinel = .text sentinel) {store : Store}
    {coverageInputs : Data} {targets : List Data} {files : List (Place × File)}
    (hFiles : targets.map (fileOf store) = files.map .ok)
    (hDistinct : (files.map fun file => store.pathOf file.1).Nodup)
    (hReady : ∀ file ∈ files, IsReady js config coverageInputs file.2) {inputs : List Data}
    (hInputs : inputs ≠ []) (hAnswers : Observe.AnswersWell js inputs) :
    ∃ result, (run js config store targets coverageInputs (.list inputs)).outcome = .ok result ∧
      result.totalMutants =
        ((files.map fun file => (Mutation.mutantsOf config file.2.script).length).sum : Nat) ∧
      result.mutantsTested = result.totalMutants ∧
      result.results.map .ok = files.flatMap (fun file =>
        (Mutation.mutantsOf config file.2.script).map
          (Score.alone js config inputs (store.pathOf file.1))) ∧
      ∀ file ∈ files,
        let own := result.results.filter (·.filePath = some (store.pathOf file.1))
        own.map .ok = (Mutation.mutantsOf config file.2.script).map
          (Score.alone js config inputs (store.pathOf file.1)) ∧
        own.map (·.mutant.id) = (List.range' 1 own.length).map fun number => .int number := by
  obtain ⟨survey, hMutants, hRun⟩ :=
    yields_run hUniform hSentinel hFiles hDistinct hReady hInputs
  have hSucceeds : ∀ entry ∈ mutantsIn config store files,
      Succeeds (Score.alone js config inputs entry.1 entry.2) :=
    fun entry _ => Score.succeeds_run hAnswers entry.2 none (some entry.1) []
  obtain ⟨results, hResults, hSeparate⟩ := exists_mapM hSucceeds
  have hOutcome := hRun.outcome_eq
  rw [hResults] at hOutcome
  refine ⟨_, hOutcome, ?_, ?_, ?_, ?_⟩
  · simp [hMutants, mutantsIn, List.length_flatMap]
  · have hLength := congrArg List.length hSeparate
    simp only [List.length_map] at hLength
    simp [hMutants, hLength]
  · simp only [hSeparate, mutantsIn, List.map_flatMap, List.map_map]
    rfl
  · intro file hFile own
    have hOwn := filter_results (fun _ _ hResult => (Score.alone_names hResult).2) hSeparate
      (store.pathOf file.1)
    rw [filter_mutantsIn hDistinct hFile, List.map_map] at hOwn
    have hIds := (Mutation.of_mutantsOf config file.2.script).2
    rw [← Score.map_mutant hOwn, List.map_map, List.length_map] at hIds
    exact ⟨hOwn, hIds⟩

/-- A file with one operation on `a` and `b`. -/
def operation (operator : String) : File where
  text := "a " ++ Text.ofString operator ++ " b;"
  tree :=
    .part .program 0 6 "" [.part .expressionStatement 0 6 "" [.part .binaryExpression 0 5 ""
      [.part .identifier 0 1 "left" [], .part (.other operator) 2 3 "operator" [],
       .part .identifier 4 5 "right" []]]]

/-- A store with two operations. -/
def twoOperations : Store where
  root := "/project"
  files := [(["minus.js"], operation "-"), (["less.js"], operation "<")]

/-- What the harness gives for a value. -/
def answer (value : String) : Data :=
  .text ("\x7b\"ok\": true, \"value\": \"" ++ Text.ofString value ++ "\"\x7d")

/-- Isolates that tell whether the length of what they loaded is odd, and have reached nothing. -/
def parity : Behaviour := fun _ evaluations =>
  if evaluations.getLast?.any (·.text = Coverage.harvestSource) then .ok (.text "\x7b\x7d")
  else .ok (answer (if (evaluations.headD ⟨[], none⟩).text.length % 2 = 0 then "even" else "odd"))

theorem parity_answersWell : Observe.AnswersWell parity [.text "a - b"] := by
  have hEven : (Observe.outcomeOf (answer "even")).toOption = some "return even" := by
    decide +kernel
  have hOdd : (Observe.outcomeOf (answer "odd")).toOption = some "return odd" := by
    decide +kernel
  have hOk {result : Except Failure Text} {text : Text} (h : result.toOption = some text) :
      ∃ text, result = .ok text := by
    cases result with
    | ok text => exact ⟨text, rfl⟩
    | error failure => cases h
  intro expression hExpression isolate history limit given hGiven
  obtain rfl := List.mem_singleton.1 hExpression
  have hHarness : Observe.harness (.text "a - b") ≠ Coverage.harvestSource := by decide
  simp only [parity, List.getLast?_concat, Option.any_some, hHarness, decide_false] at hGiven
  rw [if_neg Bool.false_ne_true] at hGiven
  cases hGiven
  split
  · exact hOk hEven
  · exact hOk hOdd

set_option maxRecDepth 10000 in
theorem parity_isReady :
    ∀ file ∈ twoOperations.files, IsReady parity Config.default (.list [.list []]) file.2 := by
  intro file hFile
  simp only [twoOperations, List.mem_cons, List.not_mem_nil, or_false] at hFile
  rcases hFile with rfl | rfl
  · exact ⟨by decide, ⟨_, rfl⟩, ⟨_, rfl⟩⟩
  · exact ⟨by decide, ⟨_, rfl⟩, ⟨_, rfl⟩⟩

/-- Two files with three mutants; those of the second file have the numbers one and two. -/
theorem run_eq_separate_twoOperations :
    parity.IsUniform ∧ Observe.AnswersWell parity [.text "a - b"] ∧
      ∃ result, (run parity Config.default twoOperations [.text "minus.js", .text "less.js"]
          (.list [.list []]) (.list [.text "a - b"])).outcome = .ok result ∧
        result.totalMutants = 3 ∧ result.mutantsTested = 3 ∧
        result.results.map .ok = twoOperations.files.flatMap (fun file =>
          (Mutation.mutantsOf Config.default file.2.script).map
            (Score.alone parity Config.default [.text "a - b"] (twoOperations.pathOf file.1))) ∧
        (result.results.filter (·.filePath = some (twoOperations.pathOf ["less.js"]))).map
          (·.mutant.id) = [.int 1, .int 2] := by
  have hUniform : parity.IsUniform := fun _ _ _ => rfl
  have hFiles : [Data.text "minus.js", .text "less.js"].map (fileOf twoOperations) =
      twoOperations.files.map .ok := rfl
  obtain ⟨result, hResult, hTotal, hTested, hAll, hOwn⟩ := run_eq_separate hUniform rfl hFiles
    (by decide) parity_isReady (List.cons_ne_nil _ _) parity_answersWell
  have hCount : (twoOperations.files.map fun file =>
      (Mutation.mutantsOf Config.default file.2.script).length) = [1, 2] := rfl
  rw [hCount] at hTotal
  obtain ⟨hOwn, hIds⟩ := hOwn (["less.js"], operation "<") (by simp [twoOperations])
  have hLength := congrArg List.length hOwn
  rw [List.length_map, List.length_map] at hLength
  rw [hLength] at hIds
  exact ⟨hUniform, parity_answersWell, result, hResult, hTotal, hTested.trans hTotal, hAll, hIds⟩

end Suite

end Assay
