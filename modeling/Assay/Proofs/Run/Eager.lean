import Assay.Proofs.Run.Separate

/-!
# Stopping at the first difference

Scoring stops at the first input whose outcome kills the mutant. It gives what one would find by
observing the mutant on all inputs and then looking for the first outcome that differs from the
expected one, and it evaluates no more than is needed for that: `Score.run_eq_eager`.
-/

set_option autoImplicit false

namespace Assay

/-! ## What is evaluated -/

variable {trace : Trace}

namespace Trial

variable {α : Type}

theorem run_ensuring_close {activity : Trial α} {isolate : Nat} {after : Trace}
    {result : Except Failure α} (h : activity.run.run trace = (result, after)) :
    (ensuring activity (Bench.close isolate)).run.run trace =
      (result, after ++ [Event.closed isolate]) := by
  show ((activity.run >>= fun result => Bench.close isolate >>= fun _ => pure result) :
    Bench (Except Failure α)).run trace = _
  rw [StateT.run_bind, h]
  rfl

end Trial

namespace Observe

/-- The evaluation that loads a program. -/
def loading (config : Config) (source : Text) : Evaluation :=
  ⟨prelude config ++ source, some config.timeout⟩

/-- The evaluation of an input. -/
def probing (config : Config) (input : Data) : Evaluation :=
  ⟨harness input, some config.timeout⟩

/-- The program can be loaded into the isolate that is opened next. -/
def Loads (js : Behaviour) (config : Config) (source : Text) (trace : Trace) : Prop :=
  ∃ value, js trace.isolateCount
    (trace.evaluationsIn trace.isolateCount ++ [loading config source]) = .ok value

/-- The trace after a program was loaded into an isolate of its own. -/
def loadedTrace (config : Config) (source : Text) (trace : Trace) : Trace :=
  trace ++ [.opened, .evaluated trace.isolateCount (loading config source)]

/-- What inputs leave behind in the trace; a program that could not be loaded is not asked. -/
def probes (config : Config) (program : Loaded) (inputs : List Data) : Trace :=
  if program.stuck.isSome then []
  else inputs.map fun input => .evaluated program.isolate (probing config input)

variable {js : Behaviour} {config : Config}

theorem probes_append (program : Loaded) (first second : List Data) :
    probes config program (first ++ second) =
      probes config program first ++ probes config program second := by
  unfold probes
  split <;> simp

/-- What a program that was loaded with the given answer does on every input, if it could not be
loaded. -/
def stuckOf : Except Fault Data → Option Text
  | .ok _ => none
  | .error .timeout => some timeoutOutcome
  | .error fault => some ("load error " ++ fault.firstLine)

theorem stuckOf_eq_none {answer : Except Fault Data} :
    stuckOf answer = none ↔ ∃ value, answer = .ok value := by
  fun_cases stuckOf answer <;> simp

theorem load_eq (source : Text) : load js config source = (do
    let isolate ← Bench.openIsolate
    let answer ← Bench.evaluate js isolate (prelude config ++ source) (some config.timeout)
    return ⟨isolate, stuckOf answer⟩) := by
  unfold load
  congr 1
  funext isolate
  congr 1
  funext answer
  cases answer with
  | ok value => rfl
  | error fault => cases fault <;> rfl

theorem run_load (js : Behaviour) (config : Config) (source : Text) (trace : Trace) :
    ∃ stuck, (Trial.lift (load js config source)).run.run trace =
        (.ok ⟨trace.isolateCount, stuck⟩, loadedTrace config source trace) ∧
      (stuck = none ↔ Loads js config source trace) := by
  have hEvaluations : Trace.evaluationsIn trace.isolateCount
      (trace ++ [Event.opened] ++ [Event.evaluated trace.isolateCount (loading config source)]) =
        trace.evaluationsIn trace.isolateCount ++ [loading config source] := by
    simp [Trace.evaluationsIn]
  have hTrace : trace ++ [Event.opened] ++
      [Event.evaluated trace.isolateCount (loading config source)] =
        loadedTrace config source trace := by
    simp [loadedTrace]
  refine ⟨_, ?_, stuckOf_eq_none⟩
  rw [load_eq, ← hEvaluations, ← hTrace]
  rfl

/-- A program is loaded, used and closed. -/
theorem run_withProgram {α : Type} {source : Text} {events : Trace} {program : Loaded}
    {work : Loaded → Trial α} {result : Except Failure α}
    (hLoad : (Trial.lift (load js config source)).run.run trace =
      (.ok program, loadedTrace config source trace))
    (hWork : (work program).run.run (loadedTrace config source trace) =
      (result, loadedTrace config source trace ++ events)) :
    (withProgram js config source work).run.run trace =
      (result, loadedTrace config source trace ++ events ++ [Event.closed program.isolate]) := by
  rw [withProgram, Trial.run_bind_ok hLoad]
  exact Trial.run_ensuring_close hWork

section Answers

variable {inputs : List Data} (hAnswers : AnswersWell js inputs)

include hAnswers

theorem run_outcome (config : Config) (program : Loaded) {input : Data} (hInput : input ∈ inputs)
    (trace : Trace) :
    ∃ text, (outcome js config program input).run.run trace =
      (.ok text, trace ++ probes config program [input]) := by
  unfold outcome probes
  cases program.stuck with
  | some text => exact ⟨text, by simp; rfl⟩
  | none =>
    rw [Trial.run_bind_ok (Trial.run_evaluate js program.isolate _ _ trace)]
    split
    · exact ⟨_, rfl⟩
    · exact ⟨_, rfl⟩
    · rename_i answer hAnswer
      obtain ⟨text, hText⟩ := hAnswers input hInput _ _ _ answer hAnswer
      rw [hText]
      exact ⟨text, rfl⟩

/-- Each input has one outcome, and is evaluated once. -/
theorem run_outcomes (config : Config) (program : Loaded) {expressions : List Data}
    (hInputs : expressions ⊆ inputs) (trace : Trace) :
    ∃ texts, (outcomes js config program expressions).run.run trace =
        (.ok texts, trace ++ probes config program expressions) ∧
      texts.length = expressions.length := by
  induction expressions generalizing trace with
  | nil => exact ⟨[], by simp [outcomes, probes]; rfl, rfl⟩
  | cons expression rest ih =>
    obtain ⟨hInput, hRest⟩ := List.cons_subset.1 hInputs
    obtain ⟨first, hFirst⟩ := run_outcome hAnswers config program hInput trace
    obtain ⟨others, hOthers, hLength⟩ := ih hRest (trace ++ probes config program [expression])
    refine ⟨first :: others, ?_, by simp [hLength]⟩
    rw [outcomes, Trial.run_bind_ok hFirst, Trial.run_bind_ok hOthers, List.append_assoc,
      ← probes_append]
    rfl

/-- Observing gives one outcome for each input. -/
theorem run_observe (config : Config) (source : Text) (trace : Trace) :
    ∃ texts after, (observe js config source inputs).run.run trace = (.ok texts, after) ∧
      texts.length = inputs.length := by
  obtain ⟨stuck, hLoad, -⟩ := run_load js config source trace
  obtain ⟨texts, hTexts, hLength⟩ := run_outcomes hAnswers config ⟨trace.isolateCount, stuck⟩
    (List.Subset.refl inputs) (loadedTrace config source trace)
  exact ⟨texts, _, run_withProgram hLoad hTexts, hLength⟩

end Answers

end Observe

/-! ## Scoring -/

namespace Score

variable {wanted : Data} {actual : Text} {index : Nat}

/-- At the index there is an outcome that is not the expected one, or that took too long. -/
def DivergesAt (expected : List Data) (outcomes : List Text) (index : Nat) : Prop :=
  ∃ wanted actual, expected[index]? = some wanted ∧ outcomes[index]? = some actual ∧
    (actual = Observe.timeoutOutcome ∨ wanted ≠ .text actual)

/-- The index of the first outcome that kills. -/
def FirstDivergence (expected : List Data) (outcomes : List Text) (index : Nat) : Prop :=
  DivergesAt expected outcomes index ∧ ∀ earlier < index, ¬ DivergesAt expected outcomes earlier

theorem kills_iff :
    kills wanted actual = true ↔ actual = Observe.timeoutOutcome ∨ wanted ≠ .text actual := by
  have hExpected : isExpected actual wanted = true ↔ wanted = .text actual := by
    cases wanted with
    | text wanted => simpa [isExpected] using eq_comm
    | _ => simp [isExpected]
  simp [kills, ← hExpected]

@[simp]
theorem divergesAt_zero {expected : List Data} {outcomes : List Text} :
    DivergesAt (wanted :: expected) (actual :: outcomes) 0 ↔ kills wanted actual = true := by
  simp [DivergesAt, kills_iff]

@[simp]
theorem divergesAt_succ {expected : List Data} {outcomes : List Text} :
    DivergesAt (wanted :: expected) (actual :: outcomes) (index + 1) ↔
      DivergesAt expected outcomes index := by
  simp [DivergesAt]

theorem DivergesAt.lt {expected : List Data} {outcomes : List Text}
    (h : DivergesAt expected outcomes index) : index < min outcomes.length expected.length := by
  obtain ⟨wanted, actual, hWanted, hActual, -⟩ := h
  exact Nat.lt_min.2
    ⟨(List.getElem?_eq_some_iff.1 hActual).1, (List.getElem?_eq_some_iff.1 hWanted).1⟩

/-- What a look at all outcomes says of a mutant: how many inputs there are to try, and which one
kills. -/
inductive Verdict (inputs expected : List Data) (outcomes : List Text) : Nat → Option Kill → Prop
  | survived : (∀ index, ¬ DivergesAt expected outcomes index) →
      Verdict inputs expected outcomes (min inputs.length expected.length) none
  | killed {index : Nat} {kill : Kill} : FirstDivergence expected outcomes index →
      inputs[index]? = some kill.input → expected[index]? = some kill.expected →
      outcomes[index]? = some kill.actual →
      Verdict inputs expected outcomes (index + 1) (some kill)

/-- An input in front that does not kill is one more to try. -/
theorem Verdict.cons {inputs expected : List Data} {outcomes : List Text} {count : Nat}
    {kill : Option Kill} (h : Verdict inputs expected outcomes count kill) (input : Data)
    {wanted : Data} {actual : Text} (hKills : ¬ kills wanted actual = true) :
    Verdict (input :: inputs) (wanted :: expected) (actual :: outcomes) (count + 1) kill := by
  cases h with
  | survived hNone =>
    rw [← Nat.succ_eq_add_one, ← Nat.succ_min_succ]
    refine .survived fun index => ?_
    cases index with
    | zero => simpa using hKills
    | succ index => simpa using hNone index
  | killed hFirst hInput hWanted hActual =>
    refine .killed ⟨divergesAt_succ.2 hFirst.1, fun earlier hEarlier => ?_⟩ hInput hWanted hActual
    cases earlier with
    | zero => simpa using hKills
    | succ earlier => simpa using hFirst.2 earlier (Nat.lt_of_succ_lt_succ hEarlier)

namespace Verdict

variable {inputs expected : List Data} {outcomes : List Text} {count : Nat} {kill : Option Kill}

theorem isSome_iff (h : Verdict inputs expected outcomes count kill) :
    kill.isSome = true ↔ ∃ index, DivergesAt expected outcomes index := by
  cases h with
  | survived hNone => simpa using hNone
  | killed hFirst => exact ⟨fun _ => ⟨_, hFirst.1⟩, fun _ => rfl⟩

theorem of_first (h : Verdict inputs expected outcomes count kill)
    (hFirst : FirstDivergence expected outcomes index) :
    count = index + 1 ∧ ∃ found, kill = some found ∧ inputs[index]? = some found.input ∧
      expected[index]? = some found.expected ∧ outcomes[index]? = some found.actual := by
  cases h with
  | survived hNone => exact absurd hFirst.1 (hNone index)
  | @killed other kill hOther hInput hWanted hActual =>
    -- there is only one first divergence
    obtain rfl : other = index := by
      rcases Nat.lt_trichotomy other index with hLess | hEq | hMore
      · exact absurd hOther.1 (hFirst.2 other hLess)
      · exact hEq
      · exact absurd hFirst.1 (hOther.2 index hMore)
    exact ⟨rfl, kill, rfl, hInput, hWanted, hActual⟩

theorem of_none (h : Verdict inputs expected outcomes count none) :
    count = min inputs.length expected.length := by
  cases h with
  | survived => rfl

end Verdict

/-- The outcomes that a mutant is compared with, and what happened before the mutant is looked at:
without outcomes that are given, the program is observed first, on every input. -/
def Expects (js : Behaviour) (config : Config) (mutant : Mutant) (inputs : List Data)
    (trace : Trace) (expected : Option (List Data)) (wanted : List Data) (before : Trace) : Prop :=
  match expected with
  | some given => wanted = given ∧ before = trace
  | none => ∃ originals,
    (Observe.observe js config mutant.originalSource inputs).run.run trace =
      (.ok originals, before) ∧
    originals.length = inputs.length ∧ wanted = originals.map Data.text

section Answers

variable {js : Behaviour} {inputs : List Data} (hAnswers : Observe.AnswersWell js inputs)

include hAnswers

/-- Trying stops where the verdict on all outcomes says so, and what it evaluates is a beginning of
what gives all outcomes. -/
theorem run_tryEach (config : Config) (program : Observe.Loaded) {expressions : List Data}
    (hInputs : expressions ⊆ inputs) {texts : List Text} {after : Trace}
    (hOutcomes : (Observe.outcomes js config program expressions).run.run trace = (.ok texts, after))
    (expected : List Data) (tried : Nat) :
    ∃ count kill, (tryEach js config program tried (expressions.zip expected)).run.run trace =
        (.ok (tried + count, kill),
          trace ++ Observe.probes config program (expressions.take count)) ∧
      Verdict expressions expected texts count kill := by
  induction expressions generalizing texts trace expected tried with
  | nil =>
    cases hOutcomes
    refine ⟨0, none, by simp [tryEach, Observe.probes]; rfl, ?_⟩
    have hNone : Verdict [] expected [] (min 0 expected.length) none :=
      .survived fun index => by simp [DivergesAt]
    simpa using hNone
  | cons expression rest ih =>
    obtain ⟨hInput, hRest⟩ := List.cons_subset.1 hInputs
    obtain ⟨first, hFirst⟩ := Observe.run_outcome hAnswers config program hInput trace
    obtain ⟨others, hOthers, -⟩ := Observe.run_outcomes hAnswers config program hRest
      (trace ++ Observe.probes config program [expression])
    rw [Observe.outcomes, Trial.run_bind_ok hFirst, Trial.run_bind_ok hOthers] at hOutcomes
    cases hOutcomes
    cases expected with
    | nil =>
      refine ⟨0, none, by simp [tryEach, Observe.probes]; rfl, ?_⟩
      have hNone :
          Verdict (expression :: rest) [] (first :: others) (min (rest.length + 1) 0) none :=
        .survived fun index => by simp [DivergesAt]
      simpa using hNone
    | cons wanted expected =>
      rw [List.zip_cons_cons, tryEach, Trial.run_bind_ok hFirst]
      by_cases hKills : kills wanted first = true
      · rw [if_pos hKills]
        refine ⟨1, some ⟨expression, wanted, first⟩, rfl, .killed ⟨?_, by simp⟩ rfl rfl rfl⟩
        exact divergesAt_zero.2 hKills
      · rw [if_neg hKills]
        obtain ⟨count, kill, hRun, hVerdict⟩ := ih hRest hOthers expected (tried + 1)
        refine ⟨count + 1, kill, ?_, hVerdict.cons expression hKills⟩
        rw [hRun, List.append_assoc, ← Observe.probes_append, Nat.add_assoc, Nat.add_comm 1]
        rfl

/-- With expected outcomes at hand, the mutant is loaded if there is something to try. -/
theorem run_given (config : Config) (mutant : Mutant) (expected : List Data)
    (filePath : Option Text) (trace : Trace) :
    ∃ outcomes after count kill probes,
      (Observe.observe js config mutant.mutatedSource inputs).run.run trace =
        (.ok outcomes, after) ∧ outcomes.length = inputs.length ∧
      Verdict inputs expected outcomes count kill ∧
      (run js config mutant inputs (some expected) filePath).run.run trace =
        (.ok ⟨mutant, count, kill, filePath⟩,
          trace ++ if min inputs.length expected.length = 0 then [] else
            [Event.opened, .evaluated trace.isolateCount
              (Observe.loading config mutant.mutatedSource)] ++
                probes ++ [Event.closed trace.isolateCount]) ∧
      (Observe.Loads js config mutant.mutatedSource trace →
        probes = (inputs.take count).map fun input =>
          .evaluated trace.isolateCount (Observe.probing config input)) ∧
      (¬ Observe.Loads js config mutant.mutatedSource trace → probes = []) := by
  obtain ⟨stuck, hLoad, hLoads⟩ := Observe.run_load js config mutant.mutatedSource trace
  obtain ⟨outcomes, hOutcomes, hLength⟩ := Observe.run_outcomes hAnswers config
    ⟨trace.isolateCount, stuck⟩ (List.Subset.refl inputs)
    (Observe.loadedTrace config mutant.mutatedSource trace)
  obtain ⟨count, kill, hTry, hVerdict⟩ :=
    run_tryEach hAnswers config _ (List.Subset.refl inputs) hOutcomes expected 0
  rw [Nat.zero_add] at hTry
  refine ⟨outcomes, _, count, kill,
    Observe.probes config ⟨trace.isolateCount, stuck⟩ (inputs.take count),
    Observe.run_withProgram hLoad hOutcomes, hLength, hVerdict, ?_, fun hLoaded => ?_,
    fun hFailed => ?_⟩
  · have hZip : (inputs.zip expected).length = min inputs.length expected.length := List.length_zip
    rw [run_some]
    split
    · rename_i hNone
      rw [hNone] at hZip hTry
      have hPair : (0, none) = (count, kill) := Except.ok.inj (congrArg Prod.fst hTry)
      cases hPair
      have hNothing : min inputs.length expected.length = 0 := hZip.symm
      rw [if_pos hNothing, List.append_nil]
      rfl
    · rename_i hSome
      rw [if_neg fun hNone => hSome (List.length_eq_zero_iff.1 (hZip.trans hNone)),
        Trial.run_bind_ok (Observe.run_withProgram hLoad hTry)]
      simp [Observe.loadedTrace]
      rfl
  · rw [hLoads.2 hLoaded]
    rfl
  · obtain ⟨text, rfl⟩ := Option.ne_none_iff_exists'.1 fun hNone => hFailed (hLoads.1 hNone)
    rfl

/-- Scoring starts where there is something to compare the mutant with. -/
theorem exists_expects (config : Config) (mutant : Mutant) (expected : Option (List Data))
    (filePath : Option Text) (trace : Trace) :
    ∃ wanted before, Expects js config mutant inputs trace expected wanted before ∧
      (run js config mutant inputs expected filePath).run.run trace =
        (run js config mutant inputs (some wanted) filePath).run.run before := by
  cases expected with
  | some given => exact ⟨given, trace, ⟨rfl, rfl⟩, rfl⟩
  | none =>
    obtain ⟨originals, before, hObserve, hLength⟩ :=
      Observe.run_observe hAnswers config mutant.originalSource trace
    refine ⟨_, before, ⟨originals, hObserve, hLength, rfl⟩, ?_⟩
    rw [run_none, Trial.run_bind_ok hObserve]

/-- Scoring agrees with looking at all outcomes of the mutant and finding the first that differs
from the expected one. The mutant is loaded only if there is something to try, and then nothing is
evaluated in its isolate but the mutant itself and, if that can be loaded, the inputs that are
tried. -/
theorem run_eq_eager (config : Config) (mutant : Mutant) (expected : Option (List Data))
    (filePath : Option Text) (trace : Trace) :
    ∃ wanted before outcomes after result probes,
      Expects js config mutant inputs trace expected wanted before ∧
      (Observe.observe js config mutant.mutatedSource inputs).run.run before =
        (.ok outcomes, after) ∧
      outcomes.length = inputs.length ∧
      (run js config mutant inputs expected filePath).run.run trace =
        (.ok result, before ++ if min inputs.length wanted.length = 0 then [] else
          [.opened, .evaluated before.isolateCount (Observe.loading config mutant.mutatedSource)] ++
            probes ++ [.closed before.isolateCount]) ∧
      result.mutant = mutant ∧ result.filePath = filePath ∧
      (result.killed = true ↔
        ∃ index < min inputs.length wanted.length, DivergesAt wanted outcomes index) ∧
      (∀ index, FirstDivergence wanted outcomes index → result.testsRun = index + 1 ∧
        ∃ kill, result.kill = some kill ∧ inputs[index]? = some kill.input ∧
          wanted[index]? = some kill.expected ∧ outcomes[index]? = some kill.actual) ∧
      (result.kill = none → result.testsRun = min inputs.length wanted.length) ∧
      (Observe.Loads js config mutant.mutatedSource before →
        probes = (inputs.take result.testsRun).map fun input =>
          .evaluated before.isolateCount (Observe.probing config input)) ∧
      (¬ Observe.Loads js config mutant.mutatedSource before → probes = []) := by
  obtain ⟨wanted, before, hWanted, hSame⟩ :=
    exists_expects hAnswers config mutant expected filePath trace
  obtain ⟨outcomes, after, count, kill, probes, hObserve, hLength, hVerdict, hRun, hProbes⟩ :=
    run_given hAnswers config mutant wanted filePath before
  refine ⟨wanted, before, outcomes, after, ⟨mutant, count, kill, filePath⟩, probes, hWanted,
    hObserve, hLength, hSame.trans hRun, rfl, rfl, ?_, fun _ => hVerdict.of_first, ?_, hProbes⟩
  · refine hVerdict.isSome_iff.trans (exists_congr fun index => ?_)
    exact ⟨fun hDiverges => ⟨hLength ▸ hDiverges.lt, hDiverges⟩, And.right⟩
  · rintro rfl
    exact hVerdict.of_none

end Answers

/-- A mutant of a sum. -/
def difference : Mutant where
  id := .int 1
  kind := .arithmetic
  mutatedSource := "a - b;"
  originalSource := "a + b;"
  range := ⟨⟨1, 0, 0⟩, ⟨1, 5, 5⟩, by decide⟩
  mutatedText := "a - b"

/-- Isolates that give one value for the first input and another one from then on. -/
def wavering : Behaviour := fun _ evaluations =>
  .ok (Suite.answer (if evaluations.length ≤ 2 then "1" else "2"))

theorem wavering_answersWell (inputs : List Data) : Observe.AnswersWell wavering inputs := by
  have hOne : (Observe.outcomeOf (Suite.answer "1")).toOption.isSome = true := by decide +kernel
  have hTwo : (Observe.outcomeOf (Suite.answer "2")).toOption.isSome = true := by decide +kernel
  have hOk {result : Except Failure Text} (h : result.toOption.isSome = true) :
      ∃ text, result = .ok text := by
    cases result with
    | ok text => exact ⟨text, rfl⟩
    | error failure => cases h
  intro expression _ isolate history limit answer hAnswer
  cases hAnswer
  split
  · exact hOk hOne
  · exact hOk hTwo

/-- Of three inputs two have an expected outcome, and the second one kills. -/
theorem run_eq_eager_secondInput :
    Observe.AnswersWell wavering [.text "f(1)", .text "f(2)", .text "f(3)"] ∧
      ∃ result probes, (run wavering Config.default difference
          [.text "f(1)", .text "f(2)", .text "f(3)"] (some [.text "return 1", .text "return 1"])
          none).run.run [] =
        (.ok result, [.opened, .evaluated 0 (Observe.loading Config.default "a - b;")] ++
          probes ++ [.closed 0]) ∧
      result.testsRun = 2 ∧ result.kill = some ⟨.text "f(2)", .text "return 1", "return 2"⟩ ∧
      probes = [.evaluated 0 (Observe.probing Config.default (.text "f(1)")),
        .evaluated 0 (Observe.probing Config.default (.text "f(2)"))] := by
  have hAnswers := wavering_answersWell [.text "f(1)", .text "f(2)", .text "f(3)"]
  obtain ⟨wanted, before, outcomes, after, result, probes, ⟨rfl, rfl⟩, hObserve, hLength, hRun, -, -,
    -, hFirst, -, hLoaded, -⟩ := run_eq_eager hAnswers Config.default difference
      (some [.text "return 1", .text "return 1"]) none []
  have hTexts : ((Observe.observe wavering Config.default difference.mutatedSource
      [.text "f(1)", .text "f(2)", .text "f(3)"]).run.run []).1.toOption =
        some (["return 1", "return 2", "return 2"].map Text.ofString) := by
    decide +kernel
  rw [hObserve] at hTexts
  obtain rfl : outcomes = ["return 1", "return 2", "return 2"].map Text.ofString :=
    Option.some.inj hTexts
  have hSecond : FirstDivergence [.text "return 1", .text "return 1"]
      (["return 1", "return 2", "return 2"].map Text.ofString) 1 := by
    refine ⟨divergesAt_succ.2 (divergesAt_zero.2 (by decide)), fun earlier hEarlier => ?_⟩
    obtain rfl : earlier = 0 := Nat.lt_one_iff.1 hEarlier
    exact mt divergesAt_zero.1 (by decide)
  obtain ⟨hCount, ⟨input, wanted, actual⟩, hKill, hInput, hWanted, hActual⟩ := hFirst 1 hSecond
  cases hInput
  cases hWanted
  cases hActual
  rw [hCount] at hLoaded
  exact ⟨hAnswers, result, probes, hRun, hCount, hKill, hLoaded ⟨_, rfl⟩⟩

end Score

end Assay
