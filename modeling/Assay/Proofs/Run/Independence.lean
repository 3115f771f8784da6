import Assay.Proofs.Run.Release

/-!
# Runs do not depend on what happened before

What comes of an evaluation may depend on all that was evaluated in the same isolate. If it depends
on nothing else, then an activity that opens an isolate of its own and closes it in the end gives
the same whenever it is done: the number of the isolate is then all that differs. `Bench.Matches`
compares two activities at two points of time, and `Trial.Yields` says what comes of an activity
whenever it is done.
-/

set_option autoImplicit false

namespace Assay

/-- The number of an isolate makes no difference. -/
def Behaviour.IsUniform (js : Behaviour) : Prop :=
  ∀ isolate other evaluations, js isolate evaluations = js other evaluations

/-- The isolates that are open at two points of time. -/
abbrev Pairing := Option Nat × Option Nat

namespace Trace

/-- Two orderly traces; what was evaluated in the isolates that are open is the same. -/
structure Matching (isolates : Pairing) (trace twin : Trace) : Prop where
  orderly : Orderly isolates.1 trace
  orderly_twin : Orderly isolates.2 twin
  same : isolates.1.map (evaluationsIn · trace) = isolates.2.map (evaluationsIn · twin)

namespace Matching

variable {trace twin : Trace}

theorem of_orderly (hTrace : Orderly none trace) (hTwin : Orderly none twin) :
    Matching (none, none) trace twin :=
  ⟨hTrace, hTwin, rfl⟩

/-- Nothing was evaluated yet in an isolate that is opened. -/
theorem opened (h : Matching (none, none) trace twin) :
    Matching (some trace.isolateCount, some twin.isolateCount) (trace ++ [Event.opened])
      (twin ++ [Event.opened]) where
  orderly := .opened h.orderly
  orderly_twin := .opened h.orderly_twin
  same := by
    simp [evaluationsIn, h.orderly.evaluationsIn_eq_nil, h.orderly_twin.evaluationsIn_eq_nil]

theorem same_evaluations {isolate other : Nat}
    (h : Matching (some isolate, some other) trace twin) :
    trace.evaluationsIn isolate = twin.evaluationsIn other :=
  Option.some.inj h.same

theorem evaluated {isolate other : Nat} (h : Matching (some isolate, some other) trace twin)
    (evaluation : Evaluation) :
    Matching (some isolate, some other) (trace ++ [Event.evaluated isolate evaluation])
      (twin ++ [Event.evaluated other evaluation]) where
  orderly := .evaluated evaluation h.orderly
  orderly_twin := .evaluated evaluation h.orderly_twin
  same := by simp [evaluationsIn, h.same_evaluations]

theorem closed {isolate other : Nat} (h : Matching (some isolate, some other) trace twin) :
    Matching (none, none) (trace ++ [Event.closed isolate]) (twin ++ [Event.closed other]) :=
  of_orderly (.closed h.orderly) (.closed h.orderly_twin)

theorem logged {isolates : Pairing} (h : Matching isolates trace twin) (level : Level)
    (message : Text) :
    Matching isolates (trace ++ [Event.logged level message])
      (twin ++ [Event.logged level message]) where
  orderly := .logged level message h.orderly
  orderly_twin := .logged level message h.orderly_twin
  same := by simpa [evaluationsIn] using h.same

end Matching

end Trace

/-! ## Activities at two points of time -/

/-- The two activities give related results, and what is evaluated stays the same. -/
structure Bench.Matches {α β : Type} (before : Pairing) (activity : Bench α) (twin : Bench β)
    (related : α → β → Prop) (after : Pairing) : Prop where
  runs : ∀ {trace other : Trace}, Trace.Matching before trace other →
    related (activity.run trace).1 (twin.run other).1 ∧
      Trace.Matching after (activity.run trace).2 (twin.run other).2

namespace Bench

variable {α β γ δ : Type} {before after last : Pairing}

theorem matches_pure {value : α} {other : β} {related : α → β → Prop} (h : related value other) :
    Matches before (pure value) (pure other) related before :=
  ⟨fun hTraces => ⟨h, hTraces⟩⟩

theorem Matches.bind {activity : Bench α} {twin : Bench β} {rest : α → Bench γ}
    {others : β → Bench δ} {related : α → β → Prop} {result : γ → δ → Prop}
    (hActivity : Matches before activity twin related after)
    (hRest : ∀ value other, related value other →
      Matches after (rest value) (others other) result last) :
    Matches before (activity >>= rest) (twin >>= others) result last :=
  ⟨fun hTraces =>
    let ⟨hRelated, hAfter⟩ := hActivity.runs hTraces
    (hRest _ _ hRelated).runs hAfter⟩

/-- Activities that go on with the same result. -/
theorem Matches.bind_eq {activity twin : Bench α} {rest : α → Bench γ} {others : α → Bench δ}
    {result : γ → δ → Prop} (hActivity : Matches before activity twin Eq after)
    (hRest : ∀ value, Matches after (rest value) (others value) result last) :
    Matches before (activity >>= rest) (twin >>= others) result last :=
  hActivity.bind fun value _ hEq => hEq ▸ hRest value

/-- The number of a new isolate may be any. -/
theorem matches_openIsolate_bind {rest : Nat → Bench γ} {others : Nat → Bench δ}
    {result : γ → δ → Prop}
    (h : ∀ isolate other, Matches (some isolate, some other) (rest isolate) (others other) result
      last) :
    Matches (none, none) (openIsolate >>= rest) (openIsolate >>= others) result last :=
  ⟨fun hTraces => (h _ _).runs hTraces.opened⟩

theorem matches_evaluate {js : Behaviour} (hUniform : js.IsUniform) (isolate other : Nat)
    (text : Text) (limit : Option Data) :
    Matches (some isolate, some other) (evaluate js isolate text limit)
      (evaluate js other text limit) Eq (some isolate, some other) where
  runs := fun {trace twin} hTraces => by
    have hAfter := hTraces.evaluated ⟨text, limit⟩
    have hSame : js isolate (Trace.evaluationsIn isolate
        (trace ++ [Event.evaluated isolate ⟨text, limit⟩])) =
          js other (Trace.evaluationsIn other (twin ++ [Event.evaluated other ⟨text, limit⟩])) := by
      rw [hAfter.same_evaluations]
      exact hUniform isolate other _
    exact ⟨hSame, hAfter⟩

theorem matches_close (isolate other : Nat) :
    Matches (some isolate, some other) (close isolate) (close other) Eq (none, none) :=
  ⟨fun hTraces => ⟨rfl, hTraces.closed⟩⟩

theorem matches_log (level : Level) (message : Text) :
    Matches before (log level message) (log level message) Eq before :=
  ⟨fun hTraces => ⟨rfl, hTraces.logged level message⟩⟩

end Bench

/-- The two activities have the same outcome, and what is evaluated stays the same. -/
abbrev Trial.Agree {α : Type} (before : Pairing) (activity twin : Trial α) (after : Pairing) :
    Prop :=
  Bench.Matches before activity.run twin.run Eq after

namespace Trial

variable {α β : Type} {before after : Pairing}

theorem agree_pure (value : α) : Agree before (pure value) (pure value) before :=
  Bench.matches_pure rfl

theorem agree_throw (failure : Failure) :
    Agree before (throw failure : Trial α) (throw failure) before :=
  Bench.matches_pure rfl

/-- A failure ends two activities where they stand, so it has to leave the same isolates open. -/
theorem Agree.bind {activity twin : Trial α} {rest others : α → Trial β}
    (hActivity : Agree before activity twin after)
    (hRest : ∀ value, Agree after (rest value) (others value) after) :
    Agree before (activity >>= rest) (twin >>= others) after := by
  rw [Agree, ExceptT.run_bind, ExceptT.run_bind]
  refine Bench.Matches.bind_eq hActivity fun result => ?_
  cases result with
  | ok value => exact hRest value
  | error failure => exact Bench.matches_pure rfl

theorem agree_lift {activity twin : Bench α} (h : Bench.Matches before activity twin Eq after) :
    Agree before (lift activity) (lift twin) after :=
  h.bind_eq fun _ => Bench.matches_pure rfl

theorem agree_ofExcept {ε : Type} (wrap : ε → Failure) (result : Except ε α) :
    Agree before (ofExcept wrap result) (ofExcept wrap result) before := by
  cases result with
  | ok value => exact agree_pure value
  | error error => exact agree_throw (wrap error)

theorem run_lift_bind (activity : Bench α) (rest : α → Trial β) :
    (lift activity >>= rest).run = activity >>= fun value => (rest value).run := by
  simp [lift, ExceptT.run_bind]

/-- Whenever the activity is done while no isolate is open, the result is what comes of it, and no
isolate is open afterwards. -/
structure Yields (activity : Trial α) (result : Except Failure α) : Prop where
  runs : ∀ {trace : Trace}, Trace.Orderly none trace →
    (activity.run.run trace).1 = result ∧ Trace.Orderly none (activity.run.run trace).2

/-- What comes of the activity at the very beginning. -/
def outcome (activity : Trial α) : Except Failure α := (activity.run.run []).1

theorem Yields.outcome_eq {activity : Trial α} {result : Except Failure α}
    (h : activity.Yields result) : activity.outcome = result :=
  (h.runs .nil).1

/-- An activity that agrees with itself whenever it is done. -/
theorem Agree.yields {activity : Trial α} (h : Agree (none, none) activity activity (none, none)) :
    activity.Yields activity.outcome where
  runs := fun hTrace =>
    let ⟨hEq, hAfter⟩ := h.runs (.of_orderly hTrace .nil)
    ⟨hEq, hAfter.orderly⟩

theorem yields_pure (value : α) : Yields (pure value) (.ok value) :=
  ⟨fun hTrace => ⟨rfl, hTrace⟩⟩

theorem yields_ofExcept (result : Except Failure α) : Yields (ofExcept id result) result := by
  cases result with
  | ok value => exact yields_pure value
  | error failure => exact ⟨fun hTrace => ⟨rfl, hTrace⟩⟩

/-- What is done after an activity does not depend on what the activity left behind. -/
theorem Yields.bind {activity : Trial α} {rest : α → Trial β} {first : Except Failure α}
    {results : α → Except Failure β} (hActivity : activity.Yields first)
    (hRest : ∀ value, first = .ok value → (rest value).Yields (results value)) :
    (activity >>= rest).Yields (first >>= results) where
  runs := fun {trace} hTrace => by
    obtain ⟨hFirst, hAfter⟩ := hActivity.runs hTrace
    rw [ExceptT.run_bind, StateT.run_bind]
    cases hRun : activity.run.run trace with
    | mk result after =>
      rw [hRun] at hFirst hAfter
      subst hFirst
      cases result with
      | error failure => exact ⟨rfl, hAfter⟩
      | ok value => exact (hRest value rfl).runs hAfter

theorem Yields.bind_ok {activity : Trial α} {rest : α → Trial β} {value : α}
    {result : Except Failure β} (hActivity : activity.Yields (.ok value))
    (hRest : (rest value).Yields result) : (activity >>= rest).Yields result := by
  show (activity >>= rest).Yields ((.ok value : Except Failure α) >>= fun _ => result)
  exact hActivity.bind fun _ hValue => Except.ok.inj hValue ▸ hRest

end Trial

/-! ## Observing and scoring -/

section Uniform

variable {js : Behaviour} (hUniform : js.IsUniform) {config : Config}

include hUniform

namespace Observe

theorem agree_outcome (isolate other : Nat) (stuck : Option Text) (expression : Data) :
    Trial.Agree (some isolate, some other) (outcome js config ⟨isolate, stuck⟩ expression)
      (outcome js config ⟨other, stuck⟩ expression) (some isolate, some other) := by
  unfold outcome
  cases stuck with
  | some outcome => exact Trial.agree_pure outcome
  | none =>
    refine (Trial.agree_lift (Bench.matches_evaluate hUniform ..)).bind fun answer => ?_
    split
    · exact Trial.agree_pure _
    · exact Trial.agree_pure _
    · exact Trial.agree_ofExcept ..

theorem matches_load_bind {γ : Type} (source : Text) {rest others : Loaded → Bench γ}
    {last : Pairing} (h : ∀ isolate other stuck, Bench.Matches (some isolate, some other)
      (rest ⟨isolate, stuck⟩) (others ⟨other, stuck⟩) Eq last) :
    Bench.Matches (none, none) (load js config source >>= rest) (load js config source >>= others)
      Eq last := by
  simp only [load, bind_assoc]
  refine Bench.matches_openIsolate_bind fun isolate other => ?_
  refine (Bench.matches_evaluate hUniform isolate other _ _).bind_eq fun result => ?_
  split <;> exact h isolate other _

/-- It does not matter when one works with a program if it does not matter which isolate holds it. -/
theorem agree_withProgram {α : Type} (source : Text) {work : Loaded → Trial α}
    (hWork : ∀ isolate other stuck, Trial.Agree (some isolate, some other)
      (work ⟨isolate, stuck⟩) (work ⟨other, stuck⟩) (some isolate, some other)) :
    Trial.Agree (none, none) (withProgram js config source work)
      (withProgram js config source work) (none, none) := by
  rw [Trial.Agree, withProgram, Trial.run_lift_bind]
  refine matches_load_bind hUniform source fun isolate other stuck => ?_
  refine (hWork isolate other stuck).bind_eq fun result => ?_
  exact (Bench.matches_close isolate other).bind_eq fun _ => Bench.matches_pure rfl

theorem agree_outcomes (isolate other : Nat) (stuck : Option Text) (inputs : List Data) :
    Trial.Agree (some isolate, some other) (outcomes js config ⟨isolate, stuck⟩ inputs)
      (outcomes js config ⟨other, stuck⟩ inputs) (some isolate, some other) := by
  induction inputs with
  | nil => exact Trial.agree_pure _
  | cons expression rest ih =>
    refine (agree_outcome hUniform isolate other stuck expression).bind fun first => ?_
    exact ih.bind fun others => Trial.agree_pure _

theorem yields_observe (source : Text) (inputs : List Data) :
    (observe js config source inputs).Yields (observe js config source inputs).outcome :=
  (agree_withProgram hUniform source fun isolate other stuck =>
    agree_outcomes hUniform isolate other stuck inputs).yields

end Observe

namespace Score

theorem agree_tryEach (isolate other : Nat) (stuck : Option Text) (tried : Nat)
    (pairs : List (Data × Data)) :
    Trial.Agree (some isolate, some other) (tryEach js config ⟨isolate, stuck⟩ tried pairs)
      (tryEach js config ⟨other, stuck⟩ tried pairs) (some isolate, some other) := by
  induction pairs generalizing tried with
  | nil => exact Trial.agree_pure _
  | cons pair rest ih =>
    refine (Observe.agree_outcome hUniform isolate other stuck pair.1).bind fun actual => ?_
    split
    · exact Trial.agree_pure _
    · exact ih (tried + 1)

/-- With expected outcomes at hand, scoring a mutant opens one isolate at most. -/
theorem yields_run (mutant : Mutant) (inputs expected : List Data) (filePath : Option Text) :
    (run js config mutant inputs (some expected) filePath).Yields
      (run js config mutant inputs (some expected) filePath).outcome := by
  apply Trial.Agree.yields
  rw [run_some]
  split
  · exact Trial.agree_pure _
  · refine Trial.Agree.bind ?_ fun _ => Trial.agree_pure _
    exact Observe.agree_withProgram hUniform _ fun isolate other stuck =>
      agree_tryEach hUniform isolate other stuck 0 _

end Score

/-! ## Coverage -/

namespace Coverage

variable {coverage other : Coverage}

theorem matches_load_bind {γ : Type} (modified : Text) {rest others : Option Nat → Bench γ}
    {last : Pairing}
    (h : ∀ isolates : Pairing, isolates.1.isSome = isolates.2.isSome →
      Bench.Matches isolates (rest isolates.1) (others isolates.2) Eq last) :
    Bench.Matches (none, none) (load js config modified >>= rest)
      (load js config modified >>= others) Eq last := by
  simp only [load, bind_assoc]
  refine Bench.matches_openIsolate_bind fun isolate other => ?_
  refine (Bench.matches_evaluate hUniform isolate other _ _).bind_eq fun result => ?_
  cases result with
  | ok _ => exact h (some isolate, some other) rfl
  | error fault =>
    simp only [bind_assoc]
    refine (Bench.matches_close isolate other).bind_eq fun _ => ?_
    exact (Bench.matches_log ..).bind_eq fun _ => h (none, none) rfl

theorem agree_invoke (isolate other : Nat) (arguments : Data) :
    Trial.Agree (some isolate, some other) (invoke js config isolate arguments)
      (invoke js config other arguments) (some isolate, some other) := by
  unfold invoke
  cases arguments.elements? with
  | none => exact Trial.agree_throw _
  | some values =>
    refine (Trial.agree_lift (Bench.matches_evaluate hUniform ..)).bind fun result => ?_
    dsimp only
    split
    case' h_1 => refine (Trial.agree_lift (Bench.matches_log ..)).bind fun _ => ?_
    -- what was reached is asked for in any case
    all_goals
      refine (Trial.agree_lift (Bench.matches_evaluate hUniform ..)).bind fun answer => ?_
      cases answer with
      | error fault => exact Trial.agree_throw _
      | ok value => exact Trial.agree_ofExcept ..

/-- The two coverages are those of the given isolates and differ in nothing else. -/
structure Twins (isolates : Pairing) (coverage other : Coverage) : Prop where
  isolate_eq : coverage.isolate = isolates.1
  other_eq : other = { coverage with isolate := isolates.2 }
  isSome_eq : isolates.1.isSome = isolates.2.isSome

theorem matches_runSingle {isolates : Pairing} (h : Twins isolates coverage other)
    (arguments : Data) :
    Bench.Matches isolates (runSingle js coverage arguments) (runSingle js other arguments)
      (fun first second => Twins isolates first.1 second.1 ∧ first.2 = second.2) isolates := by
  obtain ⟨isolate?, other?⟩ := isolates
  obtain ⟨config, code, modified, covers, own⟩ := coverage
  obtain ⟨rfl, rfl, hSome⟩ := h
  unfold runSingle
  match own, other?, hSome with
  | none, none, _ =>
    exact (Bench.matches_log ..).bind_eq fun _ => Bench.matches_pure ⟨⟨rfl, rfl, rfl⟩, rfl⟩
  | some isolate, some other, _ =>
    refine Bench.Matches.bind_eq (agree_invoke hUniform isolate other arguments) fun result => ?_
    cases result with
    | error failure => exact Bench.matches_pure ⟨⟨rfl, rfl, rfl⟩, rfl⟩
    | ok hits => exact Bench.matches_pure ⟨⟨rfl, rfl, rfl⟩, rfl⟩

theorem matches_runEach {isolates : Pairing} (h : Twins isolates coverage other)
    (inputs : List Data) :
    Bench.Matches isolates (runEach js coverage inputs) (runEach js other inputs)
      (fun first second => Twins isolates first.1 second.1 ∧ first.2 = second.2) isolates := by
  induction inputs generalizing coverage other with
  | nil => exact Bench.matches_pure ⟨h, rfl⟩
  | cons arguments rest ih =>
    refine (matches_runSingle hUniform h arguments).bind ?_
    rintro ⟨next, result⟩ ⟨nextOther, _⟩ ⟨hNext, rfl⟩
    cases result with
    | error failure => exact Bench.matches_pure ⟨hNext, rfl⟩
    | ok _ => exact ih hNext

omit hUniform in
theorem matches_close {isolates : Pairing} (h : Twins isolates coverage other) :
    Bench.Matches isolates (close coverage) (close other) Eq (none, none) := by
  obtain ⟨isolate?, other?⟩ := isolates
  obtain ⟨config, code, modified, covers, own⟩ := coverage
  obtain ⟨rfl, rfl, hSome⟩ := h
  unfold close
  match own, other?, hSome with
  | none, none, _ => exact Bench.matches_pure rfl
  | some isolate, some other, _ =>
    exact (Bench.matches_close isolate other).bind_eq fun _ => Bench.matches_pure rfl

theorem matches_runAndClose {isolates : Pairing} (h : Twins isolates coverage other)
    (inputs : Data) :
    Bench.Matches isolates (runAndClose js coverage inputs) (runAndClose js other inputs) Eq
      (none, none) := by
  have hRun : Bench.Matches isolates (run js coverage inputs) (run js other inputs)
      (fun first second => Twins isolates first.1 second.1 ∧ first.2 = second.2) isolates := by
    unfold run
    cases inputs.elements? with
    | none => exact Bench.matches_pure ⟨h, rfl⟩
    | some inputs => exact matches_runEach hUniform h inputs
  refine hRun.bind ?_
  rintro ⟨next, result⟩ ⟨nextOther, _⟩ ⟨hNext, rfl⟩
  exact (matches_close hNext).bind_eq fun _ => Bench.matches_pure rfl

end Coverage

/-- The coverage of a program depends on the program and the inputs only. -/
theorem Suite.yields_cover (script : Script) (inputs : Data) :
    (cover js config script inputs).Yields (cover js config script inputs).outcome := by
  apply Trial.Agree.yields
  unfold cover Coverage.start
  simp only [bind_assoc]
  refine (Trial.agree_ofExcept ..).bind fun prepared => ?_
  rw [Trial.Agree, Trial.run_lift_bind]
  refine Coverage.matches_load_bind hUniform _ fun isolates hSome => ?_
  have hTwins : Coverage.Twins isolates ⟨config, script.code, prepared.1, prepared.2, isolates.1⟩
      ⟨config, script.code, prepared.1, prepared.2, isolates.2⟩ := ⟨rfl, rfl, hSome⟩
  simp only [pure_bind]
  split
  · refine (Trial.agree_lift (Coverage.matches_runAndClose hUniform hTwins inputs)).bind
      fun outcome => ?_
    obtain ⟨coverage, result⟩ := outcome
    cases result with
    | ok _ => exact Trial.agree_pure _
    | error failure => exact Trial.agree_throw _
  · exact (Trial.agree_lift (Coverage.matches_close hTwins)).bind fun coverage =>
      Trial.agree_pure _

end Uniform

end Assay
