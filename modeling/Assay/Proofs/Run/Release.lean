import Assay.Run.Suite
import Mathlib.Data.List.Basic
import Mathlib.Data.List.Nodup
import Mathlib.Data.List.Range

/-!
# Isolates are released

Isolates are opened one at a time: an isolate is closed before the next one is opened, and in
between it is the only one that evaluates anything. `Trace.Orderly` follows a trace event by event
and keeps track of the isolate that is open. `Bench.Leads` says of an activity which isolate is
open before and after it, and each part of a run has a lemma of this form, so that a run that starts
with nothing open ends so, whether it fails or not: `Suite.run_releases`.
-/

set_option autoImplicit false

namespace Assay

/-! ## Traces -/

variable (isolate : Nat)

/-- The isolate that has to be open for an event to happen. -/
def Event.isolate? : Event → Option Nat
  | .evaluated isolate _ | .closed isolate => some isolate
  | .opened | .logged _ _ => none

namespace Trace

@[simp]
theorem isolateCount_append (before after : Trace) :
    isolateCount (before ++ after) = before.isolateCount + after.isolateCount := by
  fun_induction isolateCount before with
  | case1 => simp
  | case2 rest ih => simp only [List.cons_append, isolateCount, ih]; omega
  | case3 event rest hEvent ih => cases event <;> simp_all [isolateCount]

@[simp]
theorem closings_append (before after : Trace) :
    closings isolate (before ++ after) = before.closings isolate + after.closings isolate := by
  fun_induction closings isolate before with
  | case1 => simp
  | case2 rest number ih => simp only [List.cons_append, closings, ih]; omega
  | case3 event rest hEvent ih => cases event <;> simp_all [closings]

@[simp]
theorem evaluationsIn_append (before after : Trace) :
    evaluationsIn isolate (before ++ after) =
      before.evaluationsIn isolate ++ after.evaluationsIn isolate := by
  fun_induction evaluationsIn isolate before with
  | case1 => simp
  | case2 rest evaluation ih => simp [evaluationsIn, ih]
  | case3 number evaluation rest hNumber ih => simp [evaluationsIn, hNumber, ih]
  | case4 event rest hEvent ih => cases event <;> simp_all [evaluationsIn]

/-- The isolate was opened and is not closed. -/
def IsOpen (trace : Trace) (isolate : Nat) : Prop :=
  isolate < trace.isolateCount ∧ trace.closings isolate = 0

/-- The isolates that are open. -/
def openIsolates (trace : Trace) : List Nat :=
  (List.range trace.isolateCount).filter fun isolate => trace.closings isolate = 0

/-- All isolates are closed, each of them once. None was used while it was not open, and never was
there more than one open. -/
structure Released (trace : Trace) : Prop where
  closed_once : ∀ isolate < trace.isolateCount, trace.closings isolate = 1
  used_open : ∀ (before : Trace) event after, trace = before ++ event :: after →
    ∀ isolate ∈ event.isolate?, before.IsOpen isolate
  one_open : ∀ before : Trace, before <+: trace → before.openIsolates.length ≤ 1

/-- The trace of isolates of which each is closed before the next one is opened; `current` is the
one that is open now. -/
inductive Orderly : Option Nat → Trace → Prop
  | nil : Orderly none []
  | opened {trace : Trace} : Orderly none trace →
      Orderly (some trace.isolateCount) (trace ++ [.opened])
  | evaluated {trace : Trace} {isolate : Nat} (evaluation : Evaluation) :
      Orderly (some isolate) trace →
      Orderly (some isolate) (trace ++ [.evaluated isolate evaluation])
  | closed {trace : Trace} {isolate : Nat} : Orderly (some isolate) trace →
      Orderly none (trace ++ [.closed isolate])
  | logged {trace : Trace} {current : Option Nat} (level : Level) (message : Text) :
      Orderly current trace → Orderly current (trace ++ [.logged level message])

namespace Orderly

variable {trace : Trace} {current : Option Nat}

/-- The isolate that is open was opened last. -/
theorem isolateCount_eq (h : Orderly current trace) {isolate : Nat} (hCurrent : current = some isolate) :
    trace.isolateCount = isolate + 1 := by
  induction h with
  | nil => cases hCurrent
  | opened => simp_all [isolateCount]
  | evaluated _ _ ih => simpa [isolateCount] using ih hCurrent
  | closed => cases hCurrent
  | logged _ _ _ ih => simpa [isolateCount] using ih hCurrent

/-- Every isolate is closed once, but for the one that is open. -/
theorem closings_eq (h : Orderly current trace) (isolate : Nat) :
    trace.closings isolate =
      if isolate < trace.isolateCount ∧ current ≠ some isolate then 1 else 0 := by
  induction h with
  | nil => simp [closings, isolateCount]
  | @opened before _ ih =>
    simp only [closings_append, ih, closings, isolateCount_append, isolateCount, ne_eq,
      Option.some.injEq, reduceCtorEq, not_false_eq_true, and_true, Nat.add_zero]
    grind
  | evaluated _ _ ih => simpa [closings, isolateCount] using ih
  | @closed before number hBefore ih =>
    have hCount := hBefore.isolateCount_eq rfl
    simp only [closings_append, ih, closings, isolateCount_append, isolateCount]
    grind
  | logged _ _ _ ih => simpa [closings, isolateCount] using ih

theorem isOpen_iff (h : Orderly current trace) {isolate : Nat} :
    trace.IsOpen isolate ↔ current = some isolate := by
  have hClosings := h.closings_eq isolate
  constructor
  · rintro ⟨hCount, hNone⟩
    grind
  · intro hCurrent
    have hCount := h.isolateCount_eq hCurrent
    exact ⟨by omega, by simp [hClosings, hCurrent]⟩

theorem openIsolates_length (h : Orderly current trace) : trace.openIsolates.length ≤ 1 := by
  have hOpen : ∀ isolate ∈ trace.openIsolates, current = some isolate := fun isolate hIsolate => by
    simp only [openIsolates, List.mem_filter, List.mem_range, decide_eq_true_eq] at hIsolate
    exact h.isOpen_iff.1 hIsolate
  have hNodup : trace.openIsolates.Nodup := List.Nodup.filter _ List.nodup_range
  match hList : trace.openIsolates with
  | [] | [_] => simp
  | first :: second :: rest =>
    rw [hList] at hOpen hNodup
    have hFirst := hOpen first List.mem_cons_self
    have hSecond := hOpen second (List.mem_cons_of_mem _ List.mem_cons_self)
    have hSame : first = second := Option.some.inj (hFirst.symm.trans hSecond)
    simp [hSame] at hNodup

/-- What was orderly in the end was so all the time. -/
theorem of_prefix (h : Orderly current trace) {before : Trace} (hPrefix : before <+: trace) :
    ∃ earlier, Orderly earlier before := by
  induction h with
  | nil => exact ⟨none, List.prefix_nil.1 hPrefix ▸ .nil⟩
  | opened hTrace ih =>
    rcases List.prefix_concat_iff.1 hPrefix with rfl | hEarlier
    · exact ⟨_, .opened hTrace⟩
    · exact ih hEarlier
  | evaluated evaluation hTrace ih =>
    rcases List.prefix_concat_iff.1 hPrefix with rfl | hEarlier
    · exact ⟨_, .evaluated evaluation hTrace⟩
    · exact ih hEarlier
  | closed hTrace ih =>
    rcases List.prefix_concat_iff.1 hPrefix with rfl | hEarlier
    · exact ⟨_, .closed hTrace⟩
    · exact ih hEarlier
  | logged level message hTrace ih =>
    rcases List.prefix_concat_iff.1 hPrefix with rfl | hEarlier
    · exact ⟨_, .logged level message hTrace⟩
    · exact ih hEarlier

/-- The last event of an orderly trace uses the isolate that was open before it. -/
theorem used_last {event : Event} (h : Orderly current (trace ++ [event])) {isolate : Nat}
    (hIsolate : isolate ∈ event.isolate?) : Orderly (some isolate) trace := by
  generalize hWhole : trace ++ [event] = whole at h
  cases h with
  | nil => simp at hWhole
  | opened =>
    obtain ⟨rfl, rfl⟩ := List.append_singleton_inj.1 hWhole
    cases hIsolate
  | evaluated _ hTrace =>
    obtain ⟨rfl, rfl⟩ := List.append_singleton_inj.1 hWhole
    cases hIsolate
    exact hTrace
  | closed hTrace =>
    obtain ⟨rfl, rfl⟩ := List.append_singleton_inj.1 hWhole
    cases hIsolate
    exact hTrace
  | logged =>
    obtain ⟨rfl, rfl⟩ := List.append_singleton_inj.1 hWhole
    cases hIsolate

/-- Nothing is evaluated in an isolate before it is opened. -/
theorem evaluationsIn_eq_nil (h : Orderly current trace) {isolate : Nat}
    (hIsolate : trace.isolateCount ≤ isolate) : trace.evaluationsIn isolate = [] := by
  induction h with
  | nil => rfl
  | opened _ ih =>
    simp only [isolateCount_append, isolateCount] at hIsolate
    simpa [evaluationsIn] using ih (by omega)
  | @evaluated before number evaluation hBefore ih =>
    have hCount := hBefore.isolateCount_eq rfl
    simp only [isolateCount_append, isolateCount, Nat.add_zero] at hIsolate
    have hOther : number ≠ isolate := by omega
    simpa [evaluationsIn, hOther] using ih hIsolate
  | closed _ ih => simpa [evaluationsIn] using ih (by simpa [isolateCount] using hIsolate)
  | logged _ _ _ ih => simpa [evaluationsIn] using ih (by simpa [isolateCount] using hIsolate)

/-- An orderly trace with nothing open in the end is that of released isolates. -/
theorem released (h : Orderly none trace) : Released trace where
  closed_once isolate hIsolate := by simp [h.closings_eq, hIsolate]
  used_open before event after hTrace isolate hIsolate := by
    have hPrefix : before ++ [event] <+: trace := ⟨after, by simp [hTrace]⟩
    obtain ⟨earlier, hEarlier⟩ := h.of_prefix hPrefix
    exact (hEarlier.used_last hIsolate).isOpen_iff.2 rfl
  one_open before hBefore := by
    obtain ⟨earlier, hEarlier⟩ := h.of_prefix hBefore
    exact hEarlier.openIsolates_length

end Orderly

end Trace

/-! ## Activities -/

/-- The activity leads from `current` as the isolate that is open to the one that its result says. -/
structure Bench.Leads {α : Type} (current : Option Nat) (activity : Bench α)
    (next : α → Option Nat) : Prop where
  orderly : ∀ trace : Trace, Trace.Orderly current trace →
    Trace.Orderly (next (activity.run trace).1) (activity.run trace).2

namespace Bench

variable {α β : Type} {current : Option Nat}

theorem leads_pure (value : α) {next : α → Option Nat} (h : next value = current) :
    Leads current (pure value) next :=
  ⟨fun _ hTrace => h ▸ hTrace⟩

theorem Leads.bind {activity : Bench α} {rest : α → Bench β} {next : α → Option Nat}
    {last : β → Option Nat} (hActivity : Leads current activity next)
    (hRest : ∀ value, Leads (next value) (rest value) last) :
    Leads current (activity >>= rest) last :=
  ⟨fun trace hTrace => (hRest _).orderly _ (hActivity.orderly trace hTrace)⟩

theorem leads_openIsolate : Leads none openIsolate some :=
  ⟨fun _ hTrace => .opened hTrace⟩

theorem leads_evaluate (js : Behaviour) (isolate : Nat) (text : Text) (limit : Option Data) :
    Leads (some isolate) (evaluate js isolate text limit) fun _ => some isolate :=
  ⟨fun _ hTrace => .evaluated ⟨text, limit⟩ hTrace⟩

theorem leads_close : Leads (some isolate) (close isolate) fun _ => none :=
  ⟨fun _ hTrace => .closed hTrace⟩

theorem leads_log (level : Level) (message : Text) :
    Leads current (log level message) fun _ => current :=
  ⟨fun _ hTrace => .logged level message hTrace⟩

end Bench

/-- The activity leads from `current` as the isolate that is open to the one that its result says,
or to `failed` if it fails. -/
def Trial.Leads {α : Type} (current : Option Nat) (activity : Trial α) (next : α → Option Nat)
    (failed : Option Nat) : Prop :=
  Bench.Leads current activity.run fun
    | .ok value => next value
    | .error _ => failed

namespace Trial

variable {α β : Type} {current failed : Option Nat}

/-- The activity leaves the isolate open that was so, whether it fails or not. -/
abbrev Keeps (current : Option Nat) (activity : Trial α) : Prop :=
  Leads current activity (fun _ => current) current

theorem leads_pure (value : α) {next : α → Option Nat} (h : next value = current) :
    Leads current (pure value) next failed :=
  Bench.leads_pure (Except.ok value) h

theorem leads_throw (failure : Failure) {next : α → Option Nat} :
    Leads current (throw failure : Trial α) next current :=
  Bench.leads_pure (Except.error failure) rfl

theorem Leads.bind {activity : Trial α} {rest : α → Trial β} {next : α → Option Nat}
    {last : β → Option Nat} (hActivity : Leads current activity next failed)
    (hRest : ∀ value, Leads (next value) (rest value) last failed) :
    Leads current (activity >>= rest) last failed := by
  rw [Leads, ExceptT.run_bind]
  refine Bench.Leads.bind hActivity fun result => ?_
  cases result with
  | ok value => exact hRest value
  | error failure => exact Bench.leads_pure (Except.error failure) rfl

theorem leads_lift {activity : Bench α} {next : α → Option Nat}
    (h : Bench.Leads current activity next) : Leads current (lift activity) next failed :=
  Bench.Leads.bind h fun value => Bench.leads_pure (Except.ok value) rfl

theorem keeps_ofExcept {ε : Type} (wrap : ε → Failure) (result : Except ε α) :
    Keeps current (ofExcept wrap result) := by
  cases result with
  | ok value => exact leads_pure value rfl
  | error error => exact leads_throw (wrap error)

/-- What is done in the end is done after a failure too. -/
theorem leads_ensuring {activity : Trial α} {after : Bench Unit} {last : Option Nat}
    (hActivity : Keeps current activity) (hAfter : Bench.Leads current after fun _ => last) :
    Leads current (ensuring activity after) (fun _ => last) last := by
  refine Bench.Leads.bind hActivity fun result => ?_
  cases result with
  | ok value => exact hAfter.bind fun _ => Bench.leads_pure (Except.ok value) rfl
  | error failure => exact hAfter.bind fun _ => Bench.leads_pure (Except.error failure) rfl

end Trial

/-! ## Coverage -/

namespace Coverage

variable {js : Behaviour} {config : Config} (coverage : Coverage)

/-- A program that cannot be loaded has no isolate that is open. -/
theorem leads_load (modified : Text) : Bench.Leads none (load js config modified) id := by
  refine Bench.leads_openIsolate.bind fun isolate => ?_
  refine (Bench.leads_evaluate ..).bind fun result => ?_
  cases result with
  | ok _ => exact Bench.leads_pure _ rfl
  | error fault =>
    refine (Bench.leads_close isolate).bind fun _ => ?_
    exact (Bench.leads_log ..).bind fun _ => Bench.leads_pure _ rfl

theorem leads_start (script : Script) :
    Trial.Leads none (start js config script) (·.isolate) none := by
  refine (Trial.keeps_ofExcept ..).bind fun prepared => ?_
  exact (Trial.leads_lift (leads_load _)).bind fun isolate => Trial.leads_pure _ rfl

theorem leads_close : Bench.Leads coverage.isolate (close coverage) fun _ => none := by
  unfold close
  cases hIsolate : coverage.isolate with
  | none => exact Bench.leads_pure _ rfl
  | some isolate => exact (Bench.leads_close isolate).bind fun _ => Bench.leads_pure _ rfl

theorem keeps_invoke (arguments : Data) :
    Trial.Keeps (some isolate) (invoke js config isolate arguments) := by
  unfold invoke
  cases arguments.elements? with
  | none => exact Trial.leads_throw _
  | some values =>
    refine (Trial.leads_lift (Bench.leads_evaluate ..)).bind fun result => ?_
    dsimp only
    split
    case' h_1 => refine (Trial.leads_lift (Bench.leads_log ..)).bind fun _ => ?_
    -- what was reached is asked for in any case
    all_goals
      refine (Trial.leads_lift (Bench.leads_evaluate ..)).bind fun answer => ?_
      cases answer with
      | error fault => exact Trial.leads_throw _
      | ok value => exact Trial.keeps_ofExcept ..

/-- A run may fail, and leaves the isolate open in any case. -/
theorem leads_runSingle (arguments : Data) :
    Bench.Leads coverage.isolate (runSingle js coverage arguments) (·.1.isolate) := by
  unfold runSingle
  cases hIsolate : coverage.isolate with
  | none => exact (Bench.leads_log ..).bind fun _ => Bench.leads_pure _ hIsolate
  | some isolate =>
    refine Bench.Leads.bind (keeps_invoke isolate arguments) fun result => ?_
    cases result with
    | error failure => exact Bench.leads_pure _ hIsolate
    | ok hits => exact Bench.leads_pure _ rfl

theorem leads_runEach (inputs : List Data) :
    Bench.Leads coverage.isolate (runEach js coverage inputs) (·.1.isolate) := by
  induction inputs generalizing coverage with
  | nil => exact Bench.leads_pure _ rfl
  | cons arguments rest ih =>
    refine (leads_runSingle coverage arguments).bind fun outcome => ?_
    obtain ⟨next, result⟩ := outcome
    cases result with
    | error failure => exact Bench.leads_pure _ rfl
    | ok _ => exact ih next

theorem leads_runAndClose (inputs : Data) :
    Bench.Leads coverage.isolate (runAndClose js coverage inputs) fun _ => none := by
  have hRun : Bench.Leads coverage.isolate (run js coverage inputs) (·.1.isolate) := by
    unfold run
    cases inputs.elements? with
    | none => exact Bench.leads_pure _ rfl
    | some inputs => exact leads_runEach coverage inputs
  refine hRun.bind fun outcome => ?_
  exact (leads_close outcome.1).bind fun _ => Bench.leads_pure _ rfl

end Coverage

/-! ## Observing and scoring -/

namespace Observe

variable {js : Behaviour} {config : Config} (source : Text)

theorem leads_load : Bench.Leads none (load js config source) (some ·.isolate) := by
  refine Bench.leads_openIsolate.bind fun isolate => ?_
  refine (Bench.leads_evaluate ..).bind fun result => ?_
  split <;> exact Bench.leads_pure _ rfl

theorem keeps_outcome (program : Loaded) (expression : Data) :
    Trial.Keeps (some program.isolate) (outcome js config program expression) := by
  unfold outcome
  cases program.stuck with
  | some outcome => exact Trial.leads_pure _ rfl
  | none =>
    refine (Trial.leads_lift (Bench.leads_evaluate ..)).bind fun answer => ?_
    split
    · exact Trial.leads_pure _ rfl
    · exact Trial.leads_pure _ rfl
    · exact Trial.keeps_ofExcept ..

/-- Whatever is done with a program, its isolate is closed in the end. -/
theorem keeps_withProgram {α : Type} {work : Loaded → Trial α}
    (hWork : ∀ program, Trial.Keeps (some program.isolate) (work program)) :
    Trial.Keeps none (withProgram js config source work) := by
  refine (Trial.leads_lift (leads_load source)).bind fun program => ?_
  exact Trial.leads_ensuring (hWork program) (Bench.leads_close program.isolate)

theorem keeps_outcomes (program : Loaded) (inputs : List Data) :
    Trial.Keeps (some program.isolate) (outcomes js config program inputs) := by
  induction inputs with
  | nil => exact Trial.leads_pure _ rfl
  | cons expression rest ih =>
    refine (keeps_outcome program expression).bind fun first => ?_
    exact ih.bind fun others => Trial.leads_pure _ rfl

theorem keeps_observe (inputs : List Data) : Trial.Keeps none (observe js config source inputs) :=
  keeps_withProgram source fun program => keeps_outcomes program inputs

end Observe

namespace Score

variable {js : Behaviour} {config : Config} (mutant : Mutant)

theorem keeps_tryEach (program : Observe.Loaded) (tried : Nat) (pairs : List (Data × Data)) :
    Trial.Keeps (some program.isolate) (tryEach js config program tried pairs) := by
  induction pairs generalizing tried with
  | nil => exact Trial.leads_pure _ rfl
  | cons pair rest ih =>
    refine (Observe.keeps_outcome program pair.1).bind fun actual => ?_
    split
    · exact Trial.leads_pure _ rfl
    · exact ih (tried + 1)

/-- With expected outcomes a program is loaded only if there is something to try. -/
theorem run_some (inputs expected : List Data) (filePath : Option Text) :
    run js config mutant inputs (some expected) filePath =
      match inputs.zip expected with
      | [] => return ⟨mutant, 0, none, filePath⟩
      | pairs => do
        let (tried, kill) ← Observe.withProgram js config mutant.mutatedSource fun program =>
          tryEach js config program 0 pairs
        return ⟨mutant, tried, kill, filePath⟩ := by
  cases hPairs : inputs.zip expected <;> simp only [run, pure_bind, hPairs]

/-- Without expected outcomes the program is observed first. -/
theorem run_none (inputs : List Data) (filePath : Option Text) :
    run js config mutant inputs none filePath = (do
      let expected ← Observe.observe js config mutant.originalSource inputs
      run js config mutant inputs (some (expected.map Data.text)) filePath) := by
  simp [run]

theorem keeps_run (inputs : List Data) (expected : Option (List Data)) (filePath : Option Text) :
    Trial.Keeps none (run js config mutant inputs expected filePath) := by
  have hSome (expected : List Data) :
      Trial.Keeps none (run js config mutant inputs (some expected) filePath) := by
    rw [run_some]
    split
    · exact Trial.leads_pure _ rfl
    · refine (Observe.keeps_withProgram _ fun program => keeps_tryEach program 0 _).bind ?_
      exact fun _ => Trial.leads_pure _ rfl
  cases expected with
  | some expected => exact hSome expected
  | none =>
    rw [run_none]
    exact (Observe.keeps_observe _ inputs).bind fun outcomes => hSome _

end Score

/-! ## Whole runs -/

namespace Suite

variable {js : Behaviour} {config : Config} (store : Store)

theorem keeps_logAll (records : List (Level × Text)) :
    Bench.Leads none (logAll records) fun _ => none := by
  induction records with
  | nil => exact Bench.leads_pure _ rfl
  | cons record rest ih => exact (Bench.leads_log ..).bind fun _ => ih

/-- The isolate of a program is closed after its runs, also if there are none. -/
theorem keeps_cover (script : Script) (inputs : Data) :
    Trial.Keeps none (cover js config script inputs) := by
  refine (Coverage.leads_start script).bind fun coverage => ?_
  dsimp only
  split
  · refine (Trial.leads_lift (Coverage.leads_runAndClose coverage inputs)).bind fun outcome => ?_
    obtain ⟨coverage, result⟩ := outcome
    cases result with
    | ok _ => exact Trial.leads_pure _ rfl
    | error failure => exact Trial.leads_throw _
  · refine (Trial.leads_lift (Coverage.leads_close coverage)).bind fun coverage => ?_
    exact Trial.leads_pure _ rfl

theorem keeps_surveyFile (inputs : Data) (survey : Survey) (target : Data) :
    Trial.Keeps none (surveyFile js config store inputs survey target) := by
  refine (Trial.keeps_ofExcept ..).bind fun found => ?_
  refine (keeps_cover ..).bind fun coverage => ?_
  refine (Trial.keeps_ofExcept ..).bind fun mutation => ?_
  refine (Trial.leads_lift (keeps_logAll _)).bind fun _ => ?_
  exact (Trial.leads_lift (Bench.leads_log ..)).bind fun _ => Trial.leads_pure _ rfl

theorem keeps_surveyAll (inputs : Data) (survey : Survey) (targets : List Data) :
    Trial.Keeps none (surveyAll js config store inputs survey targets) := by
  induction targets generalizing survey with
  | nil => exact Trial.leads_pure _ rfl
  | cons target rest ih =>
    exact (keeps_surveyFile store inputs survey target).bind fun survey => ih survey

theorem keeps_scoreAll (sources : Register Text) (inputs : List Data)
    (known : Register (List Text)) (mutants : List (Text × Mutant)) :
    Trial.Keeps none (scoreAll js config sources inputs known mutants) := by
  induction mutants generalizing known with
  | nil => exact Trial.leads_pure _ rfl
  | cons entry rest ih =>
    obtain ⟨path, mutant⟩ := entry
    have hScore (expected : List Text) : Trial.Keeps none (do
        let first ← Score.run js config mutant inputs (some (expected.map Data.text)) (some path)
        return first :: (← scoreAll js config sources inputs
          (Register.put path expected known) rest)) := by
      refine (Score.keeps_run ..).bind fun first => ?_
      exact (ih _).bind fun others => Trial.leads_pure _ rfl
    rw [scoreAll]
    split
    · exact (Trial.leads_pure _ rfl).bind hScore
    · exact (Observe.keeps_observe _ inputs).bind hScore

theorem keeps_score (survey : Survey) (inputs : Data) :
    Trial.Keeps none (score js config survey inputs) := by
  unfold score
  split
  · split
    · exact keeps_scoreAll ..
    · exact Trial.leads_throw _
  · exact Trial.leads_pure _ rfl

theorem keeps_run (targets : List Data) (coverageInputs mutationInputs : Data) :
    Trial.Keeps none (run js config store targets coverageInputs mutationInputs) := by
  refine (keeps_surveyAll ..).bind fun survey => ?_
  exact (keeps_score survey mutationInputs).bind fun results => Trial.leads_pure _ rfl

/-- Whatever the files, the inputs and the isolates are, and whether the run gives a result or fails:
each isolate that was opened is closed once, each was open whenever it was used, and no two were open
at the same time. -/
theorem run_releases (js : Behaviour) (config : Config) (store : Store) (targets : List Data)
    (coverageInputs mutationInputs : Data) :
    Trace.Released
      ((run js config store targets coverageInputs mutationInputs).run.run []).2 := by
  have hRun : Trial.Keeps none (run js config store targets coverageInputs mutationInputs) :=
    keeps_run ..
  have hOrderly := hRun.orderly [] .nil
  split at hOrderly <;> exact hOrderly.released

end Suite

end Assay
