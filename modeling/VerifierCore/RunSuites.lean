import VerifierCore.FoldResults
import VerifierCore.Foundations.Loop

/-!
# The suite orchestrator

The loop over suites and checks, with its phase filter, the `applies` predicate
of a suite, the `appliesTo` of a check, and the flag that the first halting
failure raises.  A throw never leaves the loop: it becomes a failure row.

A check may keep records on the context, so the loop passes the context's
records from check to check together with the halt flag.
-/

namespace VerifierCore

open Foundations

/-! ## Options and filters -/

/-- Optional orchestration knobs.  A missing id set holds no id. -/
structure RunSuitesOptions where
  explicitSuiteIds : List String := []
  phases : Option (List SuitePhase) := none

/-- Whether a suite may run under the phase filter. -/
def suiteRunsInPhases (suite : VerificationSuite) (phases : Option (List SuitePhase)) : Bool :=
  match phases with
  | none => true
  | some requested =>
      match suite.phase with
      | none => true
      | some phase => phase ∈ requested

/-- The subject types a subject carries. -/
def subjectTypes (subject : VerificationSubject) : List VerificationSubjectType :=
  [.verifiableCredential, .verifiablePresentation].filter fun type =>
    match type with
    | .verifiableCredential => subject.verifiableCredential.isSome
    | .verifiablePresentation => subject.verifiablePresentation.isSome

/-- Whether a check applies to a subject of any of the given types. -/
def checkAppliesTo (check : VerificationCheck) (types : List VerificationSubjectType) : Bool :=
  match check.appliesTo with
  | none => true
  | some [] => true
  | some appliesTo => appliesTo.any fun type => type ∈ types

/-- Whether a check applies to the given subject. -/
def appliesToSubject (check : VerificationCheck) (subject : VerificationSubject) : Bool :=
  checkAppliesTo check (subjectTypes subject)

/-- Apply the auto-include rule for phase requests. -/
def expandPhases (requested : Option (List SuitePhase)) : Option (List SuitePhase) :=
  match requested with
  | none => none
  | some phases =>
      if .semantic ∈ phases ∧ .recognition ∉ phases then some (phases ++ [.recognition])
      else some phases

/-! ## Rows -/

/-- Whether a failure of the check halts the subject. -/
def haltsOnFailure (check : VerificationCheck) : Bool :=
  check.fatal = some true && check.halts ≠ some false

/-- The answer of a suite's predicate, or what it threw. -/
def evaluateApplies (suite : VerificationSuite) (subject : VerificationSubject)
    (context : VerificationContext) : Except Thrown Bool :=
  match suite.applies with
  | none => .ok true
  | some applies => applies subject context

/-- The failure a throw is reported as. -/
def buildCheckErrorOutcome (id : String) (error : Thrown) : CheckOutcome :=
  let message := errorMessage error "non-Error value thrown"
  .failure
    [{ type := ProblemTypes.checkError
       title := "Check Error"
       detail := s!"Check \"{id}\" threw: {message}" }]

/-- The outcome of a check body that returned or threw. -/
def outcomeOf (checkId : String) : Except Thrown CheckOutcome → CheckOutcome
  | .ok outcome => outcome
  | .error error => buildCheckErrorOutcome checkId error

/-- A row for a check within a suite, with the flags it is given. -/
def buildResult (suite : VerificationSuite) (checkId : String) (outcome : CheckOutcome)
    (fatal halts : Option Bool) : CheckResult :=
  { id := computeId suite.phase suite.id checkId
    suite := suite.id
    outcome := outcome
    fatal := fatal
    halts := halts }

/-- The outcome of a check that an earlier halting failure kept from running. -/
def notRunOutcome (haltedBy : String) : CheckOutcome :=
  .skipped s!"Not run: {haltedBy} failed" (some notRunAfterFatal) (some haltedBy)

/-- The outcome of an explicitly queued suite whose predicate declined. -/
def declinedOutcome : CheckOutcome :=
  .skipped "suite predicate returned false"

/-- The check id a suite's own predicate is reported under. -/
def appliesCheckId (suite : VerificationSuite) : String :=
  suite.id ++ ".applies"

/-! ## Timing -/

/-- Clock samples taken when a task starts. -/
structure InProgressTiming where
  startedAt : String
  startedMonoMs : ℚ

/-- Sample both clocks at the start of a task. -/
def startTaskTiming (platform : Platform) : Async InProgressTiming := do
  let dateNowMs ← ask .dateNowMs
  let startedMonoMs ← ask .performanceNowMs
  pure { startedAt := platform.toISOString dateNowMs, startedMonoMs := startedMonoMs }

/-- Close out a task by sampling both clocks again. -/
def finishTaskTiming (platform : Platform) (started : InProgressTiming) : Async TaskTiming := do
  let endDateMs ← ask .dateNowMs
  let endMonoMs ← ask .performanceNowMs
  pure
    { startedAt := started.startedAt
      endedAt := platform.toISOString endDateMs
      durationMs := endMonoMs - started.startedMonoMs }

/-- Start the timing of a check if the call is timed. -/
def startIfTimed (platform : Platform) (timing : Bool) : Async (Option InProgressTiming) :=
  if timing then some <$> startTaskTiming platform else pure none

/-- Finish a timing that was started. -/
def finishIfStarted (platform : Platform) :
    Option InProgressTiming → Async (Option TaskTiming)
  | some started => some <$> finishTaskTiming platform started
  | none => pure none

/-- A row the orchestrator emits itself. -/
def syntheticResult (platform : Platform) (suite : VerificationSuite) (checkId : String)
    (outcome : CheckOutcome) (fatal halts : Option Bool) (timing : Bool) : Async CheckResult := do
  let started ← startIfTimed platform timing
  let taskTiming ← finishIfStarted platform started
  pure { buildResult suite checkId outcome fatal halts with timing := taskTiming }

/-! ## The loop -/

/-- What the loop carries from one check to the next. -/
structure RunState where
  haltedBy : Option String := none
  store : ContextStore := {}

/-- One round of the inner loop: a check that applies gives one row. -/
def runCheck (platform : Platform) (suite : VerificationSuite) (subject : VerificationSubject)
    (context : VerificationContext) (check : VerificationCheck) (state : RunState) :
    Async (List CheckResult × RunState) :=
  if check.appliesTo.isSome && !appliesToSubject check subject then pure ([], state)
  else
    match state.haltedBy with
    | some haltedBy => do
        let row ← syntheticResult platform suite check.id (notRunOutcome haltedBy)
          check.fatal check.halts context.timing
        pure ([row], state)
    | none => do
        let taskTiming ← startIfTimed platform context.timing
        let executed ← check.execute subject context state.store
        let outcome := outcomeOf check.id executed.1
        let finishedTiming ← finishIfStarted platform taskTiming
        let row := { buildResult suite check.id outcome check.fatal check.halts with
          timing := finishedTiming }
        let haltedBy := if haltsOnFailure check && outcome.isFailure then some check.id else none
        pure ([row], { haltedBy := haltedBy, store := executed.2 })

/-- One round of the outer loop. -/
def runSuite (platform : Platform) (subject : VerificationSubject)
    (context : VerificationContext) (options : RunSuitesOptions) (suite : VerificationSuite)
    (state : RunState) : Async (List CheckResult × RunState) :=
  if !suiteRunsInPhases suite options.phases then pure ([], state)
  else
    match evaluateApplies suite subject context, state.haltedBy with
    | .error error, none => do
        let checkId := appliesCheckId suite
        let fatal := suite.checks.any fun check =>
          check.fatal = some true && appliesToSubject check subject
        let row ← syntheticResult platform suite checkId (buildCheckErrorOutcome checkId error)
          (some fatal) none context.timing
        pure ([row], { state with haltedBy := if fatal then some checkId else none })
    | .ok false, _ =>
        if suite.id ∈ options.explicitSuiteIds then do
          let row ← syntheticResult platform suite (appliesCheckId suite) declinedOutcome
            none none context.timing
          pure ([row], state)
        else pure ([], state)
    | _, _ => collect (runCheck platform suite subject context) suite.checks state

/-- Run a list of suites against a subject.  The rows come with the context's
records as the run leaves them. -/
def runSuites (platform : Platform) (suites : List VerificationSuite)
    (subject : VerificationSubject) (context : VerificationContext) (options : RunSuitesOptions)
    (store : ContextStore) : Async (List CheckResult × ContextStore) := do
  let run ← collect (runSuite platform subject context options) suites { store := store }
  pure (run.1, run.2.store)

end VerifierCore
