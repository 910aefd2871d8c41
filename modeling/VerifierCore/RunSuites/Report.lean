import VerifierCore.RunSuites

/-!
# What a run reports

The report of a run, stated without the loop's mutable flag: each suite
contributes a list of entries, and whether a check was still run is decided by
the entries in front of it.

Main results:

- Theorem {lit}`executes_runCheck`: what one check contributes.
- Theorem {lit}`executes_runSuite`: what one suite contributes.
- Theorem {lit}`haltedBy_isSome_of_collect`: a loop over suites is halted exactly by its rows.
- Theorem {lit}`runSuites_report`: every run returns, and its rows and calls are
  those of a report that meets the specification.
-/

namespace VerifierCore

open Foundations Program

/-! ## Entries -/

/-- A row together with the id it was recorded under and the calls made for it. -/
structure ReportEntry where
  checkId : String
  row : CheckResult
  events : List PortEvent

/-- A failed row that halts the subject. -/
def CheckResult.isHaltingFailure (row : CheckResult) : Bool :=
  row.fatal = some true && row.halts ≠ some false && row.outcome.isFailure

/-- The id of the first entry that halts the subject. -/
def firstHalt (entries : List ReportEntry) : Option String :=
  (entries.find? fun entry => entry.row.isHaltingFailure).map ReportEntry.checkId

@[simp]
theorem firstHalt_nil : firstHalt [] = none :=
  rfl

/-- The first halt of two parts is that of the first part, or else of the second. -/
theorem firstHalt_append (first second : List ReportEntry) :
    firstHalt (first ++ second) = (firstHalt first).or (firstHalt second) := by
  simp [firstHalt, List.find?_append, Option.map_or]

theorem firstHalt_singleton (entry : ReportEntry) :
    firstHalt [entry] = if entry.row.isHaltingFailure then some entry.checkId else none := by
  unfold firstHalt
  by_cases h : entry.row.isHaltingFailure <;> simp [h]

/-- Some row halts where a first one does. -/
theorem firstHalt_isSome (entries : List ReportEntry) :
    (firstHalt entries).isSome = (entries.map ReportEntry.row).any CheckResult.isHaltingFailure := by
  rw [firstHalt, Option.isSome_map, List.isSome_find?, List.any_map]
  rfl

/-- A fatal failure halts unless its row opted out. -/
theorem CheckResult.isFatalFailure_of_isHaltingFailure {row : CheckResult}
    (h : row.isHaltingFailure = true) : row.isFatalFailure = true := by
  simp only [isHaltingFailure, Bool.and_eq_true] at h
  simp only [isFatalFailure, Bool.and_eq_true]
  exact ⟨h.1.1, h.2⟩

/-- Rows without a fatal failure halt nothing. -/
theorem firstHalt_eq_none_of_no_fatal {entries : List ReportEntry}
    (h : hasFatalFailures (entries.map ReportEntry.row) = false) : firstHalt entries = none := by
  simp only [firstHalt, Option.map_eq_none_iff, List.find?_eq_none]
  intro entry hentry hhalting
  have hfatal := CheckResult.isFatalFailure_of_isHaltingFailure hhalting
  simp only [CheckResult.isFatalFailure, Bool.and_eq_true, decide_eq_true_eq] at hfatal
  have hnot := hasFatalFailures_eq_false_iff.mp h _ (List.mem_map_of_mem hentry) hfatal.1
  rw [hfatal.2] at hnot
  cases hnot

/-- Among rows without a fatal failure there is none. -/
theorem hasFatalFailures_of_subset {rows others : List CheckResult}
    (h : hasFatalFailures others = false) (hsub : rows ⊆ others) :
    hasFatalFailures rows = false := by
  rw [hasFatalFailures_eq_false_iff] at h ⊢
  intro row hrow
  exact h row (hsub hrow)

/-- The entries of a report without a fatal failure have none either. -/
theorem firstHalt_eq_none_of_subset {entries others : List ReportEntry}
    (h : hasFatalFailures (others.map ReportEntry.row) = false) (hsub : entries ⊆ others) :
    firstHalt entries = none :=
  firstHalt_eq_none_of_no_fatal (hasFatalFailures_of_subset h (List.map_subset _ hsub))

/-! ## Specification -/

/-- A reading of one of the clocks. -/
def Port.IsClock : Port → Prop
  | .dateNowMs | .performanceNowMs => True
  | _ => False

/-- Only clocks were read. -/
def ClockReadings (events : List PortEvent) : Prop :=
  ∀ event ∈ events, event.op.IsClock

/-- The entry is a row of the suite under the given check id, with the given
flags, timed when the call is timed. -/
def ReportEntry.IsRowOf (entry : ReportEntry) (suite : VerificationSuite) (checkId : String)
    (fatal halts : Option Bool) (timing : Bool) : Prop :=
  entry.checkId = checkId ∧
    entry.row.id = computeId suite.phase suite.id checkId ∧ entry.row.suite = suite.id ∧
    entry.row.fatal = fatal ∧ entry.row.halts = halts ∧ entry.row.timing.isSome = timing

/-- What one check of a suite contributes, where `haltedBy` is the first halting
failure in front of it. -/
inductive CheckReported (suite : VerificationSuite) (subject : VerificationSubject)
    (context : VerificationContext) (haltedBy : Option String) (check : VerificationCheck) :
    List ReportEntry → Prop where
  /-- A check that does not apply to the subject leaves no row. -/
  | notAdmitted :
      appliesToSubject check subject = false →
      CheckReported suite subject context haltedBy check []
  /-- After a halt the check is listed as not run, and nothing but the clocks is
  called for it. -/
  | notRun {halter : String} {entry : ReportEntry} :
      appliesToSubject check subject = true → haltedBy = some halter →
      entry.IsRowOf suite check.id check.fatal check.halts context.timing →
      entry.row.outcome = notRunOutcome halter → ClockReadings entry.events →
      CheckReported suite subject context haltedBy check [entry]
  /-- Otherwise its row carries the outcome of its own execution. -/
  | ran {entry : ReportEntry} {store store' : ContextStore} {started executed finished : List PortEvent}
      {result : Except Thrown CheckOutcome} :
      appliesToSubject check subject = true → haltedBy = none →
      entry.IsRowOf suite check.id check.fatal check.halts context.timing →
      Executes (check.execute subject context store) executed (result, store') →
      entry.row.outcome = outcomeOf check.id result →
      entry.events = started ++ executed ++ finished →
      ClockReadings started → ClockReadings finished →
      CheckReported suite subject context haltedBy check [entry]

/-- What one suite contributes, where `haltedBy` is the first halting failure in
front of it. -/
inductive SuiteReported (subject : VerificationSubject) (context : VerificationContext)
    (options : RunSuitesOptions) (haltedBy : Option String) (suite : VerificationSuite) :
    List ReportEntry → Prop where
  | outsidePhases :
      suiteRunsInPhases suite options.phases = false →
      SuiteReported subject context options haltedBy suite []
  /-- A predicate that throws before any halt gives one failure row, fatal when
  the suite could have failed the subject. -/
  | appliesThrew {error : Thrown} {entry : ReportEntry} :
      suiteRunsInPhases suite options.phases = true →
      evaluateApplies suite subject context = .error error → haltedBy = none →
      entry.IsRowOf suite (appliesCheckId suite)
        (some (suite.checks.any fun check =>
          check.fatal = some true && appliesToSubject check subject)) none context.timing →
      entry.row.outcome = buildCheckErrorOutcome (appliesCheckId suite) error →
      ClockReadings entry.events →
      SuiteReported subject context options haltedBy suite [entry]
  | declined :
      suiteRunsInPhases suite options.phases = true →
      evaluateApplies suite subject context = .ok false → suite.id ∉ options.explicitSuiteIds →
      SuiteReported subject context options haltedBy suite []
  | declinedExplicit {entry : ReportEntry} :
      suiteRunsInPhases suite options.phases = true →
      evaluateApplies suite subject context = .ok false → suite.id ∈ options.explicitSuiteIds →
      entry.IsRowOf suite (appliesCheckId suite) none none context.timing →
      entry.row.outcome = declinedOutcome → ClockReadings entry.events →
      SuiteReported subject context options haltedBy suite [entry]
  /-- Otherwise its checks contribute in order.  After a halt a throwing
  predicate counts as true. -/
  | ran {parts : List (VerificationCheck × List ReportEntry)} :
      suiteRunsInPhases suite options.phases = true →
      (evaluateApplies suite subject context = .ok true ∨
        ((evaluateApplies suite subject context).isOk = false ∧ haltedBy ≠ none)) →
      parts.map Prod.fst = suite.checks →
      (∀ before part after, parts = before ++ part :: after →
        CheckReported suite subject context (haltedBy.or (firstHalt (before.flatMap Prod.snd)))
          part.1 part.2) →
      SuiteReported subject context options haltedBy suite (parts.flatMap Prod.snd)

/-! ## Timing only reads the clocks -/

/-- Starting a timing only reads clocks. -/
theorem confined_startTaskTiming (platform : Platform) :
    (startTaskTiming platform).Confined Port.IsClock := by
  apply Confined.bind (confined_perform trivial)
  intro dateNowMs
  apply Confined.bind (confined_perform trivial)
  intro startedMonoMs
  exact confined_pure _

/-- Finishing a timing only reads clocks. -/
theorem confined_finishTaskTiming (platform : Platform) (started : InProgressTiming) :
    (finishTaskTiming platform started).Confined Port.IsClock := by
  apply Confined.bind (confined_perform trivial)
  intro endDateMs
  apply Confined.bind (confined_perform trivial)
  intro endMonoMs
  exact confined_pure _

/-- A timing is started exactly if it is asked for, by clock readings. -/
theorem executes_startIfTimed {platform : Platform} {timing : Bool} {events : List PortEvent}
    {started : Option InProgressTiming}
    (h : Executes (startIfTimed platform timing) events started) :
    ClockReadings events ∧ started.isSome = timing := by
  unfold startIfTimed at h
  split at h
  · rename_i htiming
    rcases executes_map_iff.mp h with ⟨task, htask, rfl⟩
    exact ⟨htask.forall_of_confined (confined_startTaskTiming platform), by simp [htiming]⟩
  · rename_i htiming
    rcases executes_pure_iff.mp h with ⟨rfl, rfl⟩
    exact ⟨by simp [ClockReadings], by simpa using htiming⟩

/-- A timing is finished exactly if it was started, by clock readings. -/
theorem executes_finishIfStarted {platform : Platform} {started : Option InProgressTiming}
    {events : List PortEvent} {timing : Option TaskTiming}
    (h : Executes (finishIfStarted platform started) events timing) :
    ClockReadings events ∧ timing.isSome = started.isSome := by
  cases started with
  | none =>
      rcases executes_pure_iff.mp h with ⟨rfl, rfl⟩
      exact ⟨by simp [ClockReadings], rfl⟩
  | some started =>
      rcases executes_map_iff.mp h with ⟨task, htask, rfl⟩
      exact ⟨htask.forall_of_confined (confined_finishTaskTiming platform started), rfl⟩

theorem clockReadings_append {first second : List PortEvent} (hfirst : ClockReadings first)
    (hsecond : ClockReadings second) : ClockReadings (first ++ second) := by
  intro event hevent
  rcases List.mem_append.mp hevent with hmem | hmem
  · exact hfirst event hmem
  · exact hsecond event hmem

/-- A synthetic row is the row it was built as, and costs clock readings only. -/
theorem executes_syntheticResult {platform : Platform} {suite : VerificationSuite}
    {checkId : String} {outcome : CheckOutcome} {fatal halts : Option Bool} {timing : Bool}
    {events : List PortEvent} {row : CheckResult}
    (h : Executes (syntheticResult platform suite checkId outcome fatal halts timing) events row) :
    ReportEntry.IsRowOf ⟨checkId, row, events⟩ suite checkId fatal halts timing ∧
      row.outcome = outcome ∧ ClockReadings events := by
  rcases executes_bind_iff.mp h with ⟨first, second, started, rfl, hstart, hrest⟩
  rcases executes_bind_iff.mp hrest with ⟨second, third, taskTiming, rfl, hfinish, hpure⟩
  rcases executes_pure_iff.mp hpure with ⟨rfl, rfl⟩
  have hstarted := executes_startIfTimed hstart
  have hfinished := executes_finishIfStarted hfinish
  refine ⟨⟨rfl, rfl, rfl, rfl, rfl, hfinished.2.trans hstarted.2⟩, rfl, ?_⟩
  simpa using clockReadings_append hstarted.1 hfinished.1

/-! ## One check, one suite, one run -/

/-- A check whose `appliesTo` is unset applies to every subject. -/
theorem appliesToSubject_of_appliesTo_eq_none {check : VerificationCheck}
    (h : check.appliesTo = none) (subject : VerificationSubject) :
    appliesToSubject check subject = true := by
  simp [appliesToSubject, checkAppliesTo, h]

/-- The loop's filter on a check is exactly its applicability. -/
theorem filtered_iff_not_appliesToSubject (check : VerificationCheck)
    (subject : VerificationSubject) :
    (check.appliesTo.isSome && !appliesToSubject check subject) =
      !appliesToSubject check subject := by
  cases h : check.appliesTo with
  | none => simp [appliesToSubject_of_appliesTo_eq_none h]
  | some types => simp

/-- A row built from a check halts exactly when its check halts on failure. -/
theorem isHaltingFailure_eq_haltsOnFailure {row : CheckResult} {check : VerificationCheck}
    (hfatal : row.fatal = check.fatal) (hhalts : row.halts = check.halts) :
    row.isHaltingFailure = (haltsOnFailure check && row.outcome.isFailure) := by
  simp [CheckResult.isHaltingFailure, haltsOnFailure, hfatal, hhalts]

/-- Before any halt a check that applies is executed in the store the loop stands in,
and its row carries the outcome. -/
theorem executes_runCheck_ran {platform : Platform} {suite : VerificationSuite}
    {subject : VerificationSubject} {context : VerificationContext} {check : VerificationCheck}
    {state state' : RunState} {trace : List PortEvent} {rows : List CheckResult}
    (hadmitted : appliesToSubject check subject = true) (hrunning : state.haltedBy = none)
    (h : Executes (runCheck platform suite subject context check state) trace (rows, state')) :
    ∃ entry started executed finished result,
      rows = [entry.row] ∧ trace = entry.events ∧
      entry.IsRowOf suite check.id check.fatal check.halts context.timing ∧
      Executes (check.execute subject context state.store) executed (result, state'.store) ∧
      entry.row.outcome = outcomeOf check.id result ∧
      entry.events = started ++ executed ++ finished ∧ ClockReadings started ∧
      ClockReadings finished ∧ state'.haltedBy = firstHalt [entry] := by
  unfold runCheck at h
  rw [filtered_iff_not_appliesToSubject, hadmitted, hrunning] at h
  simp only [Bool.not_true, Bool.false_eq_true, if_false] at h
  rcases executes_bind_iff.mp h with ⟨started, rest, task, rfl, hstart, h⟩
  rcases executes_bind_iff.mp h with ⟨executed, rest, result, rfl, hexec, h⟩
  rcases executes_bind_iff.mp h with ⟨finished, rest, timing, rfl, hfinish, h⟩
  simp only [executes_pure_iff, Prod.mk.injEq] at h
  rcases h with ⟨rfl, rfl, rfl⟩
  have hstarted := executes_startIfTimed hstart
  have hfinished := executes_finishIfStarted hfinish
  refine ⟨⟨check.id, _, started ++ executed ++ finished⟩, started, executed, finished, result.1,
    rfl, by simp, ⟨rfl, rfl, rfl, rfl, rfl, hfinished.2.trans hstarted.2⟩, hexec, rfl, rfl,
    hstarted.1, hfinished.1, ?_⟩
  rw [firstHalt_singleton, isHaltingFailure_eq_haltsOnFailure rfl rfl]
  rfl

/-- One round of the inner loop contributes what the specification says. -/
theorem executes_runCheck {platform : Platform} {suite : VerificationSuite}
    {subject : VerificationSubject} {context : VerificationContext} (check : VerificationCheck)
    (state : RunState) (trace : List PortEvent) (rows : List CheckResult) (state' : RunState)
    (h : Executes (runCheck platform suite subject context check state) trace (rows, state')) :
    ∃ entries, CheckReported suite subject context state.haltedBy check entries ∧
      rows = entries.map ReportEntry.row ∧ trace = entries.flatMap ReportEntry.events ∧
      state'.haltedBy = state.haltedBy.or (firstHalt entries) := by
  cases hadmitted : appliesToSubject check subject with
  | false =>
      unfold runCheck at h
      rw [filtered_iff_not_appliesToSubject, hadmitted] at h
      simp only [Bool.not_false, if_true, executes_pure_iff, Prod.mk.injEq] at h
      rcases h with ⟨rfl, rfl, rfl⟩
      exact ⟨[], .notAdmitted hadmitted, rfl, rfl, by simp⟩
  | true =>
      cases hhalted : state.haltedBy with
      | some halter =>
          unfold runCheck at h
          rw [filtered_iff_not_appliesToSubject, hadmitted, hhalted] at h
          simp only [Bool.not_true, Bool.false_eq_true, if_false] at h
          rcases executes_bind_iff.mp h with ⟨first, second, row, rfl, hrow, hpure⟩
          simp only [executes_pure_iff, Prod.mk.injEq] at hpure
          rcases hpure with ⟨rfl, rfl, rfl⟩
          have hentry := executes_syntheticResult hrow
          refine ⟨[⟨check.id, row, first⟩],
            .notRun hadmitted rfl hentry.1 hentry.2.1 hentry.2.2, rfl, by simp, ?_⟩
          simp [hhalted]
      | none =>
          rcases executes_runCheck_ran hadmitted hhalted h with
            ⟨entry, started, executed, finished, result, rfl, rfl, hrow, hexec, houtcome, hevents,
              hstarted, hfinished, hhalt⟩
          exact ⟨[entry], .ran hadmitted rfl hrow hexec houtcome hevents hstarted hfinished, rfl,
            by simp, by simpa using hhalt⟩

/-- One round of the outer loop contributes what the specification says. -/
theorem executes_runSuite {platform : Platform} {subject : VerificationSubject}
    {context : VerificationContext} {options : RunSuitesOptions} (suite : VerificationSuite)
    (state : RunState) (trace : List PortEvent) (rows : List CheckResult) (state' : RunState)
    (h : Executes (runSuite platform subject context options suite state) trace (rows, state')) :
    ∃ entries, SuiteReported subject context options state.haltedBy suite entries ∧
      rows = entries.map ReportEntry.row ∧ trace = entries.flatMap ReportEntry.events ∧
      state'.haltedBy = state.haltedBy.or (firstHalt entries) := by
  unfold runSuite at h
  cases hphases : suiteRunsInPhases suite options.phases with
  | false =>
      simp only [hphases, Bool.not_false, if_true, executes_pure_iff, Prod.mk.injEq] at h
      rcases h with ⟨rfl, rfl, rfl⟩
      exact ⟨[], .outsidePhases hphases, rfl, rfl, by simp⟩
  | true =>
      simp only [hphases, Bool.not_true, Bool.false_eq_true, if_false] at h
      have hchecks (hran : evaluateApplies suite subject context = .ok true ∨
            ((evaluateApplies suite subject context).isOk = false ∧ state.haltedBy ≠ none))
          (hloop : Executes (collect (runCheck platform suite subject context) suite.checks state)
            trace (rows, state')) :
          ∃ entries, SuiteReported subject context options state.haltedBy suite entries ∧
            rows = entries.map ReportEntry.row ∧ trace = entries.flatMap ReportEntry.events ∧
            state'.haltedBy = state.haltedBy.or (firstHalt entries) := by
        have hparts := collect_parts
          (fun halted check entries => CheckReported suite subject context halted check entries)
          ReportEntry.row ReportEntry.events RunState.haltedBy
          (fun halted entries => halted.or (firstHalt entries)) (by simp)
          (by simp [firstHalt_append, Option.or_assoc]) executes_runCheck hloop
        rcases hparts with ⟨parts, hitems, hrows, htrace, hspec, hstop⟩
        exact ⟨_, .ran hphases hran hitems hspec, hrows, htrace, hstop⟩
      cases happlies : evaluateApplies suite subject context with
      | error error =>
          cases hhalted : state.haltedBy with
          | some halter =>
              simp only [happlies, hhalted] at h hchecks
              exact hchecks (.inr ⟨rfl, by simp⟩) h
          | none =>
              simp only [happlies, hhalted] at h
              rcases executes_bind_iff.mp h with ⟨first, second, row, rfl, hrow, hpure⟩
              simp only [executes_pure_iff, Prod.mk.injEq] at hpure
              rcases hpure with ⟨rfl, rfl, rfl⟩
              have hentry := executes_syntheticResult hrow
              refine ⟨[⟨appliesCheckId suite, row, first⟩],
                .appliesThrew hphases happlies rfl hentry.1 hentry.2.1 hentry.2.2, rfl,
                by simp, ?_⟩
              rcases hentry with ⟨⟨_, _, _, hfatal, hhalts, _⟩, houtcome, _⟩
              rw [firstHalt_singleton]
              simp only at hfatal hhalts
              simp [CheckResult.isHaltingFailure, hfatal, hhalts, houtcome,
                buildCheckErrorOutcome]
      | ok answer =>
          cases answer with
          | true =>
              simp only [happlies] at h
              exact hchecks (.inl happlies) h
          | false =>
              simp only [happlies] at h
              by_cases hexplicit : suite.id ∈ options.explicitSuiteIds
              · rw [if_pos hexplicit] at h
                rcases executes_bind_iff.mp h with ⟨first, second, row, rfl, hrow, hpure⟩
                simp only [executes_pure_iff, Prod.mk.injEq] at hpure
                rcases hpure with ⟨rfl, rfl, rfl⟩
                have hentry := executes_syntheticResult hrow
                refine ⟨[⟨appliesCheckId suite, row, first⟩],
                  .declinedExplicit hphases happlies hexplicit hentry.1 hentry.2.1 hentry.2.2,
                  rfl, by simp, ?_⟩
                rw [firstHalt_singleton]
                simp [CheckResult.isHaltingFailure, hentry.2.1, declinedOutcome]
              · rw [if_neg hexplicit] at h
                simp only [executes_pure_iff, Prod.mk.injEq] at h
                rcases h with ⟨rfl, rfl, rfl⟩
                exact ⟨[], .declined hphases happlies hexplicit, rfl, rfl, by simp⟩

/-- A suite that runs is the loop over its checks. -/
theorem runSuite_eq_collect {platform : Platform} {subject : VerificationSubject}
    {context : VerificationContext} {options : RunSuitesOptions} {suite : VerificationSuite}
    {state : RunState} (hphases : suiteRunsInPhases suite options.phases = true)
    (happlies : evaluateApplies suite subject context = .ok true) :
    runSuite platform subject context options suite state =
      collect (runCheck platform suite subject context) suite.checks state := by
  simp [runSuite, hphases, happlies]

/-- The run reports every suite in order, and whether a check still ran is
decided by the entries in front of it. -/
def Reported (suites : List VerificationSuite) (subject : VerificationSubject)
    (context : VerificationContext) (options : RunSuitesOptions)
    (report : List (VerificationSuite × List ReportEntry)) : Prop :=
  report.map Prod.fst = suites ∧
    ∀ before part after, report = before ++ part :: after →
      SuiteReported subject context options (firstHalt (before.flatMap Prod.snd)) part.1 part.2

/-- Each entry of a check is a row of its suite, under the check's own id. -/
theorem CheckReported.isRowOf {suite : VerificationSuite} {subject : VerificationSubject}
    {context : VerificationContext} {haltedBy : Option String} {check : VerificationCheck}
    {entries : List ReportEntry}
    (h : CheckReported suite subject context haltedBy check entries) :
    ∀ entry ∈ entries,
      entry.IsRowOf suite check.id check.fatal check.halts context.timing := by
  intro entry hentry
  cases h with
  | notAdmitted => simp at hentry
  | notRun _ _ hrowOf =>
      rw [List.mem_singleton.mp hentry]
      exact hrowOf
  | ran _ _ hrowOf =>
      rw [List.mem_singleton.mp hentry]
      exact hrowOf

/-- Each entry of a suite is a row of it, under the check id the entry names. -/
theorem SuiteReported.isRowOf {subject : VerificationSubject} {context : VerificationContext}
    {options : RunSuitesOptions} {haltedBy : Option String} {suite : VerificationSuite}
    {entries : List ReportEntry}
    (h : SuiteReported subject context options haltedBy suite entries) :
    ∀ entry ∈ entries, ∃ fatal halts,
      entry.IsRowOf suite entry.checkId fatal halts context.timing := by
  -- An entry of a known row names that row's check.
  have hnamed {entry : ReportEntry} {checkId : String} {fatal halts : Option Bool}
      (hrowOf : entry.IsRowOf suite checkId fatal halts context.timing) :
      ∃ fatal halts, entry.IsRowOf suite entry.checkId fatal halts context.timing :=
    ⟨fatal, halts, rfl, by rw [hrowOf.1]; exact hrowOf.2.1, hrowOf.2.2⟩
  intro entry hentry
  cases h with
  | outsidePhases => simp at hentry
  | appliesThrew _ _ _ hrowOf =>
      rw [List.mem_singleton.mp hentry]
      exact hnamed hrowOf
  | declined => simp at hentry
  | declinedExplicit _ _ _ hrowOf =>
      rw [List.mem_singleton.mp hentry]
      exact hnamed hrowOf
  | ran _ _ _ hparts =>
      rcases List.mem_flatMap.mp hentry with ⟨part, hpart, hmem⟩
      rcases List.append_of_mem hpart with ⟨before, after, hsplit⟩
      exact hnamed ((hparts before part after hsplit).isRowOf entry hmem)

/-- A reported row is timed exactly when the call is. -/
theorem SuiteReported.timing_eq {subject : VerificationSubject} {context : VerificationContext}
    {options : RunSuitesOptions} {haltedBy : Option String} {suite : VerificationSuite}
    {entries : List ReportEntry}
    (h : SuiteReported subject context options haltedBy suite entries) :
    ∀ entry ∈ entries, entry.row.timing.isSome = context.timing := by
  intro entry hentry
  rcases h.isRowOf entry hentry with ⟨_, _, hrowOf⟩
  exact hrowOf.2.2.2.2.2

/-- Every row of a report is timed exactly if the run is. -/
theorem Reported.timing_eq {suites : List VerificationSuite} {subject : VerificationSubject}
    {context : VerificationContext} {options : RunSuitesOptions}
    {report : List (VerificationSuite × List ReportEntry)}
    (h : Reported suites subject context options report) :
    ∀ entry ∈ report.flatMap Prod.snd, entry.row.timing.isSome = context.timing := by
  intro entry hentry
  rcases List.mem_flatMap.mp hentry with ⟨part, hpart, hmem⟩
  rcases List.append_of_mem hpart with ⟨before, after, hsplit⟩
  exact (h.2 before part after hsplit).timing_eq entry hmem

/-- Without a fatal failure, each check that applies was executed, and its row
carries the outcome. -/
theorem Reported.exists_executed {suites : List VerificationSuite}
    {subject : VerificationSubject} {context : VerificationContext} {options : RunSuitesOptions}
    {report : List (VerificationSuite × List ReportEntry)}
    (h : Reported suites subject context options report)
    (hfatal : hasFatalFailures ((report.flatMap Prod.snd).map ReportEntry.row) = false)
    {suite : VerificationSuite} (hsuite : suite ∈ suites)
    (hphases : suiteRunsInPhases suite options.phases = true)
    (happlies : evaluateApplies suite subject context = .ok true)
    {check : VerificationCheck} (hcheck : check ∈ suite.checks)
    (hadmitted : appliesToSubject check subject = true) :
    ∃ entry ∈ report.flatMap Prod.snd,
      entry.IsRowOf suite check.id check.fatal check.halts context.timing ∧
        ∃ store store' executed result, executed <:+: entry.events ∧
          Executes (check.execute subject context store) executed (result, store') ∧
            entry.row.outcome = outcomeOf check.id result := by
  rw [← h.1] at hsuite
  rcases List.mem_map.mp hsuite with ⟨part, hpart, rfl⟩
  rcases List.append_of_mem hpart with ⟨before, after, rfl⟩
  have hbefore : firstHalt (before.flatMap Prod.snd) = none := by
    apply firstHalt_eq_none_of_subset hfatal
    simp
  have hreported := h.2 before part after rfl
  rw [hbefore] at hreported
  rcases part with ⟨suite, entries⟩
  simp only at hreported happlies hphases hcheck ⊢
  cases hreported with
  | outsidePhases hout => simp [hphases] at hout
  | appliesThrew _ hthrew => simp [happlies] at hthrew
  | declined _ hdeclined => simp [happlies] at hdeclined
  | declinedExplicit _ hdeclined => simp [happlies] at hdeclined
  | @ran parts _ _ hitems hparts =>
      rw [← hitems] at hcheck
      rcases List.mem_map.mp hcheck with ⟨checkPart, hcheckPart, rfl⟩
      rcases List.append_of_mem hcheckPart with ⟨front, rest, rfl⟩
      have hfront : firstHalt (front.flatMap Prod.snd) = none := by
        apply firstHalt_eq_none_of_subset hfatal
        intro entry hentry
        simp [hentry]
      have hrow := hparts front checkPart rest rfl
      rw [hfront] at hrow
      rcases checkPart with ⟨check, rows⟩
      simp only at hrow hadmitted ⊢
      cases hrow with
      | notAdmitted hnot => simp [hadmitted] at hnot
      | notRun _ hhalted => simp at hhalted
      | @ran entry store store' started executed finished result _ _ hrowOf hexec houtcome
          hevents _ _ =>
          refine ⟨entry, by simp, hrowOf, store, store', executed, result, ?_, hexec, houtcome⟩
          rw [hevents]
          exact ⟨started, finished, rfl⟩

/-- Every run's rows and calls are those of a report. -/
theorem exists_report {platform : Platform} {suites : List VerificationSuite}
    {subject : VerificationSubject} {context : VerificationContext} {options : RunSuitesOptions}
    {store store' : ContextStore} {trace : List PortEvent} {rows : List CheckResult}
    (h : Executes (runSuites platform suites subject context options store) trace (rows, store')) :
    ∃ report, Reported suites subject context options report ∧
      rows = (report.flatMap Prod.snd).map ReportEntry.row ∧
      trace = (report.flatMap Prod.snd).flatMap ReportEntry.events := by
  rcases executes_bind_iff.mp h with ⟨first, second, run, rfl, hrun, hpure⟩
  simp only [executes_pure_iff, Prod.mk.injEq] at hpure
  rcases hpure with ⟨rfl, rfl, rfl⟩
  have hparts := collect_parts
    (fun halted suite entries => SuiteReported subject context options halted suite entries)
    ReportEntry.row ReportEntry.events RunState.haltedBy
    (fun halted entries => halted.or (firstHalt entries)) (by simp)
    (by simp [firstHalt_append, Option.or_assoc]) executes_runSuite hrun
  rcases hparts with ⟨parts, hitems, hrows, htrace, hspec, _⟩
  refine ⟨parts, ⟨hitems, ?_⟩, hrows, by simpa using htrace⟩
  intro before part after hsplit
  simpa using hspec before part after hsplit

/-- A loop that was not halted before is halted exactly by a row of its own. -/
theorem haltedBy_isSome_of_collect {platform : Platform} {subject : VerificationSubject}
    {context : VerificationContext} {options : RunSuitesOptions} {suites : List VerificationSuite}
    {state : RunState} {events : List PortEvent} {rows : List CheckResult}
    (h : Executes (collect (runSuite platform subject context options) suites {}) events
      (rows, state)) :
    state.haltedBy.isSome = rows.any CheckResult.isHaltingFailure := by
  have hparts := collect_parts
    (fun halted suite entries => SuiteReported subject context options halted suite entries)
    ReportEntry.row ReportEntry.events RunState.haltedBy
    (fun halted entries => halted.or (firstHalt entries)) (by simp)
    (by simp [firstHalt_append, Option.or_assoc]) executes_runSuite h
  rcases hparts with ⟨parts, _, rfl, _, _, hhalted⟩
  rw [hhalted, Option.none_or, firstHalt_isSome]

/-- In a run without a fatal failure, each fatal check that applies was executed and did
not fail. -/
theorem exists_passed {platform : Platform} {suites : List VerificationSuite}
    {subject : VerificationSubject} {context : VerificationContext} {options : RunSuitesOptions}
    {start stop : ContextStore} {trace : List PortEvent} {rows : List CheckResult}
    (h : Executes (runSuites platform suites subject context options start) trace (rows, stop))
    (hfatal : hasFatalFailures rows = false)
    {suite : VerificationSuite} (hsuite : suite ∈ suites)
    (hphases : suiteRunsInPhases suite options.phases = true)
    (happlies : evaluateApplies suite subject context = .ok true)
    {check : VerificationCheck} (hcheck : check ∈ suite.checks)
    (hadmitted : appliesToSubject check subject = true) (hflag : check.fatal = some true) :
    ∃ row ∈ rows, row.suite = suite.id ∧ row.id = computeId suite.phase suite.id check.id ∧
      ∃ store store' executed result, executed <:+: trace ∧
        Executes (check.execute subject context store) executed (result, store') ∧
          row.outcome = outcomeOf check.id result ∧ row.outcome.isFailure = false := by
  rcases exists_report h with ⟨report, hreported, rfl, rfl⟩
  rcases hreported.exists_executed hfatal hsuite hphases happlies hcheck hadmitted with
    ⟨entry, hentry, hrow, store, store', executed, result, hexecuted, hexec, houtcome⟩
  have hinside : executed <:+: (report.flatMap Prod.snd).flatMap ReportEntry.events := by
    rcases List.append_of_mem hentry with ⟨front, back, hsplit⟩
    have hentryEvents : entry.events <:+:
        (report.flatMap Prod.snd).flatMap ReportEntry.events := by
      rw [hsplit]
      exact ⟨front.flatMap ReportEntry.events, back.flatMap ReportEntry.events, by simp⟩
    exact hexecuted.trans hentryEvents
  have hnot : entry.row.outcome.isFailure = false :=
    hasFatalFailures_eq_false_iff.mp hfatal _ (List.mem_map_of_mem hentry)
      (hrow.2.2.2.1.trans hflag)
  exact ⟨entry.row, List.mem_map_of_mem hentry, hrow.2.2.1, hrow.2.1, store, store', executed,
    result, hinside, hexec, houtcome, hnot⟩

/-- A suite runs in a request that names its phase. -/
theorem suiteRunsInPhases_expandPhases {suite : VerificationSuite} {phase : SuitePhase}
    (hphase : suite.phase = some phase) {requested : Option (List SuitePhase)}
    (h : ∀ phases, requested = some phases → phase ∈ phases) :
    suiteRunsInPhases suite (expandPhases requested) = true := by
  cases requested with
  | none => rfl
  | some phases =>
      have hmem := h phases rfl
      unfold expandPhases
      dsimp only
      split_ifs
      · simp [suiteRunsInPhases, hphase, hmem]
      · simp [suiteRunsInPhases, hphase, hmem]

/-- Rounds that leave no fatal row leave the loop running. -/
theorem haltedBy_of_rounds {α : Type} {body : α → RunState → Async (List CheckResult × RunState)}
    (hbody : ∀ item state trace rows state',
      Executes (body item state) trace (rows, state') → ∃ entries : List ReportEntry,
        rows = entries.map ReportEntry.row ∧
          state'.haltedBy = state.haltedBy.or (firstHalt entries))
    {start stop : RunState} {rounds : List (Round Port Port.Answer α CheckResult RunState)}
    (hrounds : Rounds body start rounds stop) (hstart : start.haltedBy = none)
    (hfatal : hasFatalFailures (rounds.flatMap Round.output) = false) : stop.haltedBy = none := by
  induction hrounds with
  | nil => exact hstart
  | @cons start state round rest hbegin hruns _ ih =>
      rcases hbody _ _ _ _ _ hruns with ⟨entries, hrows, hstop⟩
      have hround : hasFatalFailures (entries.map ReportEntry.row) = false := by
        rw [← hrows]
        exact hasFatalFailures_of_subset hfatal (by simp)
      apply ih
      · rw [hstop, hbegin, hstart, firstHalt_eq_none_of_no_fatal hround]
        rfl
      · exact hasFatalFailures_of_subset hfatal (by simp)

/-- In a run without a fatal failure, two checks of a suite that stand one behind the other
and apply were executed one after the other: the second in the store that the first
left. -/
theorem exists_consecutive {platform : Platform} {suites : List VerificationSuite}
    {subject : VerificationSubject} {context : VerificationContext} {options : RunSuitesOptions}
    {start stop : ContextStore} {trace : List PortEvent} {rows : List CheckResult}
    (h : Executes (runSuites platform suites subject context options start) trace (rows, stop))
    (hfatal : hasFatalFailures rows = false)
    {suite : VerificationSuite} (hsuite : suite ∈ suites)
    (hphases : suiteRunsInPhases suite options.phases = true)
    (happlies : evaluateApplies suite subject context = .ok true)
    {front rest : List VerificationCheck} {first second : VerificationCheck}
    (hchecks : suite.checks = front ++ first :: second :: rest)
    (hfirst : appliesToSubject first subject = true)
    (hsecond : appliesToSubject second subject = true) :
    ∃ store middle after events events' result result' row row', events <:+: trace ∧
      Executes (first.execute subject context store) events (result, middle) ∧
      Executes (second.execute subject context middle) events' (result', after) ∧
      row ∈ rows ∧ row.id = computeId suite.phase suite.id first.id ∧
      row.fatal = first.fatal ∧ row.outcome = outcomeOf first.id result ∧
      row' ∈ rows ∧ row'.id = computeId suite.phase suite.id second.id ∧
      row'.outcome = outcomeOf second.id result' := by
  rcases executes_bind_iff.mp h with ⟨ran, _, _, rfl, hran, hpure⟩
  simp only [executes_pure_iff, Prod.mk.injEq] at hpure
  rcases hpure with ⟨rfl, rfl, rfl⟩
  rcases executes_collect_iff.mp hran with ⟨rounds, hrounds, rfl, rfl, hrows⟩
  rw [hrows] at hfatal ⊢
  rcases List.mem_map.mp hsuite with ⟨round, hround, rfl⟩
  rcases List.append_of_mem hround with ⟨before, behind, rfl⟩
  rcases Rounds.split hrounds with ⟨hbefore, hruns, _⟩
  have hsuiteStart : round.start.haltedBy = none := by
    apply haltedBy_of_rounds _ hbefore rfl
    · exact hasFatalFailures_of_subset hfatal (by simp)
    · intro item state trace rows state' hbody
      rcases executes_runSuite item state trace rows state' hbody with ⟨entries, _, hentries, _, hstop⟩
      exact ⟨entries, hentries, hstop⟩
  -- The suite runs the loop over its checks.
  rw [Round.Runs, runSuite_eq_collect hphases happlies] at hruns
  rcases executes_collect_iff.mp hruns with ⟨checked, hchecked, hitems, hevents, houtput⟩
  rw [hchecks] at hitems
  rcases List.map_eq_append_iff.mp hitems with ⟨passed, later, rfl, hpassed, hlater⟩
  rcases List.map_eq_cons_iff.mp hlater with ⟨one, next, rfl, rfl, hnext⟩
  rcases List.map_eq_cons_iff.mp hnext with ⟨two, last, rfl, rfl, _⟩
  rcases Rounds.split hchecked with ⟨hpassedRounds, hone, hnextRounds⟩
  rcases hnextRounds with _ | ⟨htwoStart, htwo, _⟩
  have honeStart : one.start.haltedBy = none := by
    apply haltedBy_of_rounds _ hpassedRounds hsuiteStart
    · exact hasFatalFailures_of_subset hfatal (by simp [houtput])
    · intro item state trace rows state' hbody
      rcases executes_runCheck item state trace rows state' hbody with ⟨entries, _, hentries, _, hstop⟩
      exact ⟨entries, hentries, hstop⟩
  rcases executes_runCheck_ran hfirst honeStart hone with
    ⟨entry, started, executed, finished, result, hrow, hcalls, hrowOf, hexec, houtcome, hsplit, _, _,
      hhalt⟩
  have htwoRunning : two.start.haltedBy = none := by
    rw [htwoStart, hhalt]
    apply firstHalt_eq_none_of_no_fatal
    exact hasFatalFailures_of_subset hfatal (by simp [houtput, hrow])
  rw [← htwoStart] at hexec
  rcases executes_runCheck_ran hsecond htwoRunning htwo with
    ⟨entry', _, executed', _, result', hrow', _, hrowOf', hexec', houtcome', _⟩
  refine ⟨one.start.store, _, _, executed, executed', result, result', entry.row, entry'.row, ?_,
    hexec, hexec', ?_, hrowOf.2.1, hrowOf.2.2.2.1, houtcome, ?_, hrowOf'.2.1, houtcome'⟩
  · have hinside : executed <:+: one.events := by
      rw [hcalls, hsplit]
      exact ⟨started, finished, rfl⟩
    have hinsideSuite : one.events <:+: round.events := by
      rw [hevents]
      exact ⟨passed.flatMap Round.events, (two :: last).flatMap Round.events, by simp⟩
    have hinsideRun : round.events <:+: (before ++ round :: behind).flatMap Round.events ++ [] :=
      ⟨before.flatMap Round.events, behind.flatMap Round.events, by simp⟩
    exact (hinside.trans hinsideSuite).trans hinsideRun
  · simp [houtput, hrow]
  · simp [houtput, hrow']

/-- Every run returns, and its rows and calls are those of a report in which
each check that applies has one row, run or listed as not run after the first
halting failure. -/
theorem runSuites_report (platform : Platform) (suites : List VerificationSuite)
    (subject : VerificationSubject) (context : VerificationContext) (options : RunSuitesOptions)
    (store : ContextStore) :
    (∃ trace result,
      Executes (runSuites platform suites subject context options store) trace result) ∧
    ∀ trace rows store',
      Executes (runSuites platform suites subject context options store) trace (rows, store') →
      ∃ report, Reported suites subject context options report ∧
        rows = (report.flatMap Prod.snd).map ReportEntry.row ∧
        trace = (report.flatMap Prod.snd).flatMap ReportEntry.events := by
  refine ⟨exists_executes _, ?_⟩
  intro trace rows store' h
  exact exists_report h

end VerifierCore
