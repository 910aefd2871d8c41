import VerifierCore.RunSuites.Report

/-!
# Two passes against one full run

When every check has a fixed outcome and every predicate a fixed answer, a run
over all phases and the two runs of a two-pass workflow agree on `verified`.
The runs may still differ in rows, because a halt in one of them hides checks
another one executes.  What they share is the rows each suite has when nothing
in front of it halted: its fresh rows.

Main results:

- Theorem {lit}`hasFatalFailures_iff_freshRows`: a run fails exactly when some
  suite of it fails on its own.
- Theorem {lit}`untimed_eq_freshRows`: a run in which no suite halts on its own
  reports the fresh rows of its suites.
- Theorem {lit}`twoPass_sound`: the full run is verified exactly when both
  passes are, and without a halt it reports the union of their rows.
-/

namespace VerifierCore

open Foundations Program

/-! ## Fixed answers -/

/-- A fixed outcome for each check and a fixed answer for each predicate. -/
structure FixedAnswers where
  outcome : VerificationCheck → Except Thrown CheckOutcome
  applies : VerificationSuite → Except Thrown Bool

/-- In this context every check of the suites only ever ends in its fixed
outcome, and every predicate gives its fixed answer. -/
structure FixedAnswers.Hold (fixed : FixedAnswers) (suites : List VerificationSuite)
    (subject : VerificationSubject) (context : VerificationContext) : Prop where
  applies : ∀ suite ∈ suites, evaluateApplies suite subject context = fixed.applies suite
  outcome : ∀ suite ∈ suites, ∀ check ∈ suite.checks, ∀ store trace result store',
    Executes (check.execute subject context store) trace (result, store') →
    result = fixed.outcome check

/-- A row without its timing. -/
def CheckResult.untimed (row : CheckResult) : CheckResult :=
  { row with timing := none }

/-- A row fails with or without its timing. -/
@[simp]
theorem CheckResult.isFatalFailure_untimed (row : CheckResult) :
    row.untimed.isFatalFailure = row.isFatalFailure :=
  rfl

/-- A row halts its suite with or without its timing. -/
@[simp]
theorem CheckResult.isHaltingFailure_untimed (row : CheckResult) :
    row.untimed.isHaltingFailure = row.isHaltingFailure :=
  rfl

/-- The rows of the entries, without timing. -/
def untimedRows (entries : List ReportEntry) : List CheckResult :=
  entries.map fun entry => entry.row.untimed

@[simp]
theorem untimedRows_nil : untimedRows [] = [] :=
  rfl

/-- The rows of consecutive entries follow each other. -/
@[simp]
theorem untimedRows_append (first second : List ReportEntry) :
    untimedRows (first ++ second) = untimedRows first ++ untimedRows second := by
  simp [untimedRows]

theorem untimedRows_singleton (entry : ReportEntry) :
    untimedRows [entry] = [entry.row.untimed] :=
  rfl

/-- A row of the suite is determined, up to timing, by its flags and outcome. -/
theorem ReportEntry.IsRowOf.untimed_eq {entry : ReportEntry} {suite : VerificationSuite}
    {checkId : String} {fatal halts : Option Bool} {timing : Bool}
    (h : entry.IsRowOf suite checkId fatal halts timing) :
    entry.row.untimed = buildResult suite checkId entry.row.outcome fatal halts := by
  rcases h with ⟨_, hid, hsuite, hfatal, hhalts, _⟩
  simp [CheckResult.untimed, buildResult, hid, hsuite, hfatal, hhalts]

/-- No entry halts exactly when no row is a halting failure. -/
theorem firstHalt_eq_none_iff {entries : List ReportEntry} :
    firstHalt entries = none ↔ ∀ row ∈ untimedRows entries, row.isHaltingFailure = false := by
  simp [firstHalt, untimedRows]

/-! ## Fresh rows -/

/-- The rows of a suite's checks under a halt flag. -/
def checkRows (fixed : FixedAnswers) (suite : VerificationSuite) (subject : VerificationSubject) :
    Option String → List VerificationCheck → List CheckResult
  | _, [] => []
  | haltedBy, check :: rest =>
      if appliesToSubject check subject then
        let outcome :=
          match haltedBy with
          | some halter => notRunOutcome halter
          | none => outcomeOf check.id (fixed.outcome check)
        let row := buildResult suite check.id outcome check.fatal check.halts
        row :: checkRows fixed suite subject
          (haltedBy.or (if row.isHaltingFailure then some check.id else none)) rest
      else checkRows fixed suite subject haltedBy rest

/-- The rows of a suite when nothing in front of it halted. -/
def freshRows (fixed : FixedAnswers) (subject : VerificationSubject)
    (explicitSuiteIds : List String) (suite : VerificationSuite) : List CheckResult :=
  match fixed.applies suite with
  | .error error =>
      [buildResult suite (appliesCheckId suite)
        (buildCheckErrorOutcome (appliesCheckId suite) error)
        (some (suite.checks.any fun check =>
          check.fatal = some true && appliesToSubject check subject)) none]
  | .ok false =>
      if suite.id ∈ explicitSuiteIds then
        [buildResult suite (appliesCheckId suite) declinedOutcome none none]
      else []
  | .ok true => checkRows fixed suite subject none suite.checks

section Passes

variable {fixed : FixedAnswers} {suites : List VerificationSuite}
  {subject : VerificationSubject} {context : VerificationContext} {options : RunSuitesOptions}

/-- The checks of a suite report the rows their fixed outcomes give. -/
theorem untimedRows_parts {suite : VerificationSuite} (hhold : fixed.Hold suites subject context)
    (hsuite : suite ∈ suites) (parts : List (VerificationCheck × List ReportEntry))
    (haltedBy : Option String) (hchecks : ∀ part ∈ parts, part.1 ∈ suite.checks)
    (hparts : ∀ before part after, parts = before ++ part :: after →
      CheckReported suite subject context (haltedBy.or (firstHalt (before.flatMap Prod.snd)))
        part.1 part.2) :
    untimedRows (parts.flatMap Prod.snd) =
      checkRows fixed suite subject haltedBy (parts.map Prod.fst) := by
  induction parts generalizing haltedBy with
  | nil => rfl
  | cons part rest ih =>
      rcases part with ⟨check, entries⟩
      have hfirst := hparts [] (check, entries) rest rfl
      have hrest := ih (haltedBy.or (firstHalt entries))
        (fun other hmem => hchecks other (List.mem_cons_of_mem _ hmem))
        (by
          intro before other after hsplit
          have hother := hparts ((check, entries) :: before) other after (by simp [hsplit])
          simpa [firstHalt_append, Option.or_assoc] using hother)
      simp only [List.flatMap_nil, firstHalt_nil, Option.or_none] at hfirst
      simp only [List.flatMap_cons, untimedRows_append, hrest, List.map_cons, checkRows]
      cases hfirst with
      | notAdmitted hadmitted => simp [hadmitted]
      | notRun hadmitted hhalted hrow houtcome _ =>
          have huntimed := hrow.untimed_eq
          rw [houtcome] at huntimed
          have hcheckId : _ = check.id := hrow.1
          rw [firstHalt_singleton, ← CheckResult.isHaltingFailure_untimed, huntimed, hcheckId]
          simp [hadmitted, hhalted, untimedRows_singleton, huntimed]
      | ran hadmitted hhalted hrow hexec houtcome _ _ _ =>
          have huntimed := hrow.untimed_eq
          have hresult := hhold.outcome suite hsuite check
            (hchecks (check, _) List.mem_cons_self) _ _ _ _ hexec
          rw [houtcome, hresult] at huntimed
          have hcheckId : _ = check.id := hrow.1
          rw [firstHalt_singleton, ← CheckResult.isHaltingFailure_untimed, huntimed, hcheckId]
          simp [hadmitted, hhalted, untimedRows_singleton, huntimed]

/-- A suite with nothing halted in front of it reports its fresh rows. -/
theorem SuiteReported.untimedRows_eq {suite : VerificationSuite} {entries : List ReportEntry}
    (hhold : fixed.Hold suites subject context) (hsuite : suite ∈ suites)
    (h : SuiteReported subject context options none suite entries) :
    untimedRows entries =
      if suiteRunsInPhases suite options.phases then
        freshRows fixed subject options.explicitSuiteIds suite
      else [] := by
  have happlies := hhold.applies suite hsuite
  unfold freshRows
  rw [← happlies]
  cases h with
  | outsidePhases hphases => simp [hphases]
  | appliesThrew hphases hthrew _ hrow houtcome _ =>
      have huntimed := hrow.untimed_eq
      rw [houtcome] at huntimed
      simp [hphases, hthrew, untimedRows_singleton, huntimed]
  | declined hphases hfalse hexplicit => simp [hphases, hfalse, hexplicit]
  | declinedExplicit hphases hfalse hexplicit hrow houtcome _ =>
      have huntimed := hrow.untimed_eq
      rw [houtcome] at huntimed
      simp [hphases, hfalse, hexplicit, untimedRows_singleton, huntimed]
  | @ran parts hphases hran hitems hparts =>
      have htrue : evaluateApplies suite subject context = .ok true := by
        rcases hran with htrue | ⟨_, hhalted⟩
        · exact htrue
        · exact absurd rfl hhalted
      have hchecks : ∀ part ∈ parts, part.1 ∈ suite.checks := by
        intro part hmem
        rw [← hitems]
        exact List.mem_map_of_mem hmem
      simp [hphases, htrue, untimedRows_parts hhold hsuite parts none hchecks hparts, hitems]

/-- A suite after a halt reports no failure. -/
theorem SuiteReported.no_failure {suite : VerificationSuite} {entries : List ReportEntry}
    {halter : String} (h : SuiteReported subject context options (some halter) suite entries) :
    ∀ entry ∈ entries, entry.row.outcome.isFailure = false := by
  cases h with
  | outsidePhases => simp
  | appliesThrew _ _ hhalted => cases hhalted
  | declined => simp
  | declinedExplicit _ _ _ _ houtcome _ => simp [houtcome, declinedOutcome]
  | ran _ _ _ hparts =>
      intro entry hentry
      rcases List.mem_flatMap.mp hentry with ⟨part, hpart, hmem⟩
      rcases List.append_of_mem hpart with ⟨before, after, hsplit⟩
      have hreported := hparts before part after hsplit
      rw [Option.some_or] at hreported
      generalize part.2 = partEntries at hreported hmem
      cases hreported with
      | notAdmitted => simp at hmem
      | notRun _ _ _ houtcome _ =>
          rw [List.mem_singleton] at hmem
          simp [hmem, houtcome, notRunOutcome]
      | ran _ hhalted => cases hhalted

/-! ## Runs -/

/-- While no suite halts on its own, each suite reports its fresh rows. -/
theorem untimedRows_report (hhold : fixed.Hold suites subject context)
    (hquiet : ∀ suite ∈ suites, suiteRunsInPhases suite options.phases = true →
      ∀ row ∈ freshRows fixed subject options.explicitSuiteIds suite,
        row.isHaltingFailure = false)
    (report seen : List (VerificationSuite × List ReportEntry))
    (hsuites : ∀ part ∈ report, part.1 ∈ suites)
    (hseen : firstHalt (seen.flatMap Prod.snd) = none)
    (hreport : ∀ before part after, seen ++ report = before ++ part :: after →
      SuiteReported subject context options (firstHalt (before.flatMap Prod.snd)) part.1 part.2) :
    untimedRows (report.flatMap Prod.snd) =
      ((report.map Prod.fst).filter fun suite => suiteRunsInPhases suite options.phases).flatMap
        (freshRows fixed subject options.explicitSuiteIds) := by
  induction report generalizing seen with
  | nil => rfl
  | cons part rest ih =>
      have hsuite := hsuites part List.mem_cons_self
      have hpart := hreport seen part rest rfl
      rw [hseen] at hpart
      have hrows := hpart.untimedRows_eq hhold hsuite
      have hhalt : firstHalt part.2 = none := by
        rw [firstHalt_eq_none_iff, hrows]
        by_cases hphases : suiteRunsInPhases part.1 options.phases = true
        · simpa [hphases] using hquiet part.1 hsuite hphases
        · simp [hphases]
      have hrest := ih (seen ++ [part])
        (fun other hmem => hsuites other (List.mem_cons_of_mem _ hmem))
        (by simp [firstHalt_append, hseen, hhalt])
        (by simpa using hreport)
      by_cases hphases : suiteRunsInPhases part.1 options.phases = true
      · simp [hrows, hrest, hphases]
      · simp [hrows, hrest, hphases]

/-- The row is reported in a run of these suites. -/
theorem mem_untimed_rows_iff {rows : List CheckResult} {entries : List ReportEntry}
    (h : rows = entries.map ReportEntry.row) :
    rows.map CheckResult.untimed = untimedRows entries := by
  simp [h, untimedRows]

/-- A run in which no suite halts on its own reports the fresh rows of its
suites. -/
theorem untimed_eq_freshRows {report : List (VerificationSuite × List ReportEntry)}
    (hhold : fixed.Hold suites subject context)
    (hreport : Reported suites subject context options report)
    (hquiet : ∀ suite ∈ suites, suiteRunsInPhases suite options.phases = true →
      ∀ row ∈ freshRows fixed subject options.explicitSuiteIds suite,
        row.isHaltingFailure = false) :
    untimedRows (report.flatMap Prod.snd) =
      (suites.filter fun suite => suiteRunsInPhases suite options.phases).flatMap
        (freshRows fixed subject options.explicitSuiteIds) := by
  rcases hreport with ⟨hitems, hparts⟩
  have hsuites : ∀ part ∈ report, part.1 ∈ suites := by
    intro part hmem
    rw [← hitems]
    exact List.mem_map_of_mem hmem
  rw [untimedRows_report hhold hquiet report [] hsuites rfl hparts, hitems]

/-- In a run without a halting failure, every suite is quiet on its own. -/
theorem quiet_of_no_halt {report : List (VerificationSuite × List ReportEntry)}
    (hhold : fixed.Hold suites subject context)
    (hreport : Reported suites subject context options report)
    (hnone : firstHalt (report.flatMap Prod.snd) = none) :
    ∀ suite ∈ suites, suiteRunsInPhases suite options.phases = true →
      ∃ part ∈ report, part.1 = suite ∧
        untimedRows part.2 = freshRows fixed subject options.explicitSuiteIds suite := by
  intro suite hsuite hphases
  rcases hreport with ⟨hitems, hparts⟩
  rw [← hitems] at hsuite
  rcases List.mem_map.mp hsuite with ⟨part, hpart, rfl⟩
  rcases List.append_of_mem hpart with ⟨before, after, hsplit⟩
  have hreported := hparts before part after hsplit
  have hbefore : firstHalt (before.flatMap Prod.snd) = none := by
    rw [hsplit, List.flatMap_append, firstHalt_append] at hnone
    exact (Option.or_eq_none_iff.mp hnone).1
  rw [hbefore] at hreported
  have hrows := hreported.untimedRows_eq hhold (hitems ▸ hsuite)
  rw [if_pos hphases] at hrows
  exact ⟨part, hpart, rfl, hrows⟩

/-- A run fails exactly when some suite of it fails on its own. -/
theorem hasFatalFailures_iff_freshRows {report : List (VerificationSuite × List ReportEntry)}
    (hhold : fixed.Hold suites subject context)
    (hreport : Reported suites subject context options report) :
    hasFatalFailures (untimedRows (report.flatMap Prod.snd)) = true ↔
      ∃ suite ∈ suites, suiteRunsInPhases suite options.phases = true ∧
        hasFatalFailures (freshRows fixed subject options.explicitSuiteIds suite) = true := by
  constructor
  · intro h
    rcases hasFatalFailures_iff.mp h with ⟨row, hrow, hfatal⟩
    rcases List.mem_map.mp hrow with ⟨entry, hentry, rfl⟩
    rcases List.mem_flatMap.mp hentry with ⟨part, hpart, hmem⟩
    rcases List.append_of_mem hpart with ⟨before, after, hsplit⟩
    have hreported := hreport.2 before part after hsplit
    have hsuite : part.1 ∈ suites := hreport.1 ▸ List.mem_map_of_mem hpart
    cases hhalted : firstHalt (before.flatMap Prod.snd) with
    | some halter =>
        -- A failure cannot come from a suite behind a halt.
        rw [hhalted] at hreported
        have hnofailure := hreported.no_failure entry hmem
        rw [CheckResult.isFatalFailure_untimed, CheckResult.isFatalFailure, hnofailure] at hfatal
        simp at hfatal
    | none =>
        rw [hhalted] at hreported
        have hrows := hreported.untimedRows_eq hhold hsuite
        have hfresh : entry.row.untimed ∈ untimedRows part.2 := List.mem_map_of_mem hmem
        rw [hrows] at hfresh
        by_cases hphases : suiteRunsInPhases part.1 options.phases = true
        · rw [if_pos hphases] at hfresh
          exact ⟨part.1, hsuite, hphases, hasFatalFailures_iff.mpr ⟨_, hfresh, hfatal⟩⟩
        · simp [hphases] at hfresh
  · rintro ⟨suite, hsuite, hphases, hfails⟩
    cases hnone : firstHalt (report.flatMap Prod.snd) with
    | some halter =>
        -- Whatever halted the run failed fatally itself.
        rcases Option.map_eq_some_iff.mp hnone with ⟨entry, hfind, _⟩
        have hmem := List.mem_of_find?_eq_some hfind
        have hhalting := List.find?_some hfind
        exact hasFatalFailures_iff.mpr ⟨entry.row.untimed, List.mem_map_of_mem hmem,
          CheckResult.isFatalFailure_of_isHaltingFailure hhalting⟩
    | none =>
        rcases quiet_of_no_halt hhold hreport hnone suite hsuite hphases with
          ⟨part, hpart, _, hrows⟩
        rw [← hrows] at hfails
        rcases hasFatalFailures_iff.mp hfails with ⟨row, hrow, hfatal⟩
        rcases List.mem_map.mp hrow with ⟨entry, hentry, rfl⟩
        refine hasFatalFailures_iff.mpr ⟨entry.row.untimed, ?_, hfatal⟩
        exact List.mem_map_of_mem (List.mem_flatMap.mpr ⟨part, hpart, hentry⟩)

end Passes

/-! ## The two passes -/

/-- Rows fail a subject with or without their timings. -/
@[simp]
theorem hasFatalFailures_map_untimed (rows : List CheckResult) :
    hasFatalFailures (rows.map CheckResult.untimed) = hasFatalFailures rows := by
  simp [hasFatalFailures, Function.comp_def]

/-- A run's verdict and, without a halt, its rows, in terms of fresh rows. -/
theorem run_eq_freshRows {platform : Platform} {fixed : FixedAnswers}
    {suites : List VerificationSuite} {subject : VerificationSubject}
    {context : VerificationContext} {options : RunSuitesOptions} {store store' : ContextStore}
    {trace : List PortEvent} {rows : List CheckResult}
    (hhold : fixed.Hold suites subject context)
    (h : Executes (runSuites platform suites subject context options store) trace (rows, store')) :
    (hasFatalFailures rows = true ↔
      ∃ suite ∈ suites, suiteRunsInPhases suite options.phases = true ∧
        hasFatalFailures (freshRows fixed subject options.explicitSuiteIds suite) = true) ∧
    ((∀ row ∈ rows, row.isHaltingFailure = false) →
      ∀ suite ∈ suites, suiteRunsInPhases suite options.phases = true →
        ∀ row ∈ freshRows fixed subject options.explicitSuiteIds suite,
          row.isHaltingFailure = false) ∧
    ((∀ suite ∈ suites, suiteRunsInPhases suite options.phases = true →
        ∀ row ∈ freshRows fixed subject options.explicitSuiteIds suite,
          row.isHaltingFailure = false) →
      rows.map CheckResult.untimed =
        (suites.filter fun suite => suiteRunsInPhases suite options.phases).flatMap
          (freshRows fixed subject options.explicitSuiteIds)) := by
  rcases exists_report h with ⟨report, hreport, hrows, _⟩
  have huntimed := mem_untimed_rows_iff hrows
  refine ⟨?_, ?_, ?_⟩
  · rw [← hasFatalFailures_map_untimed, huntimed]
    exact hasFatalFailures_iff_freshRows hhold hreport
  · intro hnone suite hsuite hphases row hrow
    have hhalt : firstHalt (report.flatMap Prod.snd) = none := by
      rw [firstHalt_eq_none_iff, ← huntimed]
      intro row' hrow'
      rcases List.mem_map.mp hrow' with ⟨original, hmem, rfl⟩
      exact hnone original hmem
    rcases quiet_of_no_halt hhold hreport hhalt suite hsuite hphases with
      ⟨part, hpart, _, hpartRows⟩
    rw [← hpartRows] at hrow
    rcases List.mem_map.mp hrow with ⟨entry, hentry, rfl⟩
    apply hnone entry.row
    rw [hrows]
    exact List.mem_map_of_mem (List.mem_flatMap.mpr ⟨part, hpart, hentry⟩)
  · intro hquiet
    rw [huntimed]
    exact untimed_eq_freshRows hhold hreport hquiet

/-- A run that is not timed has no timing on its rows. -/
theorem untimed_of_timing_eq_false {platform : Platform} {suites : List VerificationSuite}
    {subject : VerificationSubject} {context : VerificationContext} {options : RunSuitesOptions}
    {store store' : ContextStore} {trace : List PortEvent} {rows : List CheckResult}
    (htiming : context.timing = false)
    (h : Executes (runSuites platform suites subject context options store) trace (rows, store')) :
    rows.map CheckResult.untimed = rows := by
  rcases exists_report h with ⟨report, hreport, rfl, _⟩
  rw [List.map_map]
  apply List.map_congr_left
  intro entry hentry
  have huntimed : entry.row.timing.isSome = context.timing := hreport.timing_eq entry hentry
  rw [htiming, Option.isSome_eq_false_iff, Option.isNone_iff_eq_none] at huntimed
  simp [CheckResult.untimed, ← huntimed]

/-- Every phase the suites use is requested by one of the two expanded phase
sets. -/
def PhasesCover (suites : List VerificationSuite) (first second : List SuitePhase) : Prop :=
  ∀ suite ∈ suites, ∀ phase ∈ suite.phase,
    phase ∈ (expandPhases (some first)).getD [] ∨ phase ∈ (expandPhases (some second)).getD []

/-- A suite runs in one of two passes whose phases cover all. -/
theorem suiteRunsInPhases_of_cover {suites : List VerificationSuite}
    {first second : List SuitePhase} (hcover : PhasesCover suites first second)
    {suite : VerificationSuite} (hsuite : suite ∈ suites) :
    suiteRunsInPhases suite (expandPhases (some first)) = true ∨
      suiteRunsInPhases suite (expandPhases (some second)) = true := by
  have hexpanded : ∀ phases, ∃ expanded, expandPhases (some phases) = some expanded := by
    intro phases
    dsimp only [expandPhases]
    split_ifs
    · exact ⟨_, rfl⟩
    · exact ⟨_, rfl⟩
  rcases hexpanded first with ⟨expandedFirst, hfirst⟩
  rcases hexpanded second with ⟨expandedSecond, hsecond⟩
  cases hphase : suite.phase with
  | none => simp [suiteRunsInPhases, hfirst, hphase]
  | some phase =>
      have h := hcover suite hsuite phase hphase
      simpa [suiteRunsInPhases, hfirst, hsecond, hphase] using h

/-- The full run is verified exactly when both passes are; and if the full run
has no halting failure, its rows are those of the two passes together. -/
theorem twoPass_sound {platform : Platform} {fixed : FixedAnswers}
    {suites : List VerificationSuite} {subject : VerificationSubject}
    {explicitSuiteIds : List String} {first second : List SuitePhase}
    {context context₁ context₂ : VerificationContext}
    {store store₁ store₂ stop stop₁ stop₂ : ContextStore}
    {trace trace₁ trace₂ : List PortEvent} {rows rows₁ rows₂ : List CheckResult}
    (hcover : PhasesCover suites first second)
    (hhold : fixed.Hold suites subject context) (hhold₁ : fixed.Hold suites subject context₁)
    (hhold₂ : fixed.Hold suites subject context₂)
    (hfull : Executes (runSuites platform suites subject context
      { explicitSuiteIds := explicitSuiteIds, phases := none } store) trace (rows, stop))
    (hfirst : Executes (runSuites platform suites subject context₁
      { explicitSuiteIds := explicitSuiteIds, phases := expandPhases (some first) } store₁)
      trace₁ (rows₁, stop₁))
    (hsecond : Executes (runSuites platform suites subject context₂
      { explicitSuiteIds := explicitSuiteIds, phases := expandPhases (some second) } store₂)
      trace₂ (rows₂, stop₂)) :
    (hasFatalFailures rows = false ↔
      hasFatalFailures rows₁ = false ∧ hasFatalFailures rows₂ = false) ∧
    ((∀ row ∈ rows, row.isHaltingFailure = false) →
      (∀ row, row ∈ rows.map CheckResult.untimed ↔
        row ∈ rows₁.map CheckResult.untimed ∨ row ∈ rows₂.map CheckResult.untimed) ∧
      (context.timing = false → context₁.timing = false → context₂.timing = false →
        ∀ row, row ∈ rows ↔ row ∈ rows₁ ∨ row ∈ rows₂)) := by
  rcases run_eq_freshRows hhold hfull with ⟨hfails, hquiet, hrows⟩
  rcases run_eq_freshRows hhold₁ hfirst with ⟨hfails₁, _, hrows₁⟩
  rcases run_eq_freshRows hhold₂ hsecond with ⟨hfails₂, _, hrows₂⟩
  have hall : ∀ suite, suiteRunsInPhases suite none = true := fun _ => rfl
  constructor
  · rw [← not_iff_not, not_and_or]
    simp only [Bool.not_eq_false, hfails, hfails₁, hfails₂]
    constructor
    · rintro ⟨suite, hsuite, _, hfresh⟩
      rcases suiteRunsInPhases_of_cover hcover hsuite with hphases | hphases
      · exact .inl ⟨suite, hsuite, hphases, hfresh⟩
      · exact .inr ⟨suite, hsuite, hphases, hfresh⟩
    · rintro (⟨suite, hsuite, _, hfresh⟩ | ⟨suite, hsuite, _, hfresh⟩)
      · exact ⟨suite, hsuite, hall suite, hfresh⟩
      · exact ⟨suite, hsuite, hall suite, hfresh⟩
  · intro hnone
    have hquietAll := hquiet hnone
    have hunion : ∀ row, row ∈ rows.map CheckResult.untimed ↔
        row ∈ rows₁.map CheckResult.untimed ∨ row ∈ rows₂.map CheckResult.untimed := by
      intro row
      rw [hrows hquietAll, hrows₁ fun suite hsuite _ => hquietAll suite hsuite (hall suite),
        hrows₂ fun suite hsuite _ => hquietAll suite hsuite (hall suite)]
      simp only [List.mem_flatMap, List.mem_filter]
      constructor
      · rintro ⟨suite, ⟨hsuite, _⟩, hrow⟩
        rcases suiteRunsInPhases_of_cover hcover hsuite with hphases | hphases
        · exact .inl ⟨suite, ⟨hsuite, hphases⟩, hrow⟩
        · exact .inr ⟨suite, ⟨hsuite, hphases⟩, hrow⟩
      · rintro (⟨suite, ⟨hsuite, _⟩, hrow⟩ | ⟨suite, ⟨hsuite, _⟩, hrow⟩)
        · exact ⟨suite, ⟨hsuite, hall suite⟩, hrow⟩
        · exact ⟨suite, ⟨hsuite, hall suite⟩, hrow⟩
    refine ⟨hunion, ?_⟩
    intro htiming htiming₁ htiming₂ row
    have h := hunion row
    rwa [untimed_of_timing_eq_false htiming hfull, untimed_of_timing_eq_false htiming₁ hfirst,
      untimed_of_timing_eq_false htiming₂ hsecond] at h

/-! ### A tagged and an untagged suite -/

/-- A check that always ends in one outcome. -/
def constantCheck (id : String) (outcome : CheckOutcome) (fatal : Bool) : VerificationCheck where
  id := id
  fatal := some fatal
  execute := pureBody fun _ _ => .ok outcome

/-- A suite of the first pass. -/
def taggedSuite : VerificationSuite where
  id := "core"
  phase := some .cryptographic
  checks := [constantCheck "core.ok" (.success "ok") true]

/-- A suite without a phase. -/
def untaggedSuite : VerificationSuite where
  id := "extra"
  checks := [constantCheck "extra.warning" (.failure []) false]

/-- Their fixed answers. -/
def constantAnswers : FixedAnswers where
  outcome check := .ok (if check.id = "core.ok" then .success "ok" else .failure [])
  applies _ := .ok true

/-- A context in which no call is timed. -/
def constantContext : VerificationContext := {}

/-- The checks of both suites answer alike in each pass. -/
theorem constantAnswers_hold :
    constantAnswers.Hold [taggedSuite, untaggedSuite] {} constantContext where
  applies := by
    intro suite hsuite
    simp only [List.mem_cons, List.not_mem_nil, or_false] at hsuite
    rcases hsuite with rfl | rfl
    · rfl
    · rfl
  outcome := by
    intro suite hsuite check hcheck store trace result store' h
    simp only [List.mem_cons, List.not_mem_nil, or_false] at hsuite
    rcases hsuite with rfl | rfl
    · rw [List.mem_singleton.mp hcheck] at h ⊢
      exact (Prod.mk.inj (executes_pure_iff.mp h).2).1
    · rw [List.mem_singleton.mp hcheck] at h ⊢
      exact (Prod.mk.inj (executes_pure_iff.mp h).2).1

/-- The row of the tagged suite's check. -/
def taggedRow : CheckResult :=
  buildResult taggedSuite "core.ok" (.success "ok") (some true) none

/-- The row of the untagged suite's check. -/
def untaggedRow : CheckResult :=
  buildResult untaggedSuite "extra.warning" (.failure []) (some false) none

/-- A cryptographic and a semantic pass over the two suites. -/
theorem twoPass_sound_constant :
    (hasFatalFailures [taggedRow, untaggedRow] = false ↔
      hasFatalFailures [taggedRow, untaggedRow] = false ∧
        hasFatalFailures [untaggedRow] = false) ∧
    ((∀ row ∈ [taggedRow, untaggedRow], row.isHaltingFailure = false) →
      (∀ row, row ∈ [taggedRow, untaggedRow].map CheckResult.untimed ↔
        row ∈ [taggedRow, untaggedRow].map CheckResult.untimed ∨
          row ∈ [untaggedRow].map CheckResult.untimed) ∧
      (constantContext.timing = false → constantContext.timing = false →
        constantContext.timing = false →
        ∀ row, row ∈ [taggedRow, untaggedRow] ↔
          row ∈ [taggedRow, untaggedRow] ∨ row ∈ [untaggedRow])) :=
  @twoPass_sound (PlatformTable.platform {}) constantAnswers [taggedSuite, untaggedSuite] {} []
    [.cryptographic] [.semantic] constantContext constantContext constantContext {} {} {} _ _ _
    [] [] [] _ _ _ (by simp [PhasesCover, taggedSuite, untaggedSuite, expandPhases])
    constantAnswers_hold constantAnswers_hold constantAnswers_hold
    (replay_eq_some_iff.mp rfl) (replay_eq_some_iff.mp rfl) (replay_eq_some_iff.mp rfl)

end VerifierCore
