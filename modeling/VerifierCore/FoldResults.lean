import VerifierCore.Text
import VerifierCore.Types
import VerifierCore.Foundations.Grouping

/-!
# Folding check results into suite summaries

The rows of a run are grouped by suite and each group is summarized.  Three
verdicts are computed independently from the same rows: the verifier's own
`verified`, each summary's `verified`, and each summary's `fatalFailureAt`.

Main results:

- Theorem {lit}`tallySuite_eq`: what the counters of a tally count.
- Theorem {lit}`mem_summaries_iff`: the summaries of a fold.
- Theorem {lit}`foldCheckResults_coherent`: the three verdicts agree, every row
  is counted once, and the status is read off the counts.
-/

namespace VerifierCore

open Foundations

/-! ## Identifiers -/

/-- A suite's phase as it appears on a summary. -/
inductive SuiteSummaryPhase where
  | phase (phase : SuitePhase)
  | unknown
deriving DecidableEq

/-- The phase of a summary; a suite without a phase is unknown. -/
def SuiteSummaryPhase.of : Option SuitePhase → SuiteSummaryPhase
  | some p => .phase p
  | none => .unknown

/-- The name of a phase in ids. -/
def SuiteSummaryPhase.name : SuiteSummaryPhase → String
  | .phase p => p.name
  | .unknown => "unknown"

/-- The dot-separated id of a check result or a suite summary. -/
def computeId (phase : Option SuitePhase) (suite localCheckId : String) : String :=
  let phaseSeg := (SuiteSummaryPhase.of phase).name
  let localPart :=
    if startsWith localCheckId (suite ++ ".") then sliceAfter localCheckId (suite ++ ".")
    else localCheckId
  let segments :=
    if phaseSeg = suite then [phaseSeg, localPart] else [phaseSeg, suite, localPart]
  join "." (segments.filter fun segment => segment ≠ "")

example : computeId (some .cryptographic) "core" "core.proof-exists" =
    "cryptographic.core.proof-exists" := by decide

example : computeId (some .recognition) "recognition" "recognition.profile" =
    "recognition.profile" := by decide

/-- Every phase has a name. -/
theorem phaseName_ne_empty (phase : SuiteSummaryPhase) : phase.name ≠ "" := by
  cases phase with
  | unknown => decide
  | phase p => cases p <;> decide

/-- The name of a phase is one segment. -/
theorem dot_not_mem_phaseName (phase : SuiteSummaryPhase) : '.' ∉ phase.name.toList := by
  cases phase with
  | unknown => decide
  | phase p => cases p <;> decide

/-- Phases have different names. -/
theorem phaseName_injective : Function.Injective SuiteSummaryPhase.name := by
  intro phase phase' h
  cases phase with
  | unknown =>
      cases phase' with
      | unknown => rfl
      | phase p => cases p <;> exact absurd h (by decide)
  | phase p =>
      cases phase' with
      | unknown => cases p <;> exact absurd h (by decide)
      | phase p' => cases p <;> cases p' <;> first | rfl | exact absurd h (by decide)

/-- A summary's phase tells the suite's. -/
theorem summaryPhase_of_injective : Function.Injective SuiteSummaryPhase.of := by
  intro phase phase' h
  cases phase <;> cases phase' <;> simp_all [SuiteSummaryPhase.of]

/-- The text in front of the first dot is the first segment. -/
theorem takeWhile_join {segment : String} (h : '.' ∉ segment.toList) (rest : List String) :
    (join "." (segment :: rest)).toList.takeWhile (fun c => c ≠ '.') = segment.toList := by
  have hall : ∀ c ∈ segment.toList, (decide (c ≠ '.')) = true := by
    intro c hc
    rw [decide_eq_true_eq]
    rintro rfl
    exact h hc
  cases rest with
  | nil =>
      rw [join, List.takeWhile_eq_self_iff]
      exact hall
  | cons next rest =>
      have hjoin : (join "." (segment :: next :: rest)).toList =
          segment.toList ++ '.' :: (join "." (next :: rest)).toList := by
        simp [join, String.toList_append]
      rw [hjoin, List.takeWhile_append_of_pos hall, List.takeWhile_cons_of_neg (by simp),
        List.append_nil]

/-- An id starts with the name of its phase. -/
theorem takeWhile_computeId (phase : Option SuitePhase) (suite localCheckId : String) :
    (computeId phase suite localCheckId).toList.takeWhile (fun c => c ≠ '.') =
      (SuiteSummaryPhase.of phase).name.toList := by
  have hne := phaseName_ne_empty (.of phase)
  have hdot := dot_not_mem_phaseName (.of phase)
  unfold computeId
  dsimp only
  split_ifs <;> rw [List.filter_cons_of_pos (by simpa using hne)] <;>
    exact takeWhile_join hdot _

/-- Rows with one id belong to suites of one phase. -/
theorem phase_eq_of_computeId_eq {phase phase' : Option SuitePhase}
    {suite suite' check check' : String}
    (h : computeId phase suite check = computeId phase' suite' check') : phase = phase' := by
  have hname := takeWhile_computeId phase suite check
  rw [h, takeWhile_computeId] at hname
  exact summaryPhase_of_injective (phaseName_injective (String.toList_inj.mp hname)).symm

/-! ## Fatal failures -/

/-- A row whose failure counts against `verified`. -/
def CheckResult.isFatalFailure (row : CheckResult) : Bool :=
  row.fatal = some true && row.outcome.isFailure

/-- Whether some row failed fatally. -/
def hasFatalFailures (results : List CheckResult) : Bool :=
  results.any CheckResult.isFatalFailure

/-- There is a fatal failure exactly if a row is one. -/
theorem hasFatalFailures_iff {results : List CheckResult} :
    hasFatalFailures results = true ↔ ∃ row ∈ results, row.isFatalFailure = true := by
  simp [hasFatalFailures]

/-- Without a fatal failure no fatal row failed. -/
theorem hasFatalFailures_eq_false_iff {results : List CheckResult} :
    hasFatalFailures results = false ↔
      ∀ row ∈ results, row.fatal = some true → row.outcome.isFailure = false := by
  simp [hasFatalFailures, CheckResult.isFatalFailure]

/-! ## Tallies -/

/-- The code of the rows a halt leaves behind. -/
def notRunAfterFatal : String :=
  "NOT_RUN_AFTER_FATAL"

/-- Per-outcome counts for one suite. -/
structure SuiteTally where
  passed : Nat := 0
  failed : Nat := 0
  skipped : Nat := 0
  notRun : Nat := 0
  haltedBy : Option String := none

/-- Count one row. -/
def SuiteTally.count (tally : SuiteTally) (row : CheckResult) : SuiteTally :=
  match row.outcome with
  | .success .. => { tally with passed := tally.passed + 1 }
  | .failure .. => { tally with failed := tally.failed + 1 }
  | .skipped _ code haltedBy =>
      if code = some notRunAfterFatal then
        { tally with notRun := tally.notRun + 1, haltedBy := tally.haltedBy.or haltedBy }
      else { tally with skipped := tally.skipped + 1 }

/-- Count every row of a suite. -/
def tallySuite (suiteChecks : List CheckResult) : SuiteTally :=
  suiteChecks.foldl SuiteTally.count {}

/-- An outcome that a halt left behind. -/
def CheckOutcome.isNotRun : CheckOutcome → Bool
  | .skipped _ code _ => code = some notRunAfterFatal
  | _ => false

/-- An outcome skipped for any other reason. -/
def CheckOutcome.isSkipped : CheckOutcome → Bool
  | .skipped _ code _ => code ≠ some notRunAfterFatal
  | _ => false

/-- The number of rows of one kind. -/
def countOutcomes (kind : CheckOutcome → Bool) (rows : List CheckResult) : Nat :=
  rows.countP fun row => kind row.outcome

@[simp]
theorem countOutcomes_nil (kind : CheckOutcome → Bool) : countOutcomes kind [] = 0 :=
  rfl

@[simp]
theorem countOutcomes_cons (kind : CheckOutcome → Bool) (row : CheckResult)
    (rows : List CheckResult) :
    countOutcomes kind (row :: rows) =
      countOutcomes kind rows + if kind row.outcome then 1 else 0 :=
  List.countP_cons

/-- An outcome is of exactly one of the four kinds. -/
theorem CheckOutcome.kinds (outcome : CheckOutcome) :
    ((if outcome.isSuccess then 1 else 0) + if outcome.isFailure then 1 else 0) +
      ((if outcome.isSkipped then 1 else 0) + if outcome.isNotRun then 1 else 0) = 1 := by
  cases outcome with
  | success => rfl
  | failure => rfl
  | skipped reason code haltedBy =>
      by_cases hcode : code = some notRunAfterFatal <;>
        simp [CheckOutcome.isSkipped, CheckOutcome.isNotRun, hcode]

/-- Counting one row raises the counter of its kind. -/
theorem SuiteTally.count_eq (tally : SuiteTally) (row : CheckResult) :
    (tally.count row).passed = tally.passed + (if row.outcome.isSuccess then 1 else 0) ∧
      (tally.count row).failed = tally.failed + (if row.outcome.isFailure then 1 else 0) ∧
      (tally.count row).skipped = tally.skipped + (if row.outcome.isSkipped then 1 else 0) ∧
      (tally.count row).notRun = tally.notRun + if row.outcome.isNotRun then 1 else 0 := by
  unfold SuiteTally.count
  cases row.outcome with
  | success => simp [CheckOutcome.isSkipped, CheckOutcome.isNotRun]
  | failure => simp [CheckOutcome.isSkipped, CheckOutcome.isNotRun]
  | skipped reason code haltedBy =>
      by_cases hcode : code = some notRunAfterFatal <;>
        simp [CheckOutcome.isSkipped, CheckOutcome.isNotRun, hcode]

/-- The tally counts the outcomes of each kind. -/
theorem foldl_count (rows : List CheckResult) (tally : SuiteTally) :
    (rows.foldl SuiteTally.count tally).passed =
        tally.passed + countOutcomes CheckOutcome.isSuccess rows ∧
      (rows.foldl SuiteTally.count tally).failed =
        tally.failed + countOutcomes CheckOutcome.isFailure rows ∧
      (rows.foldl SuiteTally.count tally).skipped =
        tally.skipped + countOutcomes CheckOutcome.isSkipped rows ∧
      (rows.foldl SuiteTally.count tally).notRun =
        tally.notRun + countOutcomes CheckOutcome.isNotRun rows := by
  induction rows generalizing tally with
  | nil => simp
  | cons row rows ih =>
      have hrest := ih (tally.count row)
      have hrow := tally.count_eq row
      simp only [List.foldl_cons, countOutcomes_cons]
      omega

/-- Each counter of a tally counts the rows of its kind. -/
theorem tallySuite_eq (rows : List CheckResult) :
    (tallySuite rows).passed = countOutcomes CheckOutcome.isSuccess rows ∧
      (tallySuite rows).failed = countOutcomes CheckOutcome.isFailure rows ∧
      (tallySuite rows).skipped = countOutcomes CheckOutcome.isSkipped rows ∧
      (tallySuite rows).notRun = countOutcomes CheckOutcome.isNotRun rows := by
  have h := foldl_count rows {}
  simpa [tallySuite] using h

/-- The four kinds cover each row once. -/
theorem countOutcomes_kinds (rows : List CheckResult) :
    (countOutcomes CheckOutcome.isSuccess rows + countOutcomes CheckOutcome.isFailure rows) +
      (countOutcomes CheckOutcome.isSkipped rows + countOutcomes CheckOutcome.isNotRun rows) = rows.length := by
  induction rows with
  | nil => rfl
  | cons row rows ih =>
      have hrow := row.outcome.kinds
      simp only [countOutcomes_cons, List.length_cons]
      omega

/-! ## Summaries -/

/-- Aggregate status across a suite's rows. -/
inductive SuiteStatus where
  | success
  | failure
  | skipped
  | mixed
deriving DecidableEq

/-- Per-outcome counts of a summary. -/
structure SuiteCounts where
  passed : Nat
  failed : Nat
  skipped : Nat
deriving DecidableEq

/-- Suite-level rollup of check results. -/
structure SuiteSummary where
  id : String
  phase : SuiteSummaryPhase
  suite : String
  status : SuiteStatus
  verified : Bool
  message : String
  counts : SuiteCounts
  fatalFailureAt : Option String := none
  timing : Option TaskTiming := none
deriving DecidableEq

/-- The later suite of one id wins. -/
def indexSuitesById (suites : List VerificationSuite) (id : String) : Option VerificationSuite :=
  suites.reverse.find? fun suite => suite.id = id

/-- Group rows by suite id, in first-seen order. -/
def groupChecksBySuite (checks : List CheckResult) : List (String × List CheckResult) :=
  groupInOrder CheckResult.suite checks

/-- The phase of a suite, if it is known. -/
def derivePhase (suite : Option VerificationSuite) : Option SuitePhase :=
  suite.bind VerificationSuite.phase

/-- The status that the counts of a suite add up to. -/
def deriveStatus (counts : SuiteCounts) : SuiteStatus :=
  if counts.failed > 0 ∧ counts.passed > 0 then .mixed
  else if counts.failed > 0 then .failure
  else if counts.passed > 0 then .success
  else .skipped

/-- Roll a suite's child timings into one. -/
def rollupSuiteTiming (suiteChecks : List CheckResult) : Option TaskTiming :=
  match suiteChecks.filterMap CheckResult.timing with
  | [] => none
  | first :: rest =>
      some ((first :: rest).foldl
        (fun rolled t =>
          { startedAt := if stringLt t.startedAt rolled.startedAt then t.startedAt
              else rolled.startedAt
            endedAt := if stringLt rolled.endedAt t.endedAt then t.endedAt else rolled.endedAt
            durationMs := rolled.durationMs + t.durationMs })
        { first with durationMs := 0 })

/-- The reason of the lone skip row of a suite whose predicate declined. -/
def pickAppliesSkipReason (suiteChecks : List CheckResult) (phase : Option SuitePhase)
    (suiteId : String) : Option String :=
  match suiteChecks with
  | [only] =>
      match only.outcome with
      | .skipped reason _ _ =>
          if only.id ≠ computeId phase suiteId (suiteId ++ ".applies") then none else some reason
      | _ => none
  | _ => none

/-- The word for one check, or for several. -/
def pluralCheck (n : Nat) : String :=
  if n = 1 then "check" else "checks"

/-- The human-readable message of a summary. -/
def formatMessage (suiteId : String) (tally : SuiteTally) (appliesSkipReason : Option String) :
    String :=
  match appliesSkipReason with
  | some reason => s!"{suiteId} not applicable: {reason}"
  | none =>
      let total := tally.passed + tally.failed + tally.skipped + tally.notRun
      let counted :=
        let tail :=
          (if tally.failed > 0 then [s!"{tally.failed} failed"] else []) ++
          (if tally.skipped > 0 then [s!"{tally.skipped} skipped"] else []) ++
          (if tally.notRun > 0 then [s!"{tally.notRun} not run after fatal"] else [])
        let tailStr :=
          if tail.length > 0 then " (" ++ join ", " tail ++ ")" else ""
        s!"{tally.passed} of {total} {pluralCheck total} passed{tailStr}"
      match tally.haltedBy with
      | some haltedBy =>
          -- Every row is a halt skip: an earlier suite stopped this one.
          if tally.notRun = total then s!"{suiteId} not run: {haltedBy} failed" else counted
      | none => counted

/-- Reduce a suite's rows into its summary. -/
def summarizeSuite (suiteId : String) (phase : Option SuitePhase)
    (suiteChecks : List CheckResult) : SuiteSummary :=
  let tally := tallySuite suiteChecks
  let counts : SuiteCounts :=
    { passed := tally.passed, failed := tally.failed, skipped := tally.skipped + tally.notRun }
  let fatalCheck := suiteChecks.find? CheckResult.isFatalFailure
  { id := computeId phase suiteId ""
    phase := .of phase
    suite := suiteId
    status := deriveStatus counts
    verified := fatalCheck.isNone
    message := formatMessage suiteId tally (pickAppliesSkipReason suiteChecks phase suiteId)
    counts := counts
    fatalFailureAt := fatalCheck.map CheckResult.id
    timing := rollupSuiteTiming suiteChecks }

/-- The rows and their summaries. -/
structure FoldedResults where
  results : List CheckResult
  summaries : List SuiteSummary

/-- Summarize the rows of a run. -/
def foldCheckResults (checks : List CheckResult) (suites : List VerificationSuite) :
    FoldedResults :=
  if checks.length = 0 ∧ suites.length = 0 then { results := [], summaries := [] }
  else
    { results := checks
      summaries := (groupChecksBySuite checks).map fun group =>
        summarizeSuite group.1 (derivePhase (indexSuitesById suites group.1)) group.2 }

/-- A fold returns the rows it was given. -/
theorem results_foldCheckResults (checks : List CheckResult) (suites : List VerificationSuite) :
    (foldCheckResults checks suites).results = checks := by
  unfold foldCheckResults
  split
  · rename_i hempty
    exact (List.length_eq_zero_iff.mp hempty.1).symm
  · rfl

/-! ## What the summaries say -/

/-- The rows of one suite, in report order. -/
def rowsOf (suiteId : String) (checks : List CheckResult) : List CheckResult :=
  checks.filter fun row => row.suite = suiteId

/-- The summary a fold makes for one suite id. -/
def summaryOf (checks : List CheckResult) (suites : List VerificationSuite) (suiteId : String) :
    SuiteSummary :=
  summarizeSuite suiteId (derivePhase (indexSuitesById suites suiteId)) (rowsOf suiteId checks)

/-- A fold summarizes each suite that has a row, in first-seen order. -/
theorem summaries_eq (checks : List CheckResult) (suites : List VerificationSuite) :
    (foldCheckResults checks suites).summaries =
      (checks.map CheckResult.suite).eraseDups.map (summaryOf checks suites) := by
  unfold foldCheckResults
  split
  · rename_i hempty
    have hnil : checks = [] := List.eq_nil_of_length_eq_zero hempty.1
    simp [hnil]
  · simp only [groupChecksBySuite, groupInOrder_eq, List.map_map]
    rfl

/-- There is a summary exactly for each suite that has a row. -/
theorem mem_summaries_iff {checks : List CheckResult} {suites : List VerificationSuite}
    {summary : SuiteSummary} :
    summary ∈ (foldCheckResults checks suites).summaries ↔
      ∃ row ∈ checks, summary = summaryOf checks suites row.suite := by
  simp [summaries_eq, List.mem_eraseDups, eq_comm]

/-- The first fatal failed row decides a summary's flag and its
`fatalFailureAt`. -/
theorem summaryOf_verdict (checks : List CheckResult) (suites : List VerificationSuite)
    (suiteId : String) :
    (summaryOf checks suites suiteId).fatalFailureAt =
        ((rowsOf suiteId checks).find? CheckResult.isFatalFailure).map CheckResult.id ∧
      (summaryOf checks suites suiteId).verified =
        !(summaryOf checks suites suiteId).fatalFailureAt.isSome := by
  constructor
  · rfl
  · simp [summaryOf, summarizeSuite]

/-- A summary points at a fatal failure exactly if the suite has one. -/
theorem summaryOf_fatalFailureAt_isSome_iff {checks : List CheckResult}
    {suites : List VerificationSuite} {suiteId : String} :
    (summaryOf checks suites suiteId).fatalFailureAt.isSome = true ↔
      ∃ row ∈ checks, row.suite = suiteId ∧ row.isFatalFailure = true := by
  rw [(summaryOf_verdict checks suites suiteId).1]
  simp only [Option.isSome_map, List.find?_isSome, rowsOf, List.mem_filter, decide_eq_true_eq]
  constructor
  · rintro ⟨row, ⟨hmem, hsuite⟩, hfatal⟩
    exact ⟨row, hmem, hsuite, hfatal⟩
  · rintro ⟨row, hmem, hsuite, hfatal⟩
    exact ⟨row, ⟨hmem, hsuite⟩, hfatal⟩

/-- A fatal failed row is found by the summary of its own suite. -/
theorem hasFatalFailures_iff_summary {checks : List CheckResult}
    {suites : List VerificationSuite} :
    hasFatalFailures checks = true ↔
      ∃ summary ∈ (foldCheckResults checks suites).summaries,
        summary.fatalFailureAt.isSome = true := by
  rw [hasFatalFailures_iff]
  constructor
  · rintro ⟨row, hmem, hfatal⟩
    refine ⟨_, mem_summaries_iff.mpr ⟨row, hmem, rfl⟩, ?_⟩
    exact summaryOf_fatalFailureAt_isSome_iff.mpr ⟨row, hmem, rfl, hfatal⟩
  · rintro ⟨summary, hsummary, hsome⟩
    obtain ⟨_, _, rfl⟩ := mem_summaries_iff.mp hsummary
    obtain ⟨row, hmem, _, hfatal⟩ := summaryOf_fatalFailureAt_isSome_iff.mp hsome
    exact ⟨row, hmem, hfatal⟩

/-- The counts of a summary are the numbers of its suite's rows of each kind. -/
theorem summaryOf_counts (checks : List CheckResult) (suites : List VerificationSuite)
    (suiteId : String) :
    (summaryOf checks suites suiteId).counts =
      { passed := countOutcomes CheckOutcome.isSuccess (rowsOf suiteId checks)
        failed := countOutcomes CheckOutcome.isFailure (rowsOf suiteId checks)
        skipped := countOutcomes CheckOutcome.isSkipped (rowsOf suiteId checks) +
          countOutcomes CheckOutcome.isNotRun (rowsOf suiteId checks) } := by
  obtain ⟨hpassed, hfailed, hskipped, hnotRun⟩ := tallySuite_eq (rowsOf suiteId checks)
  simp [summaryOf, summarizeSuite, hpassed, hfailed, hskipped, hnotRun]

/-- The number of rows a summary counted. -/
def SuiteCounts.total (counts : SuiteCounts) : Nat :=
  counts.passed + counts.failed + counts.skipped

/-- A summary counts the rows of its suite. -/
theorem summaryOf_total (checks : List CheckResult) (suites : List VerificationSuite)
    (suiteId : String) :
    (summaryOf checks suites suiteId).counts.total = (rowsOf suiteId checks).length := by
  rw [summaryOf_counts, SuiteCounts.total, countOutcomes_kinds]

/-- The summaries count every row once. -/
theorem sum_total_summaries (checks : List CheckResult) (suites : List VerificationSuite) :
    ((foldCheckResults checks suites).summaries.map fun s => s.counts.total).sum =
      checks.length := by
  have hgroups : (groupInOrder CheckResult.suite checks).map (fun group => group.2.length) =
      (foldCheckResults checks suites).summaries.map fun s => s.counts.total := by
    rw [summaries_eq, groupInOrder_eq, List.map_map, List.map_map]
    apply List.map_congr_left
    intro suiteId _
    exact (summaryOf_total checks suites suiteId).symm
  rw [← hgroups, ← List.length_flatMap]
  exact (groupInOrder_flatten_perm CheckResult.suite checks).length_eq

/-- The status is read off the counts. -/
theorem deriveStatus_iff (counts : SuiteCounts) :
    (deriveStatus counts = .mixed ↔ 0 < counts.failed ∧ 0 < counts.passed) ∧
      (deriveStatus counts = .failure ↔ 0 < counts.failed ∧ counts.passed = 0) ∧
      (deriveStatus counts = .success ↔ counts.failed = 0 ∧ 0 < counts.passed) ∧
      (deriveStatus counts = .skipped ↔ counts.failed = 0 ∧ counts.passed = 0) := by
  unfold deriveStatus
  split_ifs <;> simp <;> omega

/-- The verdicts of a fold agree with the rows and with each other. -/
theorem foldCheckResults_coherent (checks : List CheckResult) (suites : List VerificationSuite) :
    let summaries := (foldCheckResults checks suites).summaries
    (hasFatalFailures checks = true ↔ ∃ s ∈ summaries, s.fatalFailureAt.isSome = true) ∧
    (hasFatalFailures checks = true ↔ ∃ s ∈ summaries, s.verified = false) ∧
    (∀ s ∈ summaries, s.fatalFailureAt =
      ((rowsOf s.suite checks).find? CheckResult.isFatalFailure).map CheckResult.id) ∧
    (∀ s ∈ summaries, s.counts.passed = countOutcomes CheckOutcome.isSuccess (rowsOf s.suite checks) ∧
      s.counts.failed = countOutcomes CheckOutcome.isFailure (rowsOf s.suite checks) ∧
      s.counts.total = (rowsOf s.suite checks).length) ∧
    (summaries.map fun s => s.counts.total).sum = checks.length ∧
    summaries.map SuiteSummary.suite = (checks.map CheckResult.suite).eraseDups ∧
    ∀ s ∈ summaries,
      (s.status = .mixed ↔ 0 < s.counts.failed ∧ 0 < s.counts.passed) ∧
      (s.status = .failure ↔ 0 < s.counts.failed ∧ s.counts.passed = 0) ∧
      (s.status = .success ↔ s.counts.failed = 0 ∧ 0 < s.counts.passed) ∧
      (s.status = .skipped ↔ s.counts.failed = 0 ∧ s.counts.passed = 0) := by
  refine ⟨hasFatalFailures_iff_summary, ?_, ?_, ?_, sum_total_summaries checks suites, ?_, ?_⟩
  · rw [@hasFatalFailures_iff_summary checks suites]
    have hverified : ∀ s ∈ (foldCheckResults checks suites).summaries,
        s.fatalFailureAt.isSome = true ↔ s.verified = false := by
      intro s hs
      obtain ⟨row, _, rfl⟩ := mem_summaries_iff.mp hs
      simp [(summaryOf_verdict checks suites row.suite).2]
    constructor
    · rintro ⟨s, hs, hsome⟩
      exact ⟨s, hs, (hverified s hs).mp hsome⟩
    · rintro ⟨s, hs, hflag⟩
      exact ⟨s, hs, (hverified s hs).mpr hflag⟩
  · intro s hs
    obtain ⟨row, _, rfl⟩ := mem_summaries_iff.mp hs
    exact (summaryOf_verdict checks suites row.suite).1
  · intro s hs
    obtain ⟨row, _, rfl⟩ := mem_summaries_iff.mp hs
    have hcounts := summaryOf_counts checks suites row.suite
    exact ⟨congrArg SuiteCounts.passed hcounts, congrArg SuiteCounts.failed hcounts,
      summaryOf_total checks suites row.suite⟩
  · rw [summaries_eq, List.map_map]
    exact List.map_id _
  · intro s hs
    obtain ⟨row, _, rfl⟩ := mem_summaries_iff.mp hs
    exact deriveStatus_iff _

end VerifierCore
