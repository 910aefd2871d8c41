import VerifierCore.RunSuites.TwoPass
import VerifierCore.Verifier.Presentation

/-!
# Results without their timings

Timings are the only part of a row, a summary or a result that a clock decides.  Taking
them off commutes with folding rows into summaries.

Main results:

- Theorem {lit}`foldCheckResults_untimed`: the summaries of untimed rows are the untimed
  summaries.
- Theorem {lit}`credentialResult_untimed` and {lit}`presentationResult_untimed`: so are
  the results.
-/

namespace VerifierCore

open Foundations

/-! ## Taking the timings off -/

/-- A summary without its timing. -/
def SuiteSummary.untimed (summary : SuiteSummary) : SuiteSummary :=
  { summary with timing := none }

/-- A credential's result without any timing. -/
def CredentialVerificationResult.untimed (result : CredentialVerificationResult) :
    CredentialVerificationResult :=
  { result with
    results := result.results.map CheckResult.untimed
    summary := result.summary.map SuiteSummary.untimed
    timing := none }

/-- A presentation's result without any timing. -/
def PresentationVerificationResult.untimed (result : PresentationVerificationResult) :
    PresentationVerificationResult :=
  { result with
    presentationResults := result.presentationResults.map CheckResult.untimed
    credentialResults := result.credentialResults.map CredentialVerificationResult.untimed
    summary := result.summary.map SuiteSummary.untimed
    timing := none }

/-! ## What the timings do not decide -/

/-- The recognized form is read off rows without timings as well. -/
theorem extractRecognition_untimed (rows : List CheckResult) :
    extractRecognition (rows.map CheckResult.untimed) = extractRecognition rows := by
  unfold extractRecognition
  rw [List.find?_map]
  have hrow : (fun row : CheckResult => decide (row.id = "recognition.profile")) ∘
      CheckResult.untimed = fun row => decide (row.id = "recognition.profile") := rfl
  rw [hrow]
  cases rows.find? fun row => row.id = "recognition.profile" with
  | none => rfl
  | some row => rfl

/-- The counts of a suite do not depend on timings. -/
theorem tallySuite_untimed (rows : List CheckResult) :
    tallySuite (rows.map CheckResult.untimed) = tallySuite rows := by
  unfold tallySuite
  rw [List.foldl_map]
  rfl

/-- The reason for a skipped suite does not depend on timings. -/
theorem pickAppliesSkipReason_untimed (rows : List CheckResult) (phase : Option SuitePhase)
    (suiteId : String) :
    pickAppliesSkipReason (rows.map CheckResult.untimed) phase suiteId =
      pickAppliesSkipReason rows phase suiteId := by
  rcases rows with _ | ⟨first, _ | ⟨second, rest⟩⟩ <;> rfl

/-- Rows without timings have no timing together. -/
theorem rollupSuiteTiming_untimed (rows : List CheckResult) :
    rollupSuiteTiming (rows.map CheckResult.untimed) = none := by
  have htimings : (rows.map CheckResult.untimed).filterMap CheckResult.timing = [] := by
    simp [List.filterMap_map, Function.comp_def, CheckResult.untimed]
  rw [rollupSuiteTiming, htimings]

/-- The summary of untimed rows is the untimed summary. -/
theorem summarizeSuite_untimed (suiteId : String) (phase : Option SuitePhase)
    (rows : List CheckResult) :
    summarizeSuite suiteId phase (rows.map CheckResult.untimed) =
      (summarizeSuite suiteId phase rows).untimed := by
  have hfatal : (rows.map CheckResult.untimed).find? CheckResult.isFatalFailure =
      (rows.find? CheckResult.isFatalFailure).map CheckResult.untimed := by
    rw [List.find?_map]
    rfl
  unfold summarizeSuite SuiteSummary.untimed
  simp only [tallySuite_untimed, pickAppliesSkipReason_untimed, rollupSuiteTiming_untimed, hfatal,
    Option.map_map, Option.isNone_map]
  rfl

/-- Folding untimed rows gives the untimed summaries. -/
theorem foldCheckResults_untimed (rows : List CheckResult) (suites : List VerificationSuite) :
    (foldCheckResults (rows.map CheckResult.untimed) suites).summaries =
      (foldCheckResults rows suites).summaries.map SuiteSummary.untimed := by
  have hrowsOf (suiteId : String) :
      rowsOf suiteId (rows.map CheckResult.untimed) =
        (rowsOf suiteId rows).map CheckResult.untimed := by
    rw [rowsOf, List.filter_map]
    rfl
  have hsuites : (rows.map CheckResult.untimed).map CheckResult.suite =
      rows.map CheckResult.suite := by
    rw [List.map_map]
    rfl
  rw [summaries_eq, summaries_eq, hsuites, List.map_map]
  apply List.map_congr_left
  intro suiteId _
  simp only [summaryOf, hrowsOf, summarizeSuite_untimed, Function.comp_apply]

/-! ## Results -/

/-- The result made of untimed rows is the untimed result. -/
theorem credentialResult_untimed (credential : Option Json) (rows : List CheckResult)
    (suites : List VerificationSuite) (requestedPhases : Option (List SuitePhase)) :
    credentialResult credential (rows.map CheckResult.untimed) suites requestedPhases =
      (credentialResult credential rows suites requestedPhases).untimed := by
  simp [credentialResult, CredentialVerificationResult.untimed, extractRecognition_untimed,
    results_foldCheckResults, foldCheckResults_untimed]

/-- The result made of a presentation's untimed rows is the untimed result. -/
theorem presentationResult_untimed (presentation : Option Json) (rows : List CheckResult)
    (suites : List VerificationSuite) (results : List CredentialVerificationResult)
    (requestedPhases : Option (List SuitePhase)) :
    presentationResult presentation (rows.map CheckResult.untimed) suites
        (results.map CredentialVerificationResult.untimed) requestedPhases =
      (presentationResult presentation rows suites results requestedPhases).untimed := by
  have hverified : results.all (CredentialVerificationResult.verified ∘
      CredentialVerificationResult.untimed) = results.all CredentialVerificationResult.verified :=
    rfl
  simp [presentationResult, PresentationVerificationResult.untimed, List.all_map, hverified,
    results_foldCheckResults, foldCheckResults_untimed]

end VerifierCore
