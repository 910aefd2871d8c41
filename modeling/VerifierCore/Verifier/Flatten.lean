import VerifierCore.Verifier.AdditionalSuites
import VerifierCore.Verifier.Recursion

/-!
# One list of a presentation's rows

The rows of a presentation and of its credentials in a single list, each with where it came
from.  Nothing is lost by it, and the verdict can be read off it.

Main results:

- Theorem {lit}`verified_eq_of_run`: a credential is verified exactly if none of its rows
  failed fatally.
- Theorem {lit}`unflatten_flatten`: the rows of each part are found again.
- Theorem {lit}`flattenPresentationResults_run`: the verdict of a presentation, read off its
  list.
-/

namespace VerifierCore

open Foundations Program

/-! ## Flattening -/

/-- A row with where it came from. -/
inductive FlattenedCheckResult where
  | presentation (result : CheckResult)
  | credential (credentialIndex : Nat) (result : CheckResult)

namespace FlattenedCheckResult

/-- The row without where it comes from. -/
def result : FlattenedCheckResult → CheckResult
  | presentation result => result
  | credential _ result => result

/-- The row, if it is the presentation's own. -/
def ofPresentation : FlattenedCheckResult → Option CheckResult
  | presentation result => some result
  | credential .. => none

/-- The row, if it is one of the credential at an index. -/
def ofCredential (index : Nat) : FlattenedCheckResult → Option CheckResult
  | presentation _ => none
  | credential credentialIndex result => if credentialIndex = index then some result else none

end FlattenedCheckResult

/-- The rows of a presentation, and then those of its credentials in turn. -/
def flattenPresentationResults (result : PresentationVerificationResult) :
    List FlattenedCheckResult :=
  result.presentationResults.map FlattenedCheckResult.presentation ++
    result.credentialResults.zipIdx.flatMap fun entry =>
      entry.1.results.map (FlattenedCheckResult.credential entry.2)

/-! ## Finding the rows again -/

theorem filterMap_ofCredential (index start : Nat) (results : List CredentialVerificationResult) :
    ((results.zipIdx start).flatMap fun entry =>
        entry.1.results.map (FlattenedCheckResult.credential entry.2)).filterMap
        (FlattenedCheckResult.ofCredential index) =
      if start ≤ index then
        (results[index - start]?.map CredentialVerificationResult.results).getD []
      else [] := by
  induction results generalizing start with
  | nil => simp
  | cons credential results ih =>
      rw [List.zipIdx_cons, List.flatMap_cons, List.filterMap_append, ih, List.filterMap_map]
      rcases Nat.lt_trichotomy index start with hlt | rfl | hgt
      · have hnone : (FlattenedCheckResult.ofCredential index ∘
            FlattenedCheckResult.credential start) = fun _ => none := by
          funext row
          exact if_neg (by omega)
        rw [hnone, List.filterMap_none, if_neg (by omega), if_neg (by omega), List.nil_append]
      · have hall : (FlattenedCheckResult.ofCredential index ∘
            FlattenedCheckResult.credential index) = some := by
          funext row
          exact if_pos rfl
        rw [hall, List.filterMap_some, if_neg (by omega), if_pos le_rfl, Nat.sub_self,
          List.append_nil]
        rfl
      · have hnone : (FlattenedCheckResult.ofCredential index ∘
            FlattenedCheckResult.credential start) = fun _ => none := by
          funext row
          exact if_neg (by omega)
        have hsucc : index - start = index - (start + 1) + 1 := by omega
        rw [hnone, List.filterMap_none, if_pos (by omega), if_pos (by omega), List.nil_append, hsucc,
          List.getElem?_cons_succ]

/-- The rows of the presentation and of each credential are found again, in their order. -/
theorem unflatten_flatten (result : PresentationVerificationResult) :
    (flattenPresentationResults result).filterMap FlattenedCheckResult.ofPresentation =
        result.presentationResults ∧
      ∀ index, (flattenPresentationResults result).filterMap
          (FlattenedCheckResult.ofCredential index) =
        (result.credentialResults[index]?.map CredentialVerificationResult.results).getD [] := by
  rw [flattenPresentationResults]
  constructor
  · rw [List.filterMap_append, List.filterMap_map]
    have hown : (FlattenedCheckResult.ofPresentation ∘ FlattenedCheckResult.presentation) = some :=
      rfl
    have hnone : (result.credentialResults.zipIdx.flatMap fun entry =>
        entry.1.results.map (FlattenedCheckResult.credential entry.2)).filterMap
        FlattenedCheckResult.ofPresentation = [] := by
      rw [List.filterMap_eq_nil_iff]
      intro row hrow
      rcases List.mem_flatMap.mp hrow with ⟨entry, _, hmem⟩
      rcases List.mem_map.mp hmem with ⟨_, _, rfl⟩
      rfl
    rw [hown, List.filterMap_some, hnone, List.append_nil]
  · intro index
    have hnone : (result.presentationResults.map FlattenedCheckResult.presentation).filterMap
        (FlattenedCheckResult.ofCredential index) = [] := by
      rw [List.filterMap_map, List.filterMap_eq_nil_iff]
      intro row _
      rfl
    rw [List.filterMap_append, hnone, List.nil_append, filterMap_ofCredential, if_pos (Nat.zero_le _),
      Nat.sub_zero]

/-- Without where they came from, the rows of the list. -/
theorem results_flattenPresentationResults (result : PresentationVerificationResult) :
    (flattenPresentationResults result).map FlattenedCheckResult.result =
      result.presentationResults ++
        result.credentialResults.flatMap CredentialVerificationResult.results := by
  rw [flattenPresentationResults, List.map_append, List.map_map]
  congr 1
  · exact List.map_id _
  · have hfst : result.credentialResults.zipIdx.map Prod.fst = result.credentialResults :=
      List.zipIdx_map_fst _ _
    have hrows (entry : CredentialVerificationResult × Nat) :
        (entry.1.results.map (FlattenedCheckResult.credential entry.2)).map
          FlattenedCheckResult.result = entry.1.results := by
      rw [List.map_map]
      exact List.map_id _
    rw [List.map_flatMap]
    simp only [hrows]
    rw [← List.flatMap_map, hfst]

/-! ## Reading the verdict off the list -/

/-- A lone failure row that is fatal. -/
theorem executes_syntheticFailureResult {platform : Platform} {suite : VerificationSuite}
    {checkId : String} {problem : ProblemDetail} {timing : Bool} {trace : List PortEvent}
    {row : CheckResult}
    (h : Executes (syntheticFailureResult platform suite checkId problem timing) trace row) :
    hasFatalFailures [row] = true := by
  rcases executes_bind_iff.mp h with ⟨_, _, started, _, _, hrest⟩
  rcases executes_bind_iff.mp hrest with ⟨_, _, taskTiming, _, _, hpure⟩
  rw [(executes_pure_iff.mp hpure).2]
  rfl

/-- A credential is verified exactly if none of its rows failed fatally. -/
theorem verified_eq_of_run {platform : Platform} {config : VerifierConfig}
    {lookupIssuers : LookupIssuers} {call : VerifyCredentialCall} {trace : List PortEvent}
    {result : CredentialVerificationResult}
    (h : Executes (verifyCredentialWith platform config lookupIssuers call) trace result) :
    result.verified = !hasFatalFailures result.results := by
  cases hparsed : parseCredential call.credential with
  | nil =>
      rcases (executes_verifyCredentialWith_iff hparsed).mp h with
        ⟨_, _, _, _, ran, _, _, _, _, _, _, rfl⟩
      simp only [credentialResult, results_foldCheckResults]
  | cons message messages =>
      unfold verifyCredentialWith at h
      rw [hparsed] at h
      rcases executes_bind_iff.mp h with ⟨_, _, topLevel, _, _, hrest⟩
      rcases executes_bind_iff.mp hrest with ⟨_, _, failed, _, hfailed, hfinal⟩
      rcases executes_bind_iff.mp hfailed with ⟨_, _, check, _, hcheck, hpure⟩
      have hsame := executes_finalizeCredentialResult hfinal
      rw [(executes_pure_iff.mp hpure).2] at hsame
      rw [hsame.1, hsame.2, executes_syntheticFailureResult hcheck]
      rfl

/-- A presentation is verified exactly if none of its own rows failed fatally and its
credentials are verified, each by a run of its own. -/
theorem verified_eq_of_presentationRun {platform : Platform} {config : VerifierConfig}
    {lookupIssuers : LookupIssuers} {verifier : Verifier} {call : VerifyPresentationCall}
    {trace : List PortEvent} {result : PresentationVerificationResult}
    (h : Executes (verifyPresentationWith platform config lookupIssuers verifier call) trace
      result) :
    result.verified = (!hasFatalFailures result.presentationResults &&
        result.credentialResults.all CredentialVerificationResult.verified) ∧
      ∀ credential ∈ result.credentialResults, ∃ embedded events,
        Executes (verifier.verifyCredential embedded) events credential := by
  have hrefused {turnedAway : Async PresentationVerificationResult} {events : List PortEvent}
      {topLevel : Option InProgressTiming}
      (hrun : Executes (turnedAway >>= fun unfinished =>
        finalizePresentationResult platform unfinished topLevel) events result)
      (hturnedAway : ∀ events unfinished, Executes turnedAway events unfinished →
        unfinished.verified = false ∧ unfinished.credentialResults = [] ∧
          hasFatalFailures unfinished.presentationResults = true) :
      result.verified = (!hasFatalFailures result.presentationResults &&
          result.credentialResults.all CredentialVerificationResult.verified) ∧
        ∀ credential ∈ result.credentialResults, ∃ embedded events,
          Executes (verifier.verifyCredential embedded) events credential := by
    rcases executes_bind_iff.mp hrun with ⟨first, second, unfinished, rfl, hturned, hfinal⟩
    rcases executes_finalizePresentationResult hfinal with ⟨timing, rfl⟩
    rcases hturnedAway first unfinished hturned with ⟨hverified, hcredentials, hfatal⟩
    simp [hverified, hcredentials, hfatal]
  cases hparsed : parsePresentation call.presentation with
  | cons message messages =>
      unfold verifyPresentationWith at h
      rcases executes_bind_iff.mp h with ⟨_, _, topLevel, _, _, hbody⟩
      rw [hparsed] at hbody
      refine hrefused hbody ?_
      intro events unfinished hparse
      rcases executes_bind_iff.mp hparse with ⟨_, _, check, _, hcheck, hpure⟩
      rw [(executes_pure_iff.mp hpure).2]
      exact ⟨rfl, rfl, executes_syntheticFailureResult hcheck⟩
  | nil =>
      cases hoptions : invalidChallengeOptions call with
      | some problem =>
          unfold verifyPresentationWith at h
          rcases executes_bind_iff.mp h with ⟨_, _, topLevel, _, _, hbody⟩
          rw [hparsed, hoptions] at hbody
          refine hrefused hbody ?_
          intro events unfinished hinvalid
          rcases executes_bind_iff.mp hinvalid with ⟨_, _, check, _, hcheck, hpure⟩
          rw [(executes_pure_iff.mp hpure).2]
          exact ⟨rfl, rfl, executes_syntheticFailureResult hcheck⟩
      | none =>
          rcases executes_verifyPresentationWith hparsed hoptions h with
            ⟨_, _, rows, _, _, _, rfl, ⟨runs, _, hresults, _, hruns⟩, hverified⟩
          refine ⟨hverified, ?_⟩
          intro credential hcredential
          rw [← hresults] at hcredential
          rcases List.mem_map.mp hcredential with ⟨run, hrun, rfl⟩
          exact ⟨_, run.events, hruns run hrun⟩

/-- The list of a presentation holds each row once, under the part it came from, and the
verdicts can be read off it: the presentation is verified exactly if no row of the list
failed fatally, and a credential exactly if no row under its index did. -/
theorem flattenPresentationResults_run {platform : Platform} {config : VerifierConfig}
    {depth : Nat} {call : VerifyPresentationCall} {trace : List PortEvent}
    {result : PresentationVerificationResult}
    (h : Executes (verifyPresentation platform config depth call) trace result) :
    let flattened := flattenPresentationResults result
    result.verified = !hasFatalFailures (flattened.map FlattenedCheckResult.result) ∧
    flattened.filterMap FlattenedCheckResult.ofPresentation = result.presentationResults ∧
    ∀ index credential, result.credentialResults[index]? = some credential →
      flattened.filterMap (FlattenedCheckResult.ofCredential index) = credential.results ∧
      credential.verified =
        !hasFatalFailures (flattened.filterMap (FlattenedCheckResult.ofCredential index)) := by
  rcases verified_eq_of_presentationRun h with ⟨hverified, hembedded⟩
  have heach : ∀ credential ∈ result.credentialResults,
      credential.verified = !hasFatalFailures credential.results := by
    intro credential hcredential
    rcases hembedded credential hcredential with ⟨embedded, events, hrun⟩
    rw [createVerifier_verifyCredential] at hrun
    exact verified_eq_of_run hrun
  rcases unflatten_flatten result with ⟨hown, hcredentials⟩
  refine ⟨?_, hown, ?_⟩
  · rw [results_flattenPresentationResults, hasFatalFailures_append, Bool.not_or, hverified]
    congr 1
    rw [hasFatalFailures, List.any_flatMap, List.not_any_eq_all_not, Bool.eq_iff_iff,
      List.all_eq_true, List.all_eq_true]
    apply forall₂_congr
    intro credential hcredential
    rw [heach credential hcredential]
    rfl
  · intro index credential hget
    have hrows := hcredentials index
    rw [hget] at hrows
    refine ⟨hrows, ?_⟩
    rw [hrows]
    exact heach credential (List.mem_of_getElem? hget)

/-- No row in the list of the badge's presentation failed fatally. -/
theorem flattenPresentationResults_run_badge : ∃ result,
    Executes (verifyPresentation BadgePresentation.platform BadgePresentation.config 0
      BadgePresentation.call) BadgePresentation.trace result ∧
    hasFatalFailures ((flattenPresentationResults result).map FlattenedCheckResult.result) =
      false := by
  obtain ⟨result, hrun, hverified⟩ := BadgePresentation.exists_executes
  have hflattened := (flattenPresentationResults_run hrun).1
  rw [hverified, eq_comm, Bool.not_eq_true'] at hflattened
  exact ⟨result, hrun, hflattened⟩

end VerifierCore
