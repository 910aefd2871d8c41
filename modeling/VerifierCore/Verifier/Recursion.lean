import VerifierCore.RunSuites.Services
import VerifierCore.Verifier

/-!
# The handlers' calls of the verifier

A handler has a recognition credential verified with an empty registry list and
no suites of its own.  Such a call looks no issuer up: it leaves the cache alone
and does not depend on the depth of the recursion it is made at.

Main results:

- Theorem {lit}`leavesCache_verifyCredential`: the call does not use the cache.
- Theorem {lit}`verifyCredential_depth`: the call is the same at every depth.
- Theorem {lit}`signature_of_verified`: when the phases let the proof suite run,
  a verified result comes from a signature check that succeeded.
-/

namespace VerifierCore

open Foundations Program

/-! ## Calls without registries -/

/-- The call names no registries and brings no suites. -/
structure VerifyCredentialCall.IsClosed (call : VerifyCredentialCall) : Prop where
  registries : call.registries = some []
  additionalSuites : call.additionalSuites = none

theorem isClosed_recognitionCall (credential : Json) : (recognitionCall credential).IsClosed :=
  ⟨rfl, rfl⟩

/-- Without registries the registry check calls nothing. -/
theorem execute_issuerRegistryCheck_of_nil {subject : VerificationSubject}
    {context : VerificationContext} (hregistries : context.registries = some [])
    (store : ContextStore) :
    issuerRegistryCheck.execute subject context store =
      match subject.verifiableCredential.filter Json.truthy with
      | none => pure (.ok (.skipped "No verifiable credential found in subject."), store)
      | some _ =>
          pure (.ok (.skipped "No registries configured in verification context."), store) := by
  unfold issuerRegistryCheck
  cases hcredential : subject.verifiableCredential.filter Json.truthy with
  | none => simp [hcredential]
  | some credential => simp [hcredential, hregistries]

section

variable {platform : Platform} {subject : VerificationSubject} {context : VerificationContext}

/-- Without registries the default suites do not use the cache. -/
theorem leavesCache_defaultSuites (hregistries : context.registries = some []) :
    ∀ suite ∈ defaultSuites platform, ∀ check ∈ suite.checks, ∀ store,
      (check.execute subject context store).Confined Port.LeavesCache := by
  intro suite hsuite check hcheck store
  simp only [defaultSuites, List.mem_cons, List.not_mem_nil, or_false] at hsuite
  rcases hsuite with rfl | rfl | rfl | rfl | rfl
  · simp only [coreSuite, List.mem_cons, List.not_mem_nil, or_false] at hcheck
    rcases hcheck with rfl | rfl | rfl | rfl | rfl | rfl <;> exact confined_pure _
  · simp only [recognitionSuite, List.mem_singleton] at hcheck
    subst hcheck
    exact confined_pure _
  · simp only [proofSuite, List.mem_cons, List.not_mem_nil, or_false] at hcheck
    rcases hcheck with rfl | rfl | rfl
    · exact leavesCache_signatureCheck subject context store
    · exact leavesCache_unsupportedProofsCheck subject context store
    · exact confined_pure _
  · simp only [registrySuite, List.mem_singleton] at hcheck
    subst hcheck
    rw [execute_issuerRegistryCheck_of_nil hregistries]
    split
    · exact confined_pure _
    · exact confined_pure _
  · simp only [statusSuite, List.mem_cons, List.not_mem_nil, or_false] at hcheck
    rcases hcheck with rfl | rfl
    · exact leavesCache_bitstringStatusCheck platform subject context store
    · exact leavesCache_statusListIssuerCheck subject context store

/-- Without registries no default check looks at the lookup it is given. -/
theorem execute_defaultSuites_congr (hregistries : context.registries = some [])
    (lookupIssuers : Option LookupIssuers) :
    ∀ suite ∈ defaultSuites platform, ∀ check ∈ suite.checks, ∀ store,
      check.execute subject context store =
        check.execute subject { context with lookupIssuers := lookupIssuers } store := by
  intro suite hsuite check hcheck store
  simp only [defaultSuites, List.mem_cons, List.not_mem_nil, or_false] at hsuite
  rcases hsuite with rfl | rfl | rfl | rfl | rfl
  · simp only [coreSuite, List.mem_cons, List.not_mem_nil, or_false] at hcheck
    rcases hcheck with rfl | rfl | rfl | rfl | rfl | rfl <;> rfl
  · simp only [recognitionSuite, List.mem_singleton] at hcheck
    subst hcheck
    rfl
  · simp only [proofSuite, List.mem_cons, List.not_mem_nil, or_false] at hcheck
    rcases hcheck with rfl | rfl | rfl <;> rfl
  · simp only [registrySuite, List.mem_singleton] at hcheck
    subst hcheck
    rw [execute_issuerRegistryCheck_of_nil hregistries,
      execute_issuerRegistryCheck_of_nil (by exact hregistries)]
  · simp only [statusSuite, List.mem_cons, List.not_mem_nil, or_false] at hcheck
    rcases hcheck with rfl | rfl <;> rfl

end

theorem Port.leavesCache_of_isClock (port : Port) (h : port.IsClock) : port.LeavesCache := by
  cases port <;> trivial

theorem confined_finalizeCredentialResult {P : Port → Prop}
    (hclock : ∀ port : Port, port.IsClock → P port) (platform : Platform)
    (result : CredentialVerificationResult) (topLevel : Option InProgressTiming) :
    (finalizeCredentialResult platform result topLevel).Confined P := by
  apply Confined.bind (confined_finishIfStarted hclock platform topLevel)
  intro timing
  exact confined_pure _

/-- A closed call does not use the cache. -/
theorem leavesCache_verifyCredential {platform : Platform} {config : VerifierConfig}
    {lookupIssuers : LookupIssuers} {call : VerifyCredentialCall} (hcall : call.IsClosed) :
    (verifyCredentialWith platform config lookupIssuers call).Confined Port.LeavesCache := by
  have hfinal := fun result topLevel =>
    confined_finalizeCredentialResult Port.leavesCache_of_isClock platform result topLevel
  apply Confined.bind (confined_startIfTimed Port.leavesCache_of_isClock platform _)
  intro topLevel
  split
  · apply Confined.bind
    · apply Confined.bind (confined_syntheticResult Port.leavesCache_of_isClock _ _ _ _ _ _ _)
      intro check
      exact confined_pure _
    · intro result
      exact hfinal result topLevel
  · apply Confined.bind (confined_perform trivial)
    intro nowMs
    simp only [hcall.additionalSuites, Option.getD_none, List.append_nil]
    apply Confined.bind
    · apply confined_runSuites Port.leavesCache_of_isClock
      apply leavesCache_defaultSuites
      rw [buildContext, hcall.registries]
      rfl
    · intro ran
      exact hfinal _ topLevel

/-- A closed call does not depend on the issuer lookup. -/
theorem verifyCredentialWith_congr {platform : Platform} {config : VerifierConfig}
    {call : VerifyCredentialCall} (hcall : call.IsClosed)
    (lookupIssuers lookupIssuers' : LookupIssuers) :
    verifyCredentialWith platform config lookupIssuers call =
      verifyCredentialWith platform config lookupIssuers' call := by
  have hrun (timing : Bool) (nowMs : ℚ) (options : RunSuitesOptions) :
      runSuites platform (defaultSuites platform) { verifiableCredential := call.credential }
          (buildContext config lookupIssuers (some []) nowMs timing) options {} =
        runSuites platform (defaultSuites platform) { verifiableCredential := call.credential }
          (buildContext config lookupIssuers' (some []) nowMs timing) options {} := by
    apply runSuites_congr
    · rfl
    · intro suite hsuite
      simp only [defaultSuites, List.mem_cons, List.not_mem_nil, or_false] at hsuite
      rcases hsuite with rfl | rfl | rfl | rfl | rfl <;> rfl
    · have hregistries :
          (buildContext config lookupIssuers (some []) nowMs timing).registries = some [] := rfl
      exact execute_defaultSuites_congr hregistries (some lookupIssuers')
  unfold verifyCredentialWith
  simp only [hcall.registries, hcall.additionalSuites, Option.getD_none, List.append_nil,
    Option.some_or, hrun]

/-- A closed call is the same at every depth. -/
theorem verifyCredential_depth {platform : Platform} {config : VerifierConfig}
    {call : VerifyCredentialCall} (hcall : call.IsClosed) (depth depth' : Nat) :
    (createVerifier platform config depth).verifyCredential call =
      (createVerifier platform config depth').verifyCredential call := by
  cases depth <;> cases depth' <;> exact verifyCredentialWith_congr hcall _ _

/-! ## Verified results -/

/-- A signature check of the credential ran along the trace and succeeded, and
the result says so. -/
structure SignatureSucceeded (trace : List PortEvent) (credential : Json)
    (result : CredentialVerificationResult) : Prop where
  row : ∃ row ∈ result.results, row.suite = "proof" ∧ row.id = "cryptographic.proof.signature" ∧
    row.outcome.isSuccess = true
  ran : ∃ context store store' executed outcome, executed <:+: trace ∧
    Executes (signatureCheck.execute { verifiableCredential := some credential } context store)
      executed (.ok outcome, store') ∧ outcome.isSuccess = true

/-- On a credential, a signature check that does not fail succeeds. -/
theorem isSuccess_of_signatureCheck {credential : Json} {context : VerificationContext}
    {store store' : ContextStore} {trace : List PortEvent} {result : Except Thrown CheckOutcome}
    (h : Executes (signatureCheck.execute { verifiableCredential := some credential } context store)
      trace (result, store'))
    (hnot : (outcomeOf signatureCheck.id result).isFailure = false) :
    ∃ outcome, result = .ok outcome ∧ outcome.isSuccess = true := by
  rcases executes_signatureCheck h with ⟨_, ⟨outcome, hproof, rfl⟩ | ⟨problems, rfl⟩⟩ |
    ⟨_, verdict, _, rfl⟩
  · -- An unsigned credential fails; only an unsigned presentation may be skipped.
    have hcredential : noProofOutcome { verifiableCredential := some credential } context =
        if !documentHasProof (some credential) then
          some (failWith ProblemTypes.proofVerificationError "No Proof"
            "Subject has no proof to verify.")
        else none := rfl
    rw [hcredential] at hproof
    split_ifs at hproof
    cases hproof
    cases hnot
  · cases hnot
  · refine ⟨_, rfl, ?_⟩
    rw [outcomeOf, isFailure_signatureOutcome] at hnot
    rw [isSuccess_signatureOutcome]
    simpa using hnot

/-- Finishing a result adds its timing, if there is one. -/
theorem executes_finalizeCredentialResult {platform : Platform}
    {unfinished result : CredentialVerificationResult} {topLevel : Option InProgressTiming}
    {trace : List PortEvent}
    (h : Executes (finalizeCredentialResult platform unfinished topLevel) trace result) :
    result.verified = unfinished.verified ∧ result.results = unfinished.results := by
  rcases executes_bind_iff.mp h with ⟨first, second, timing, rfl, _, hpure⟩
  rcases executes_pure_iff.mp hpure with ⟨_, rfl⟩
  exact ⟨rfl, rfl⟩

/-- A verified result comes from a run of the suites without a fatal failure. -/
theorem exists_run_of_verified {platform : Platform} {config : VerifierConfig}
    {lookupIssuers : LookupIssuers} {call : VerifyCredentialCall} {trace : List PortEvent}
    {result : CredentialVerificationResult}
    (hrun : Executes (verifyCredentialWith platform config lookupIssuers call) trace result)
    (hverified : result.verified = true) :
    ∃ context options ran events,
      options.phases = expandPhases (call.phases.or config.phases) ∧ events <:+: trace ∧
        Executes (runSuites platform (defaultSuites platform ++ call.additionalSuites.getD [])
          { verifiableCredential := call.credential } context options {}) events ran ∧
        hasFatalFailures ran.1 = false ∧ result.results = ran.1 := by
  unfold verifyCredentialWith at hrun
  rcases executes_bind_iff.mp hrun with ⟨started, rest, topLevel, rfl, _, hrest⟩
  cases hparse : parseCredential call.credential with
  | cons message messages =>
      simp only [hparse] at hrest
      rcases executes_bind_iff.mp hrest with ⟨first, second, failed, rfl, hfailed, hfinal⟩
      rcases executes_bind_iff.mp hfailed with ⟨third, fourth, check, rfl, _, hpure⟩
      rcases executes_pure_iff.mp hpure with ⟨_, rfl⟩
      have hnot := (executes_finalizeCredentialResult hfinal).1
      rw [hverified] at hnot
      cases hnot
  | nil =>
      simp only [hparse] at hrest
      rcases executes_ask_bind_iff.mp hrest with ⟨nowMs, later, rfl, hlater⟩
      rcases executes_bind_iff.mp hlater with ⟨events, finishing, ran, rfl, hsuites, hfinal⟩
      have hfinished := executes_finalizeCredentialResult hfinal
      refine ⟨_, _, ran, events, rfl, ⟨started ++ [⟨.dateNowMs, nowMs⟩], finishing, by simp⟩,
        hsuites, ?_, ?_⟩
      · rw [hverified] at hfinished
        simpa [credentialResult] using hfinished.1
      · rw [hfinished.2]
        exact results_foldCheckResults _ _

/-- When the phases let the proof suite run, a credential is only verified if its
signature check ran and succeeded. -/
theorem signature_of_verified {platform : Platform} {config : VerifierConfig}
    {lookupIssuers : LookupIssuers} {call : VerifyCredentialCall} {credential : Json}
    {trace : List PortEvent} {result : CredentialVerificationResult}
    (hcredential : call.credential = some credential)
    (hphases : suiteRunsInPhases (proofSuite platform)
      (expandPhases (call.phases.or config.phases)) = true)
    (hrun : Executes (verifyCredentialWith platform config lookupIssuers call) trace result)
    (hverified : result.verified = true) : SignatureSucceeded trace credential result := by
  rcases exists_run_of_verified hrun hverified with
    ⟨context, options, ⟨rows, store⟩, events, hoptions, hevents, hsuites, hfatal, hresults⟩
  have hadmitted : appliesToSubject signatureCheck
      { verifiableCredential := call.credential } = true := by
    simp [hcredential, appliesToSubject, checkAppliesTo, signatureCheck, subjectTypes]
  have hsuite : proofSuite platform ∈
      defaultSuites platform ++ call.additionalSuites.getD [] := by simp [defaultSuites]
  have hcheck : signatureCheck ∈ (proofSuite platform).checks := by simp [proofSuite]
  rw [← hoptions] at hphases
  rcases exists_passed hsuites hfatal hsuite hphases rfl hcheck hadmitted rfl with
    ⟨row, hrow, hrowSuite, hrowId, before, after, executed, checked, hexecuted, hexec, houtcome,
      hnot⟩
  rw [hcredential] at hexec
  rw [houtcome] at hnot
  rcases isSuccess_of_signatureCheck hexec hnot with ⟨outcome, rfl, hsuccess⟩
  have hid : row.id = "cryptographic.proof.signature" := by
    have hcompute : computeId (some .cryptographic) "proof" "proof.signature" =
        "cryptographic.proof.signature" := by decide
    rw [hrowId]
    exact hcompute
  refine ⟨⟨row, hresults ▸ hrow, hrowSuite, hid, ?_⟩,
    ⟨context, before, after, executed, outcome, hexecuted.trans hevents, hexec, hsuccess⟩⟩
  rw [houtcome]
  exact hsuccess

end VerifierCore
