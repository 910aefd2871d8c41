import VerifierCore.Suites.Gate
import VerifierCore.Verifier

/-!
# Verifying presentations

A presentation is gated, its challenge options are checked, the core and the proof
suite run over it, and each credential it embeds is verified on its own.  Its verdict
joins the two: no fatal row of its own, and no embedded credential that is not verified.

Three rules read {lit}`verifiableCredential`: the structure check asks whether it is
there, the extraction whether it is truthy, and each embedded credential passes the
gate of its own call.

Main results:

- Theorem {lit}`executes_verifyPresentationWith`: the parts of a run behind the gates.
- Theorem {lit}`extractCredentialsFrom_of_vpStructure`: in a presentation that passed
  the structure check, the extraction finds every entry.
- Theorem {lit}`verifyPresentation_verified_iff`: the presentations that are verified.
-/

namespace VerifierCore

open Foundations Program

/-! ## Calls and results -/

/-- Per-call inputs of `verifyPresentation`.  A challenge that is null counts as none. -/
structure VerifyPresentationCall where
  presentation : Option Json
  challenge : Option String := none
  domain : Option String := none
  unsignedPresentation : Option Bool := none
  additionalSuites : Option (List VerificationSuite) := none
  registries : Option (List EntityIdentityRegistry) := none
  phases : Option (List SuitePhase) := none
  timing : Option Bool := none

/-- What `verifyPresentation` returns.  The source's `partial` flag is
`partialPhases`. -/
structure PresentationVerificationResult where
  verified : Bool
  verifiablePresentation : Option Json
  presentationResults : List CheckResult
  credentialResults : List CredentialVerificationResult
  summary : List SuiteSummary
  partialPhases : Option Bool := none
  timing : Option TaskTiming := none

/-! ## Options and embedded credentials -/

/-- The problem for a domain without a challenge. -/
def challengeRequired : ProblemDetail where
  type := ProblemTypes.proofVerificationError
  title := "Challenge Required"
  detail := "A domain was supplied without a challenge. The domain can only be checked alongside a challenge."

/-- The problem for a challenge that says nothing. -/
def emptyChallenge : ProblemDetail where
  type := ProblemTypes.proofVerificationError
  title := "Challenge Required"
  detail := "The challenge is an empty string. Pass a non-empty challenge, or omit it to check the signature only."

/-- The problem with the challenge and the domain of a call, if there is one. -/
def invalidChallengeOptions (call : VerifyPresentationCall) : Option ProblemDetail :=
  if call.challenge = some "" then some emptyChallenge
  else if call.domain.isSome ∧ call.challenge.isNone then some challengeRequired
  else none

/-- The credentials of a presentation, unless there are none. -/
def extractCredentialsFrom (presentation : Json) : Option (List Json) :=
  let verifiableCredential := presentation.get? "verifiableCredential"
  if !truthy verifiableCredential then none
  else
    match verifiableCredential with
    | some (.arr items) => if items.length > 0 then some items else none
    | other => some other.toList

/-! ## Results -/

/-- The result for a presentation that does not parse. -/
def parseFailurePresentationResult (platform : Platform) (presentation : Option Json)
    (messages : List String) (timing : Bool) : Async PresentationVerificationResult := do
  let problem : ProblemDetail :=
    { type := ProblemTypes.parsingError
      title := "Presentation Parsing Failed"
      detail := join "; " messages }
  let check ← syntheticFailureResult platform parsingSuite "parsing.envelope" problem timing
  pure
    { verified := false
      verifiablePresentation := presentation
      presentationResults := [check]
      credentialResults := []
      summary := syntheticFailureSummary check parsingSuite }

/-- The result of a call whose challenge options are invalid. -/
def invalidOptionsResult (platform : Platform) (presentation : Option Json)
    (problem : ProblemDetail) (timing : Bool) : Async PresentationVerificationResult := do
  let check ← syntheticFailureResult platform (proofSuite platform) "proof.signature" problem
    timing
  pure
    { verified := false
      verifiablePresentation := presentation
      presentationResults := [check]
      credentialResults := []
      summary := syntheticFailureSummary check (proofSuite platform) }

/-- Add the top-level timing to a result. -/
def finalizePresentationResult (platform : Platform) (result : PresentationVerificationResult)
    (topLevel : Option InProgressTiming) : Async PresentationVerificationResult := do
  let timing ← finishIfStarted platform topLevel
  pure { result with timing := timing }

/-- The result of the rows of a presentation and the results of its credentials. -/
def presentationResult (presentation : Option Json) (rawPresentationChecks : List CheckResult)
    (presentationSuites : List VerificationSuite)
    (credentialResults : List CredentialVerificationResult)
    (requestedPhases : Option (List SuitePhase)) : PresentationVerificationResult :=
  let foldedPresentation := foldCheckResults rawPresentationChecks presentationSuites
  let presentationVerified := !hasFatalFailures rawPresentationChecks
  let allCredentialsVerified := credentialResults.all CredentialVerificationResult.verified
  { verified := presentationVerified && allCredentialsVerified
    verifiablePresentation := presentation
    presentationResults := foldedPresentation.results
    credentialResults := credentialResults
    summary := foldedPresentation.summaries
    partialPhases := requestedPhases.map fun _ => true }

/-! ## Verifying a presentation -/

/-- The suites that run for every presentation, in order. -/
def presentationSuites (platform : Platform) (call : VerifyPresentationCall) :
    List VerificationSuite :=
  [coreSuite platform, proofSuite platform] ++ call.additionalSuites.getD []

/-- The context of a presentation verification. -/
def presentationContext (config : VerifierConfig) (lookupIssuers : LookupIssuers)
    (call : VerifyPresentationCall) (now : ℚ) (timing : Bool) : VerificationContext :=
  { buildContext config lookupIssuers (call.registries.or config.registries) now timing with
    challenge := call.challenge
    domain := call.domain
    unsignedPresentation := call.unsignedPresentation.getD false }

/-- The options the suites of a call run with. -/
def presentationOptions (config : VerifierConfig) (call : VerifyPresentationCall) :
    RunSuitesOptions where
  explicitSuiteIds := (call.additionalSuites.getD []).map VerificationSuite.id
  phases := expandPhases (call.phases.or config.phases)

/-- The call that verifies an embedded credential. -/
def embeddedCall (call : VerifyPresentationCall) (timing : Bool) (credential : Json) :
    VerifyCredentialCall where
  credential := some credential
  additionalSuites := call.additionalSuites
  registries := call.registries
  phases := call.phases
  timing := some timing

/-- The body of `verifyPresentation`, for the issuer lookup of its context and the
verifier of the embedded credentials. -/
def verifyPresentationWith (platform : Platform) (config : VerifierConfig)
    (lookupIssuers : LookupIssuers) (verifier : Verifier) (call : VerifyPresentationCall) :
    Async PresentationVerificationResult := do
  let timing := (call.timing.or config.timing).getD false
  let topLevel ← startIfTimed platform timing
  match parsePresentation call.presentation, invalidChallengeOptions call with
  | message :: messages, _ => do
      let result ← parseFailurePresentationResult platform call.presentation
        (message :: messages) timing
      finalizePresentationResult platform result topLevel
  | [], some optionsProblem => do
      let result ← invalidOptionsResult platform call.presentation optionsProblem timing
      finalizePresentationResult platform result topLevel
  | [], none => do
      let nowMs ← ask .dateNowMs
      let context := presentationContext config lookupIssuers call nowMs timing
      let suites := presentationSuites platform call
      let ran ← runSuites platform suites { verifiablePresentation := call.presentation } context
        (presentationOptions config call) {}
      let credentials := ((call.presentation.bind extractCredentialsFrom).getD [])
      let credentialResults ← credentials.mapM fun credential =>
        verifier.verifyCredential (embeddedCall call timing credential)
      finalizePresentationResult platform
        (presentationResult call.presentation ran.1 suites credentialResults
          (call.phases.or config.phases)) topLevel

/-- `verifyPresentation` of the verifier at a depth. -/
def verifyPresentation (platform : Platform) (config : VerifierConfig) (depth : Nat)
    (call : VerifyPresentationCall) : Async PresentationVerificationResult :=
  verifyPresentationWith platform config (lookupIssuersBelow platform config depth)
    (createVerifier platform config depth) call

/-! ## The credentials of a presentation -/

/-- The entries of `verifiableCredential`, whatever they are. -/
def credentialEntries (presentation : Json) : List Json :=
  (presentation.get? "verifiableCredential").elim [] entryValues

/-- Unless the value is falsy, the extraction finds every entry. -/
theorem extractCredentialsFrom_of_truthy {presentation : Json}
    (h : ∀ value, presentation.get? "verifiableCredential" = some value → value.truthy = true) :
    (extractCredentialsFrom presentation).getD [] = credentialEntries presentation := by
  unfold extractCredentialsFrom credentialEntries
  cases hget : presentation.get? "verifiableCredential" with
  | none => rfl
  | some value =>
      have htruthy : truthy (some value) = true := h value hget
      simp only [htruthy, Bool.not_true, Bool.false_eq_true, if_false]
      cases value with
      | arr items => cases items <;> rfl
      | null | bool | num | str | obj => rfl

/-- In a presentation that passed the structure check, the value is not falsy. -/
theorem truthy_of_vpStructure {platform : Platform} {presentation value : Json}
    (h : (vpStructureOutcome platform
      { verifiablePresentation := some presentation }).isSuccess = true)
    (hvalue : presentation.get? "verifiableCredential" = some value) : value.truthy = true := by
  cases presentation with
  | obj members =>
      have hrules := runStructureRules_success_iff.mp h
      have hentries := (List.append_eq_nil_iff.mp hrules).2
      simp only [checkEntries, hvalue, List.flatMap_eq_nil_iff] at hentries
      have hplain : ∀ entry ∈ entryValues value, isPlainObject (some entry) = true := by
        intro entry hentry
        obtain ⟨path, hpath⟩ := exists_asEntries hentry [.name "verifiableCredential"]
        have hentry' := hentries _ hpath
        by_contra hnot
        simp [hnot, report] at hentry'
      cases value with
      | arr | obj => rfl
      | null | bool | num | str =>
          have hself := hplain _ List.mem_cons_self
          simp [isPlainObject] at hself
  | null | bool | num | str | arr => simp [Json.get?] at hvalue

/-! ## The parts of a run -/

/-- Finishing a result adds its timing, if there is one. -/
theorem executes_finalizePresentationResult {platform : Platform}
    {unfinished result : PresentationVerificationResult} {topLevel : Option InProgressTiming}
    {trace : List PortEvent}
    (h : Executes (finalizePresentationResult platform unfinished topLevel) trace result) :
    ∃ timing, result = { unfinished with timing := timing } := by
  obtain ⟨_, _, timing, _, _, hpure⟩ := executes_bind_iff.mp h
  exact ⟨timing, (executes_pure_iff.mp hpure).2⟩

/-- What a gate turns away is not verified. -/
theorem gates_of_verified {platform : Platform} {config : VerifierConfig}
    {lookupIssuers : LookupIssuers} {verifier : Verifier} {call : VerifyPresentationCall}
    {trace : List PortEvent} {result : PresentationVerificationResult}
    (h : Executes (verifyPresentationWith platform config lookupIssuers verifier call) trace result)
    (hverified : result.verified = true) :
    parsePresentation call.presentation = [] ∧ invalidChallengeOptions call = none := by
  have hrefused {turnedAway : Async PresentationVerificationResult} {events : List PortEvent}
      {topLevel : Option InProgressTiming}
      (hrun : Executes (turnedAway >>= fun unfinished =>
        finalizePresentationResult platform unfinished topLevel) events result)
      (hfalse : ∀ events unfinished, Executes turnedAway events unfinished →
        unfinished.verified = false) : False := by
    rcases executes_bind_iff.mp hrun with ⟨first, second, unfinished, rfl, hturned, hfinal⟩
    rcases executes_finalizePresentationResult hfinal with ⟨timing, rfl⟩
    have hunverified := hfalse first unfinished hturned
    simp only at hverified
    rw [hunverified] at hverified
    cases hverified
  unfold verifyPresentationWith at h
  rcases executes_bind_iff.mp h with ⟨started, body, topLevel, rfl, _, hbody⟩
  cases hparsed : parsePresentation call.presentation with
  | cons message messages =>
      rw [hparsed] at hbody
      refine (hrefused hbody ?_).elim
      intro events unfinished hparse
      rcases executes_bind_iff.mp hparse with ⟨_, _, check, _, _, hpure⟩
      rw [(executes_pure_iff.mp hpure).2]
  | nil =>
      cases hoptions : invalidChallengeOptions call with
      | none => exact ⟨rfl, rfl⟩
      | some problem =>
          rw [hparsed, hoptions] at hbody
          refine (hrefused hbody ?_).elim
          intro events unfinished hinvalid
          rcases executes_bind_iff.mp hinvalid with ⟨_, _, check, _, _, hpure⟩
          rw [(executes_pure_iff.mp hpure).2]

/-- The verification of one embedded credential. -/
structure EmbeddedRun where
  credential : Json
  events : List PortEvent
  result : CredentialVerificationResult

/-- The entries were verified one after another within the trace, each once, with these
results. -/
def VerifiedInTurn (verify : Json → Async CredentialVerificationResult) (trace : List PortEvent)
    (entries : List Json) (results : List CredentialVerificationResult) : Prop :=
  ∃ runs : List EmbeddedRun, runs.map EmbeddedRun.credential = entries ∧
    runs.map EmbeddedRun.result = results ∧ runs.flatMap EmbeddedRun.events <:+: trace ∧
    ∀ run ∈ runs, Executes (verify run.credential) run.events run.result

/-- Entries that are verified one by one are verified in turn. -/
theorem verifiedInTurn_of_mapM {verify : Json → Async CredentialVerificationResult}
    {trace events : List PortEvent} {entries : List Json}
    {results : List CredentialVerificationResult}
    (h : Executes (entries.mapM verify) events results) (hinside : events <:+: trace) :
    VerifiedInTurn verify trace entries results := by
  obtain ⟨runs, hcredentials, rfl, hresults, hruns⟩ :=
    exists_runs_of_mapM EmbeddedRun.credential EmbeddedRun.events EmbeddedRun.result
      (P := fun run => Executes (verify run.credential) run.events run.result)
      (fun credential events result hrun => ⟨⟨credential, events, result⟩, hrun, rfl, rfl, rfl⟩) h
  exact ⟨runs, hcredentials, hresults, hinside, hruns⟩

/-- Behind the gates a run runs the suites and verifies the extracted credentials. -/
theorem executes_verifyPresentationWith {platform : Platform} {config : VerifierConfig}
    {lookupIssuers : LookupIssuers} {verifier : Verifier} {call : VerifyPresentationCall}
    {trace : List PortEvent} {result : PresentationVerificationResult}
    (hparsed : parsePresentation call.presentation = [])
    (hoptions : invalidChallengeOptions call = none)
    (h : Executes (verifyPresentationWith platform config lookupIssuers verifier call) trace
      result) :
    let timing := (call.timing.or config.timing).getD false
    ∃ nowMs events rows store,
      Executes (runSuites platform (presentationSuites platform call)
        { verifiablePresentation := call.presentation }
        (presentationContext config lookupIssuers call nowMs timing)
        (presentationOptions config call) {}) events (rows, store) ∧
      events <:+: trace ∧ result.presentationResults = rows ∧
      VerifiedInTurn (fun credential => verifier.verifyCredential (embeddedCall call timing credential))
        trace ((call.presentation.bind extractCredentialsFrom).getD []) result.credentialResults ∧
      result.verified = (!hasFatalFailures rows &&
        result.credentialResults.all CredentialVerificationResult.verified) := by
  unfold verifyPresentationWith at h
  rw [hparsed, hoptions] at h
  obtain ⟨started, body, topLevel, rfl, _, hbody⟩ := executes_bind_iff.mp h
  obtain ⟨nowMs, ran, rfl, hran⟩ := executes_ask_bind_iff.mp hbody
  obtain ⟨events, later, checked, rfl, hsuites, hlater⟩ := executes_bind_iff.mp hran
  obtain ⟨embedded, finishing, credentialResults, rfl, hembedded, hfinal⟩ :=
    executes_bind_iff.mp hlater
  obtain ⟨_, rfl⟩ := executes_finalizePresentationResult hfinal
  refine ⟨nowMs, events, checked.1, checked.2, hsuites, ?_, results_foldCheckResults _ _, ?_, rfl⟩
  · exact ⟨started ++ [⟨.dateNowMs, nowMs⟩], embedded ++ finishing, by simp⟩
  · apply verifiedInTurn_of_mapM hembedded
    exact ⟨started ++ ⟨.dateNowMs, nowMs⟩ :: events, finishing, by simp⟩

/-- The caller's own call for an entry of its presentation. -/
def entryCall (call : VerifyPresentationCall) (entry : Json) : VerifyCredentialCall where
  credential := some entry
  additionalSuites := call.additionalSuites
  registries := call.registries
  phases := call.phases
  timing := call.timing

/-- Handing the resolved timing down changes nothing. -/
theorem verifyCredential_embeddedCall {platform : Platform} {config : VerifierConfig}
    {depth : Nat} {call : VerifyPresentationCall} {entry : Json} :
    (createVerifier platform config depth).verifyCredential
        (embeddedCall call ((call.timing.or config.timing).getD false) entry) =
      (createVerifier platform config depth).verifyCredential (entryCall call entry) := by
  rw [createVerifier_verifyCredential]
  rfl

/-- In a run of all phases without a fatal row, the structure check passed. -/
theorem vpStructure_of_no_fatal {platform : Platform} {call : VerifyPresentationCall}
    {context : VerificationContext} {options : RunSuitesOptions} {presentation : Json}
    {events : List PortEvent} {rows : List CheckResult} {start stop : ContextStore}
    (hphases : suiteRunsInPhases (coreSuite platform) options.phases = true)
    (h : Executes (runSuites platform (presentationSuites platform call)
      { verifiablePresentation := some presentation } context options start) events (rows, stop))
    (hfatal : hasFatalFailures rows = false) :
    (vpStructureOutcome platform
      { verifiablePresentation := some presentation }).isSuccess = true := by
  have hsuite : coreSuite platform ∈ presentationSuites platform call := by
    simp [presentationSuites]
  have hcheck : vpStructureCheck platform ∈ (coreSuite platform).checks := by simp [coreSuite]
  have hadmitted : appliesToSubject (vpStructureCheck platform)
      { verifiablePresentation := some presentation } = true := by
    simp [appliesToSubject, checkAppliesTo, subjectTypes, vpStructureCheck]
  obtain ⟨row, _, _, _, store, store', executed, result, _, hexec, houtcome, hnot⟩ :=
    exists_passed h hfatal hsuite hphases rfl hcheck hadmitted rfl
  cases (executes_pure_iff.mp hexec).2
  rw [houtcome] at hnot
  have hkind : (vpStructureOutcome platform { verifiablePresentation := some presentation }).isSuccess =
      !(vpStructureOutcome platform
        { verifiablePresentation := some presentation }).isFailure := by
    unfold vpStructureOutcome missingSubjectFailure runStructureRules
    dsimp only
    split
    · split <;> rfl
    · rfl
  have hunfailed : (vpStructureOutcome platform
      { verifiablePresentation := some presentation }).isFailure = false := hnot
  rw [hkind, hunfailed]
  rfl

/-- With all phases, a presentation behind the gates is verified exactly when its own
rows hold no fatal failure and each entry of `verifiableCredential` has one result,
that of its own verification, which is verified.  Unless the value is falsy, each entry
has its result whatever the presentation's rows are. -/
theorem verifyPresentation_verified_iff {platform : Platform} {config : VerifierConfig}
    {depth : Nat} {call : VerifyPresentationCall} {presentation : Json} {trace : List PortEvent}
    {result : PresentationVerificationResult}
    (hpresentation : call.presentation = some presentation)
    (hparsed : parsePresentation call.presentation = [])
    (hoptions : invalidChallengeOptions call = none)
    (hphases : call.phases.or config.phases = none)
    (h : Executes (verifyPresentation platform config depth call) trace result) :
    (result.verified = true ↔ hasFatalFailures result.presentationResults = false ∧
      VerifiedInTurn (fun entry =>
          (createVerifier platform config depth).verifyCredential (entryCall call entry))
        trace (credentialEntries presentation) result.credentialResults ∧
      ∀ credential ∈ result.credentialResults, credential.verified = true) ∧
    ((∀ value, presentation.get? "verifiableCredential" = some value → value.truthy = true) →
      VerifiedInTurn (fun entry =>
          (createVerifier platform config depth).verifyCredential (entryCall call entry))
        trace (credentialEntries presentation) result.credentialResults) := by
  obtain ⟨nowMs, events, rows, store, hsuites, _, hrows, hverifiedEach, hverified⟩ :=
    executes_verifyPresentationWith hparsed hoptions h
  simp only [verifyCredential_embeddedCall, hpresentation, Option.bind_some] at hverifiedEach
  have hextracted (htruthy : ∀ value,
      presentation.get? "verifiableCredential" = some value → value.truthy = true) :
      VerifiedInTurn (fun entry =>
          (createVerifier platform config depth).verifyCredential (entryCall call entry))
        trace (credentialEntries presentation) result.credentialResults := by
    rw [← extractCredentialsFrom_of_truthy htruthy]
    exact hverifiedEach
  refine ⟨?_, hextracted⟩
  rw [hverified, hrows, Bool.and_eq_true, Bool.not_eq_true', List.all_eq_true]
  constructor
  · rintro ⟨hfatal, hall⟩
    rw [hpresentation] at hsuites
    have hcore : suiteRunsInPhases (coreSuite platform)
        (presentationOptions config call).phases = true := by
      rw [presentationOptions, hphases]
      rfl
    have hstructure := vpStructure_of_no_fatal hcore hsuites hfatal
    exact ⟨hfatal, hextracted fun value hvalue => truthy_of_vpStructure hstructure hvalue, hall⟩
  · rintro ⟨hfatal, _, hall⟩
    exact ⟨hfatal, hall⟩

/-! ### A presentation of one badge -/

namespace BadgePresentation

/-- A signed credential. -/
def badge : Json :=
  .obj [("@context", .arr [.str vcContextV2]), ("type", .str "VerifiableCredential"),
    ("issuer", .str "did:example:issuer"), ("credentialSubject", .obj [("name", .str "A")]),
    ("proof", .obj [("type", .str "DataIntegrityProof")])]

/-- An unsigned presentation of the signed credential. -/
def presentation : Json :=
  .obj [("@context", .arr [.str vcContextV2]), ("type", .str "VerifiablePresentation"),
    ("verifiableCredential", .arr [badge])]

/-- The runtime accepts the issuer as a URL. -/
def platform : Platform :=
  PlatformTable.platform { urls := ["did:example:issuer"] }

/-- One service is configured. -/
def config : VerifierConfig where
  cryptoServices := [0]

/-- The presentation itself is not signed. -/
def call : VerifyPresentationCall where
  presentation := some presentation
  unsignedPresentation := some true

/-- The service accepts the badge. -/
def trace : List PortEvent :=
  [⟨.dateNowMs, (0 : ℚ)⟩, ⟨.dateNowMs, (0 : ℚ)⟩,
    ⟨.canVerify 0 { verifiableCredential := some badge }, .ok true⟩,
    ⟨.verifyCredential 0 badge { now := some 0 }, .ok (.verified none)⟩]

/-- The calls that verify the badge by itself. -/
def badgeTrace : List PortEvent :=
  [⟨.dateNowMs, (0 : ℚ)⟩, ⟨.canVerify 0 { verifiableCredential := some badge }, .ok true⟩,
    ⟨.verifyCredential 0 badge { now := some 0 }, .ok (.verified none)⟩]

/-- The presentation is verified. -/
theorem exists_executes : ∃ result,
    Executes (verifyPresentation platform config 0 call) trace result ∧
      result.verified = true := by
  have hreplay : (replay (verifyPresentation platform config 0 call) trace).map
      PresentationVerificationResult.verified = some true := by decide +kernel
  obtain ⟨result, hresult, hverified⟩ := Option.map_eq_some_iff.mp hreplay
  exact ⟨result, replay_eq_some_iff.mp hresult, hverified⟩

end BadgePresentation

/-- The badge has its own verified result. -/
theorem verifyPresentation_verified_badge : ∃ result,
    Executes (verifyPresentation BadgePresentation.platform BadgePresentation.config 0
      BadgePresentation.call) BadgePresentation.trace result ∧
    VerifiedInTurn (fun entry =>
        (createVerifier BadgePresentation.platform BadgePresentation.config 0).verifyCredential
          (entryCall BadgePresentation.call entry))
      BadgePresentation.trace [BadgePresentation.badge] result.credentialResults ∧
    ∀ credential ∈ result.credentialResults, credential.verified = true := by
  obtain ⟨result, hrun, hverified⟩ := BadgePresentation.exists_executes
  have hverdict := @verifyPresentation_verified_iff _ _ _ _ BadgePresentation.presentation _ _
    rfl (by decide +kernel) rfl rfl hrun
  exact ⟨result, hrun, (hverdict.1.mp hverified).2⟩

end VerifierCore
