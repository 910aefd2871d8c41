import VerifierCore.Verifier.Settling

/-!
# One-shot verification

The standalone functions make a verifier for one call.  What their options say of the phases
and of the timing they give to the verifier, and what they say of the registries to the call.
It makes no difference where it stands, unless a handler has credentials verified: the
defaults of a verifier hold for its handlers' calls too.

Main results:

- Theorem {lit}`verifyCredentialWith_settled`: the defaults of a verifier may be given with
  each call.
- Theorem {lit}`verifySuite_eq_createVerifier`: one-shot verification is a call of a verifier
  that has only the services.
-/

namespace VerifierCore

open Foundations Program

/-! ## The standalone functions -/

/-- Options of the standalone `verifyCredential`: those of a verifier and of a call. -/
structure VerifyCredentialOptions extends VerifierConfig where
  credential : Option Json
  additionalSuites : Option (List VerificationSuite) := none

/-- Options of the standalone `verifyPresentation`. -/
structure VerifyPresentationOptions extends VerifierConfig where
  presentation : Option Json
  challenge : Option String := none
  domain : Option String := none
  unsignedPresentation : Option Bool := none
  additionalSuites : Option (List VerificationSuite) := none

namespace VerifySuite

variable (platform : Platform) (depth : Nat)

/-- Verify one credential without a verifier of one's own. -/
def verifyCredential (opts : VerifyCredentialOptions) : Async CredentialVerificationResult :=
  (createVerifier platform { opts.toVerifierConfig with registries := none } depth).verifyCredential
    { credential := opts.credential
      additionalSuites := opts.additionalSuites
      registries := opts.registries }

/-- Verify one presentation without a verifier of one's own. -/
def verifyPresentation (opts : VerifyPresentationOptions) :
    Async PresentationVerificationResult :=
  VerifierCore.verifyPresentation platform { opts.toVerifierConfig with registries := none } depth
    { presentation := opts.presentation
      challenge := opts.challenge
      domain := opts.domain
      unsignedPresentation := opts.unsignedPresentation
      additionalSuites := opts.additionalSuites
      registries := opts.registries }

end VerifySuite

/-! ## Defaults -/

/-- The verifier without defaults for its calls. -/
def VerifierConfig.services (config : VerifierConfig) : VerifierConfig :=
  { config with registries := none, phases := none, timing := none }

/-- The call, with the defaults of a verifier for what it leaves open. -/
def VerifyCredentialCall.settled (config : VerifierConfig) (call : VerifyCredentialCall) :
    VerifyCredentialCall :=
  { call with
    registries := call.registries.or config.registries
    phases := call.phases.or config.phases
    timing := call.timing.or config.timing }

/-- The call with what it would inherit from the configuration. -/
def VerifyPresentationCall.settled (config : VerifierConfig) (call : VerifyPresentationCall) :
    VerifyPresentationCall :=
  { call with
    registries := call.registries.or config.registries
    phases := call.phases.or config.phases
    timing := call.timing.or config.timing }

/-- The handlers of these registries do not use the verifier they are given. -/
def SparesVerifier (handlers : RegistryHandlerMap) (registries : List EntityIdentityRegistry) :
    Prop :=
  ∀ registry ∈ registries, ∀ did platform (verifier verifier' : Except Thrown Verifier),
    handlers registry.type did registry { platform := platform, verifier := verifier } =
      handlers registry.type did registry { platform := platform, verifier := verifier' }

/-- Without recognition registries no default handler asks the verifier. -/
theorem sparesVerifier_defaultHandlers {registries : List EntityIdentityRegistry}
    (h : ∀ registry ∈ registries, registry.type ≠ .vcRecognition) :
    SparesVerifier defaultHandlers registries := by
  intro registry hmem did platform verifier verifier'
  have htype := h registry hmem
  cases registry with
  | dccLegacy | oidf => rfl
  | vcRecognition => exact absurd rfl htype

/-- Suites that do not look at the issuer lookup of their context. -/
structure LookupBlind (suites : List VerificationSuite) : Prop where
  applies : ∀ suite ∈ suites, ∀ subject context lookupIssuers,
    evaluateApplies suite subject context =
      evaluateApplies suite subject { context with lookupIssuers := lookupIssuers }
  execute : ∀ suite ∈ suites, ∀ check ∈ suite.checks, ∀ subject context lookupIssuers store,
    check.execute subject context store =
      check.execute subject { context with lookupIssuers := lookupIssuers } store

/-- Suites that do not look at the lookup of their context still do not when others of that kind
follow. -/
theorem LookupBlind.append {suites others : List VerificationSuite} (h : LookupBlind suites)
    (h' : LookupBlind others) : LookupBlind (suites ++ others) := by
  constructor
  · intro suite hmem
    exact (List.mem_append.mp hmem).elim (h.applies suite) (h'.applies suite)
  · intro suite hmem
    exact (List.mem_append.mp hmem).elim (h.execute suite) (h'.execute suite)

section

variable {platform : Platform}

/-- The core suite does not look at the issuer lookup of its context. -/
theorem lookupBlind_coreSuite : LookupBlind [coreSuite platform] := by
  constructor
  · intro suite hsuite subject context lookupIssuers
    rw [List.mem_singleton.mp hsuite]
    rfl
  · intro suite hsuite check hcheck subject context lookupIssuers store
    rw [List.mem_singleton.mp hsuite] at hcheck
    simp only [coreSuite, List.mem_cons, List.not_mem_nil, or_false] at hcheck
    rcases hcheck with rfl | rfl | rfl | rfl | rfl | rfl <;> rfl

/-- The proof suite does not look at the issuer lookup of its context. -/
theorem lookupBlind_proofSuite : LookupBlind [proofSuite platform] := by
  constructor
  · intro suite hsuite subject context lookupIssuers
    rw [List.mem_singleton.mp hsuite]
    rfl
  · intro suite hsuite check hcheck subject context lookupIssuers store
    rw [List.mem_singleton.mp hsuite] at hcheck
    simp only [proofSuite, List.mem_cons, List.not_mem_nil, or_false] at hcheck
    rcases hcheck with rfl | rfl | rfl <;> rfl

/-- With lookups that agree on the registries, the registry check is the same. -/
theorem execute_issuerRegistryCheck_congr {subject : VerificationSubject}
    {context : VerificationContext} {lookupIssuers lookupIssuers' : LookupIssuers}
    (hlookup : context.lookupIssuers = some lookupIssuers)
    (hagree : ∀ did, lookupIssuers did (context.registries.getD []) {} =
      lookupIssuers' did (context.registries.getD []) {}) (store : ContextStore) :
    issuerRegistryCheck.execute subject context store =
      issuerRegistryCheck.execute subject
        { context with lookupIssuers := some lookupIssuers' } store := by
  simp only [issuerRegistryCheck, hlookup]
  cases hcredential : subject.verifiableCredential.filter Json.truthy with
  | none => rfl
  | some credential =>
      dsimp only
      cases hregistries : context.registries.getD [] with
      | nil => rfl
      | cons registry registries =>
          dsimp only
          cases hissuer : credentialIssuerId credential with
          | none => rfl
          | some did =>
              rw [hregistries] at hagree
              dsimp only
              rw [hagree did]

/-- Suites without the registry suite do not notice another lookup. -/
theorem LookupBlind.runSuites_eq {suites : List VerificationSuite} (h : LookupBlind suites)
    (subject : VerificationSubject) (context : VerificationContext)
    (lookupIssuers : Option LookupIssuers) (options : RunSuitesOptions) :
    runSuites platform suites subject context options {} =
      runSuites platform suites subject { context with lookupIssuers := lookupIssuers } options
        {} := by
  apply runSuites_congr
  · rfl
  · intro suite hsuite
    exact h.applies suite hsuite subject context lookupIssuers
  · intro suite hsuite check hcheck store
    exact h.execute suite hsuite check hcheck subject context lookupIssuers store

/-- The default suites only notice a lookup of the registries of their context. -/
theorem runSuites_defaultSuites_congr {suites : List VerificationSuite}
    (hsuites : LookupBlind suites) {subject : VerificationSubject} {context : VerificationContext}
    {lookupIssuers lookupIssuers' : LookupIssuers}
    (hlookup : context.lookupIssuers = some lookupIssuers)
    (hagree : ∀ did, lookupIssuers did (context.registries.getD []) {} =
      lookupIssuers' did (context.registries.getD []) {}) (options : RunSuitesOptions) :
    runSuites platform (defaultSuites platform ++ suites) subject context options {} =
      runSuites platform (defaultSuites platform ++ suites) subject
        { context with lookupIssuers := some lookupIssuers' } options {} := by
  apply runSuites_congr
  · rfl
  · intro suite hsuite
    rcases List.mem_append.mp hsuite with hdefault | hadded
    · simp only [defaultSuites, List.mem_cons, List.not_mem_nil, or_false] at hdefault
      rcases hdefault with rfl | rfl | rfl | rfl | rfl <;> rfl
    · exact hsuites.applies suite hadded _ _ _
  · intro suite hsuite check hcheck store
    rcases List.mem_append.mp hsuite with hdefault | hadded
    · simp only [defaultSuites, List.mem_cons, List.not_mem_nil, or_false] at hdefault
      rcases hdefault with rfl | rfl | rfl | rfl | rfl
      · exact lookupBlind_coreSuite.execute _ List.mem_cons_self check hcheck _ _ _ _
      · simp only [recognitionSuite, List.mem_singleton] at hcheck
        subst hcheck
        rfl
      · exact lookupBlind_proofSuite.execute _ List.mem_cons_self check hcheck _ _ _ _
      · simp only [registrySuite, List.mem_singleton] at hcheck
        subst hcheck
        exact execute_issuerRegistryCheck_congr hlookup hagree store
      · simp only [statusSuite, List.mem_cons, List.not_mem_nil, or_false] at hcheck
        rcases hcheck with rfl | rfl <;> rfl
    · exact hsuites.execute suite hadded check hcheck _ _ _ _

end

/-! ## Verifications -/

section

variable {platform : Platform} {config : VerifierConfig} {depth : Nat}

/-- Lookups in registries whose handlers spare the verifier do not notice its defaults. -/
theorem lookupIssuersBelow_services {registries : List EntityIdentityRegistry}
    (h : SparesVerifier (config.registryHandlers.getD defaultHandlers) registries) (did : String)
    (options : LookupIssuersOptions) :
    lookupIssuersBelow platform config depth did registries options =
      lookupIssuersBelow platform config.services depth did registries options := by
  cases depth with
  | zero => rfl
  | succ depth =>
      apply createRegistryLookup_congr
      intro registry hmem
      exact h registry hmem did platform _ _

/-- The defaults of a verifier may be given with the call. -/
theorem verifyCredentialWith_settled {lookupIssuers lookupIssuers' : LookupIssuers}
    {call : VerifyCredentialCall}
    (hagree : ∀ did, lookupIssuers did ((call.registries.or config.registries).getD []) {} =
      lookupIssuers' did ((call.registries.or config.registries).getD []) {})
    (hsuites : LookupBlind (call.additionalSuites.getD [])) :
    verifyCredentialWith platform config lookupIssuers call =
      verifyCredentialWith platform config.services lookupIssuers' (call.settled config) := by
  have hrun (nowMs : ℚ) (options : RunSuitesOptions) :
      runSuites platform (defaultSuites platform ++ call.additionalSuites.getD [])
          { verifiableCredential := call.credential }
          (buildContext config lookupIssuers (call.registries.or config.registries) nowMs
            ((call.timing.or config.timing).getD false)) options {} =
        runSuites platform (defaultSuites platform ++ call.additionalSuites.getD [])
          { verifiableCredential := call.credential }
          (buildContext config.services lookupIssuers' (call.registries.or config.registries) nowMs
            ((call.timing.or config.timing).getD false)) options {} :=
    runSuites_defaultSuites_congr hsuites rfl hagree options
  unfold verifyCredentialWith
  simp only [VerifyCredentialCall.settled, VerifierConfig.services, Option.or_none]
  simp only [hrun]
  rfl

/-- A call may as well bring what it would inherit. -/
theorem verifyCredential_settled {call : VerifyCredentialCall}
    (hspares : SparesVerifier (config.registryHandlers.getD defaultHandlers)
      ((call.registries.or config.registries).getD []))
    (hsuites : LookupBlind (call.additionalSuites.getD [])) :
    (createVerifier platform config depth).verifyCredential call =
      (createVerifier platform config.services depth).verifyCredential (call.settled config) := by
  simp only [createVerifier_verifyCredential]
  apply verifyCredentialWith_settled _ hsuites
  intro did
  exact lookupIssuersBelow_services hspares did {}

/-- The context of a presentation is the same if the call brings what it would inherit. -/
theorem presentationContext_settled (lookupIssuers lookupIssuers' : LookupIssuers)
    (call : VerifyPresentationCall) (nowMs : ℚ) (timing : Bool) :
    presentationContext config.services lookupIssuers' (call.settled config) nowMs timing =
      { presentationContext config lookupIssuers call nowMs timing with
        lookupIssuers := some lookupIssuers' } := by
  simp only [presentationContext, buildContext, VerifyPresentationCall.settled,
    VerifierConfig.services, Option.or_none]

/-- The options of a presentation's suites are the same if the call brings what it would
inherit. -/
theorem presentationOptions_settled (call : VerifyPresentationCall) :
    presentationOptions config.services (call.settled config) = presentationOptions config call := by
  simp only [presentationOptions, VerifyPresentationCall.settled, VerifierConfig.services,
    Option.or_none]

/-- A call for a presentation may as well bring what it would inherit, for its embedded
credentials as well. -/
theorem verifyPresentation_settled {call : VerifyPresentationCall}
    (hspares : SparesVerifier (config.registryHandlers.getD defaultHandlers)
      ((call.registries.or config.registries).getD []))
    (hsuites : LookupBlind (call.additionalSuites.getD [])) :
    verifyPresentation platform config depth call =
      verifyPresentation platform config.services depth (call.settled config) := by
  have hblind : LookupBlind (presentationSuites platform call) :=
    (lookupBlind_coreSuite.append lookupBlind_proofSuite).append hsuites
  have hrun (nowMs : ℚ) (timing : Bool) (options : RunSuitesOptions) :
      runSuites platform (presentationSuites platform call)
          { verifiablePresentation := call.presentation }
          (presentationContext config.services (lookupIssuersBelow platform config.services depth)
            (call.settled config) nowMs timing) options {} =
        runSuites platform (presentationSuites platform call)
          { verifiablePresentation := call.presentation }
          (presentationContext config (lookupIssuersBelow platform config depth) call nowMs timing)
          options {} := by
    rw [presentationContext_settled]
    exact (hblind.runSuites_eq _ _ _ _).symm
  have hembedded (timing : Bool) (credential : Json) :
      (createVerifier platform config depth).verifyCredential
          (embeddedCall call timing credential) =
        (createVerifier platform config.services depth).verifyCredential
          (embeddedCall (call.settled config) timing credential) :=
    verifyCredential_settled hspares hsuites
  -- Apart from its defaults the settled call is the call.
  have hpresentation : (call.settled config).presentation = call.presentation := rfl
  have hchallenge : invalidChallengeOptions (call.settled config) = invalidChallengeOptions call :=
    rfl
  have hsame : presentationSuites platform (call.settled config) = presentationSuites platform call :=
    rfl
  have htiming : (call.settled config).timing.or config.services.timing =
      call.timing.or config.timing := Option.or_none
  have hphases : (call.settled config).phases.or config.services.phases =
      call.phases.or config.phases := Option.or_none
  unfold verifyPresentation verifyPresentationWith
  simp only [hpresentation, hchallenge, hsame, htiming, hphases, presentationOptions_settled, hrun,
    hembedded]

end

/-! ## One-shot verification -/

/-- The call that is made with all the options. -/
def VerifyCredentialOptions.call (opts : VerifyCredentialOptions) : VerifyCredentialCall where
  credential := opts.credential
  additionalSuites := opts.additionalSuites
  registries := opts.registries
  phases := opts.phases
  timing := opts.timing

/-- The call that the options make. -/
def VerifyPresentationOptions.call (opts : VerifyPresentationOptions) : VerifyPresentationCall where
  presentation := opts.presentation
  challenge := opts.challenge
  domain := opts.domain
  unsignedPresentation := opts.unsignedPresentation
  additionalSuites := opts.additionalSuites
  registries := opts.registries
  phases := opts.phases
  timing := opts.timing

/-- A one-shot verification is the call with its options of a verifier that has only the
services, unless a handler of its registries has credentials verified or an added suite looks
issuers up. -/
theorem verifySuite_eq_createVerifier (platform : Platform) (depth : Nat) :
    (∀ opts : VerifyCredentialOptions,
      SparesVerifier (opts.registryHandlers.getD defaultHandlers) (opts.registries.getD []) →
      LookupBlind (opts.additionalSuites.getD []) →
      VerifySuite.verifyCredential platform depth opts =
        (createVerifier platform opts.services depth).verifyCredential opts.call) ∧
    ∀ opts : VerifyPresentationOptions,
      SparesVerifier (opts.registryHandlers.getD defaultHandlers) (opts.registries.getD []) →
      LookupBlind (opts.additionalSuites.getD []) →
      VerifySuite.verifyPresentation platform depth opts =
        verifyPresentation platform opts.services depth opts.call := by
  constructor
  · intro opts hspares hsuites
    have hregistries : opts.registries.or none = opts.registries := Option.or_none
    rw [← hregistries] at hspares
    refine (verifyCredential_settled hspares hsuites).trans ?_
    simp only [VerifyCredentialCall.settled, hregistries]
    rfl
  · intro opts hspares hsuites
    have hregistries : opts.registries.or none = opts.registries := Option.or_none
    rw [← hregistries] at hspares
    refine (verifyPresentation_settled hspares hsuites).trans ?_
    simp only [VerifyPresentationCall.settled, hregistries]
    rfl

namespace OneShotBadge

/-- The signature of the badge is all that is asked about. -/
def opts : VerifyPresentationOptions where
  cryptoServices := [0]
  registries := some [.dccLegacy "DCC" "https://dcc"]
  phases := some [.cryptographic]
  presentation := some BadgePresentation.presentation
  unsignedPresentation := some true

end OneShotBadge

/-- The presentation is verified with the phases given to its call. -/
theorem verifySuite_eq_createVerifier_badge : ∃ result,
    Executes (verifyPresentation BadgePresentation.platform OneShotBadge.opts.services 1
      OneShotBadge.opts.call) BadgePresentation.trace result ∧ result.verified = true := by
  have hreplay : (replay (VerifySuite.verifyPresentation BadgePresentation.platform 1
      OneShotBadge.opts) BadgePresentation.trace).map
      PresentationVerificationResult.verified = some true := by decide +kernel
  obtain ⟨result, hresult, hverified⟩ := Option.map_eq_some_iff.mp hreplay
  have hregistries : ∀ registry ∈ OneShotBadge.opts.registries.getD [],
      registry.type ≠ .vcRecognition := by decide
  have hsuites : LookupBlind (OneShotBadge.opts.additionalSuites.getD []) := by
    constructor
    · exact fun suite hsuite => absurd hsuite List.not_mem_nil
    · exact fun suite hsuite => absurd hsuite List.not_mem_nil
  have hsame := (verifySuite_eq_createVerifier BadgePresentation.platform 1).2 OneShotBadge.opts
    (sparesVerifier_defaultHandlers hregistries) hsuites
  rw [hsame] at hresult
  exact ⟨result, replay_eq_some_iff.mp hresult, hverified⟩

end VerifierCore
