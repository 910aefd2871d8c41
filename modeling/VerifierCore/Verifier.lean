import VerifierCore.Schemas
import VerifierCore.RunSuites.Report
import VerifierCore.Suites.Proof
import VerifierCore.Suites.Registry
import VerifierCore.Suites.Status
import VerifierCore.Registries.Lookup

/-!
# Verifiers

A verifier gates a credential, runs the default suites and the caller's over it
and folds the rows into a result.  Its registry suite looks issuers up through
handlers that may call the verifier again.

The source ties this knot through a mutable reference.  Here the verifier comes at
every depth of that recursion: at depth zero the reference is still unset, and one
level up the handlers are given the verifier below.
-/

namespace VerifierCore

open Foundations Program

/-! ## Configuration -/

/-- Options of `createVerifier` that are read as data.  The HTTP service, the
cache, the crypto services and the clock are the ports. -/
structure VerifierConfig where
  cryptoServices : List Nat := []
  registries : Option (List EntityIdentityRegistry) := none
  registryHandlers : Option RegistryHandlerMap := none
  recognizers : Option (List RecognizerSpec) := none
  phases : Option (List SuitePhase) := none
  timing : Option Bool := none

/-- The suites that run for every credential, in order. -/
def defaultSuites (platform : Platform) : List VerificationSuite :=
  [coreSuite platform, recognitionSuite, proofSuite platform, registrySuite,
    statusSuite platform]

/-! ## Parse failures -/

/-- The suite a parse failure is reported under. -/
def parsingSuite : VerificationSuite where
  id := "parsing"
  phase := some .cryptographic
  checks :=
    [{ id := "parsing.envelope"
       fatal := some true
       execute := pureBody fun _ _ => .ok (.failure []) }]

/-- A fatal failure row for a check that never ran. -/
def syntheticFailureResult (platform : Platform) (suite : VerificationSuite) (checkId : String)
    (problem : ProblemDetail) (timing : Bool) : Async CheckResult :=
  syntheticResult platform suite checkId (.failure [problem]) (some true) none timing

/-- The summary of a lone failure row. -/
def syntheticFailureSummary (check : CheckResult) (suite : VerificationSuite) :
    List SuiteSummary :=
  (foldCheckResults [check] [suite]).summaries

/-- The result for a value that does not parse as a credential. -/
def parseFailureCredentialResult (platform : Platform) (credential : Option Json)
    (messages : List String) (timing : Bool) : Async CredentialVerificationResult := do
  let problem : ProblemDetail :=
    { type := ProblemTypes.parsingError
      title := "Credential Parsing Failed"
      detail := join "; " messages }
  let check ← syntheticFailureResult platform parsingSuite "parsing.envelope" problem timing
  pure
    { verified := false
      verifiableCredential := credential
      results := [check]
      summary := syntheticFailureSummary check parsingSuite }

/-! ## Results -/

/-- The recognized form of the credential, if a recognizer gave one. -/
def extractRecognition (results : List CheckResult) : Option (String × Json) :=
  match results.find? fun row => row.id = "recognition.profile" with
  | some row =>
      match row.outcome with
      | .success _ (some (.recognition (.recognized profile normalized))) =>
          some (profile, normalized)
      | _ => none
  | none => none

/-- Add the top-level timing to a result. -/
def finalizeCredentialResult (platform : Platform) (result : CredentialVerificationResult)
    (topLevel : Option InProgressTiming) : Async CredentialVerificationResult := do
  let timing ← finishIfStarted platform topLevel
  pure { result with timing := timing }

/-- The result of a run of the suites. -/
def credentialResult (credential : Option Json) (rawChecks : List CheckResult)
    (suites : List VerificationSuite) (requestedPhases : Option (List SuitePhase)) :
    CredentialVerificationResult :=
  let recognized := extractRecognition rawChecks
  let folded := foldCheckResults rawChecks suites
  { verified := !hasFatalFailures rawChecks
    verifiableCredential := credential
    normalizedVerifiableCredential := recognized.map Prod.snd
    recognizedProfile := recognized.map Prod.fst
    results := folded.results
    summary := folded.summaries
    partialPhases := requestedPhases.map fun _ => true }

/-! ## Verifiers -/

/-- The context of a credential verification. -/
def buildContext (config : VerifierConfig) (lookupIssuers : LookupIssuers)
    (registries : Option (List EntityIdentityRegistry)) (now : ℚ) (timing : Bool) :
    VerificationContext :=
  { cryptoServices := config.cryptoServices
    registries := registries
    recognizers := some (config.recognizers.getD [])
    lookupIssuers := some lookupIssuers
    now := now
    timing := timing }

/-- The body of `verifyCredential`, for the issuer lookup it is given. -/
def verifyCredentialWith (platform : Platform) (config : VerifierConfig)
    (lookupIssuers : LookupIssuers) (call : VerifyCredentialCall) :
    Async CredentialVerificationResult := do
  let timing := (call.timing.or config.timing).getD false
  let topLevel ← startIfTimed platform timing
  match parseCredential call.credential with
  | message :: messages => do
      let result ← parseFailureCredentialResult platform call.credential (message :: messages)
        timing
      finalizeCredentialResult platform result topLevel
  | [] => do
      let nowMs ← ask .dateNowMs
      let context := buildContext config lookupIssuers (call.registries.or config.registries)
        nowMs timing
      let additionalSuites := call.additionalSuites.getD []
      let suites := defaultSuites platform ++ additionalSuites
      let requestedPhases := call.phases.or config.phases
      let ran ← runSuites platform suites { verifiableCredential := call.credential } context
        { explicitSuiteIds := additionalSuites.map VerificationSuite.id
          phases := expandPhases requestedPhases }
        {}
      finalizeCredentialResult platform
        (credentialResult call.credential ran.1 suites requestedPhases) topLevel

/-- What the handlers' verifier reference throws before it is set. -/
def verifierRefError : Thrown :=
  .obj [("message", .str "verifierRef accessed before createVerifier returned")]

/-- The issuer lookup of a verifier whose handlers are given the verifier. -/
def lookupIssuersWith (platform : Platform) (config : VerifierConfig)
    (verifier : Except Thrown Verifier) : LookupIssuers :=
  createRegistryLookup (config.registryHandlers.getD defaultHandlers)
    { platform := platform, verifier := verifier }

/-- The verifier at a depth of the recursion through its handlers. -/
def createVerifier (platform : Platform) (config : VerifierConfig) : Nat → Verifier
  | 0 =>
      { verifyCredential := verifyCredentialWith platform config
          (lookupIssuersWith platform config (.error verifierRefError)) }
  | depth + 1 =>
      { verifyCredential := verifyCredentialWith platform config
          (lookupIssuersWith platform config (.ok (createVerifier platform config depth))) }

/-- The issuer lookup of a verifier whose handlers may go one depth down. -/
def lookupIssuersAt (platform : Platform) (config : VerifierConfig) (depth : Nat) :
    LookupIssuers :=
  lookupIssuersWith platform config (.ok (createVerifier platform config depth))

/-- The issuer lookup of the verifier at a depth. -/
def lookupIssuersBelow (platform : Platform) (config : VerifierConfig) : Nat → LookupIssuers
  | 0 => lookupIssuersWith platform config (.error verifierRefError)
  | depth + 1 => lookupIssuersAt platform config depth

/-- The verifier at a depth looks issuers up below it. -/
theorem createVerifier_verifyCredential (platform : Platform) (config : VerifierConfig)
    (depth : Nat) :
    (createVerifier platform config depth).verifyCredential =
      verifyCredentialWith platform config (lookupIssuersBelow platform config depth) := by
  cases depth <;> rfl

end VerifierCore
