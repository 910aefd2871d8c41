import VerifierCore.Platform
import VerifierCore.Foundations.Program

/-!
# Suites, checks, ports and results

The data the verification pipeline works on, and the ports through which it
reaches the outside: HTTP, the cache, the clock, the crypto services and the
status list library.  An async function of the verifier is a program over these
ports, so what the outside answers is never assumed unless a theorem says so.

A `VerificationContext` carries only what the checks read as data; its services
are the ports.  Per-context records that the source keeps in weak maps are the
{lit}`ContextStore` handed from check to check.
-/

namespace VerifierCore

open Foundations

/-! ## Problems, outcomes and results -/

/-- A structured problem. -/
structure ProblemDetail where
  type : String
  title : String
  detail : String
  instance? : Option String := none
deriving DecidableEq

/-- The catalog entry for a problem name. -/
def problemType (name : String) : String :=
  "https://www.w3.org/TR/vc-data-model#" ++ name

namespace ProblemTypes

def parsingError := problemType "PARSING_ERROR"
def malformedValueError := problemType "MALFORMED_VALUE_ERROR"
def checkError := problemType "CHECK_ERROR"
def credentialExpired := problemType "CREDENTIAL_EXPIRED"
def credentialNotYetValid := problemType "CREDENTIAL_NOT_YET_VALID"
def proofVerificationError := problemType "PROOF_VERIFICATION_ERROR"
def proofUnsupported := problemType "PROOF_UNSUPPORTED"
def invalidSignature := problemType "INVALID_SIGNATURE"
def proofPurposeMismatch := problemType "PROOF_PURPOSE_MISMATCH"
def issuerProofMismatch := problemType "ISSUER_PROOF_MISMATCH"
def didWebUnresolved := problemType "DID_WEB_UNRESOLVED"
def verificationMethodUnresolved := problemType "VERIFICATION_METHOD_UNRESOLVED"
def verificationMethodError := problemType "VERIFICATION_METHOD_ERROR"
def httpError := problemType "HTTP_ERROR"
def invalidCredentialId := problemType "INVALID_CREDENTIAL_ID"
def issuerNotFound := problemType "ISSUER_NOT_FOUND"
def issuerNotRegistered := problemType "ISSUER_NOT_REGISTERED"
def registryUnchecked := problemType "REGISTRY_UNCHECKED"
def registryError := problemType "REGISTRY_ERROR"
def statusListNotFound := problemType "STATUS_LIST_NOT_FOUND"
def statusListExpired := problemType "STATUS_LIST_EXPIRED"
def statusListSignatureError := problemType "STATUS_LIST_SIGNATURE_ERROR"
def statusListTypeError := problemType "STATUS_LIST_TYPE_ERROR"
def statusListNotYetValid := problemType "STATUS_LIST_NOT_YET_VALID"
def statusListIssuerMismatch := problemType "STATUS_LIST_ISSUER_MISMATCH"
def statusListError := problemType "STATUS_LIST_ERROR"
def credentialRevoked := problemType "CREDENTIAL_REVOKED"
def credentialSuspended := problemType "CREDENTIAL_SUSPENDED"

end ProblemTypes

/-- Problem types with different names differ. -/
theorem problemType_ne {name name' : String} (h : name ≠ name') :
    problemType name ≠ problemType name' := by
  intro heq
  unfold problemType at heq
  -- The common front is cancelled, not computed.
  generalize "https://www.w3.org/TR/vc-data-model#" = catalog at heq
  have hlists := congrArg String.toList heq
  simp only [String.toList_append, List.append_right_inj] at hlists
  exact h (String.toList_injective hlists)

/-- Problems of different names have different types. -/
theorem problemType_injective : Function.Injective problemType := by
  intro name name' heq
  by_contra hne
  exact problemType_ne hne heq

/-- The suite phases of the two-pass workflow. -/
inductive SuitePhase where
  | cryptographic
  | trust
  | recognition
  | semantic
deriving DecidableEq

/-- A phase as it is spelled in ids. -/
def SuitePhase.name : SuitePhase → String
  | .cryptographic => "cryptographic"
  | .trust => "trust"
  | .recognition => "recognition"
  | .semantic => "semantic"

/-- What a check can apply to. -/
inductive VerificationSubjectType where
  | verifiableCredential
  | verifiablePresentation
deriving DecidableEq

/-- The document under verification. -/
structure VerificationSubject where
  verifiableCredential : Option Json := none
  verifiablePresentation : Option Json := none
deriving DecidableEq

/-- Where a registry is configured, one constructor per registry type. -/
inductive EntityIdentityRegistry where
  | oidf (name trustAnchorEC : String)
  | dccLegacy (name url : String)
  | vcRecognition (name url : String) (acceptedIssuers : List String)
deriving DecidableEq

/-- The registry types, as they are spelled. -/
inductive RegistryType where
  | oidf
  | dccLegacy
  | vcRecognition
deriving DecidableEq

/-- The name of a registry type in configurations. -/
def RegistryType.name : RegistryType → String
  | .oidf => "oidf"
  | .dccLegacy => "dcc-legacy"
  | .vcRecognition => "vc-recognition"

namespace EntityIdentityRegistry

/-- The type that decides which handler is asked. -/
def type : EntityIdentityRegistry → RegistryType
  | .oidf .. => .oidf
  | .dccLegacy .. => .dccLegacy
  | .vcRecognition .. => .vcRecognition

/-- The name a registry is reported under. -/
def name : EntityIdentityRegistry → String
  | .oidf name _ | .dccLegacy name _ | .vcRecognition name _ _ => name

end EntityIdentityRegistry

/-- A configured registry, as named in a lookup result. -/
structure RegistryReference where
  name : String
  type : RegistryType
  url : String
deriving DecidableEq

/-- What a registry records about the issuer it matched. -/
structure RegistryEntity where
  name : Option Json := none
  url : Option Json := none
  raw : Option Json := none
deriving DecidableEq

/-- One registry that listed the issuer. -/
structure RegistryMatch where
  registry : RegistryReference
  entity : Option RegistryEntity := none
deriving DecidableEq

/-- What a lookup found, as data. -/
structure RegistryCheckPayload where
  matchesFound : List RegistryMatch
  uncheckedRegistries : List RegistryReference
deriving DecidableEq

/-- Result of an issuer registry lookup. -/
structure RegistryLookupResult extends RegistryCheckPayload where
  found : Bool
deriving DecidableEq

/-- Options of an issuer registry lookup. -/
structure LookupIssuersOptions where
  fresh : Bool := false
  exhaustive : Bool := false
deriving DecidableEq

/-- What a recognizer makes of a credential. -/
inductive RecognitionResult where
  | recognized (profile : String) (normalized : Json)
  | malformed (profile : String) (problems : List ProblemDetail)
deriving DecidableEq

/-- Check-specific data on an outcome. -/
inductive CheckPayload where
  | recognition (result : RecognitionResult)
  | registry (payload : RegistryCheckPayload)
  | data (value : Json)
deriving DecidableEq

/-- Outcome of a single verification check. -/
inductive CheckOutcome where
  | success (message : String) (payload : Option CheckPayload := none)
  | failure (problems : List ProblemDetail) (payload : Option CheckPayload := none)
  | skipped (reason : String) (code : Option String := none) (haltedBy : Option String := none)
deriving DecidableEq

namespace CheckOutcome

/-- The check passed. -/
def isSuccess : CheckOutcome → Bool
  | .success .. => true
  | _ => false

/-- The check found something wrong; a skipped check did not. -/
def isFailure : CheckOutcome → Bool
  | .failure .. => true
  | _ => false

@[simp]
theorem isSuccess_success (message : String) (payload : Option CheckPayload) :
    (success message payload).isSuccess = true :=
  rfl

@[simp]
theorem isSuccess_failure (problems : List ProblemDetail) (payload : Option CheckPayload) :
    (failure problems payload).isSuccess = false :=
  rfl

@[simp]
theorem isSuccess_skipped (reason : String) (code haltedBy : Option String) :
    (skipped reason code haltedBy).isSuccess = false :=
  rfl

@[simp]
theorem isFailure_success (message : String) (payload : Option CheckPayload) :
    (success message payload).isFailure = false :=
  rfl

@[simp]
theorem isFailure_failure (problems : List ProblemDetail) (payload : Option CheckPayload) :
    (failure problems payload).isFailure = true :=
  rfl

@[simp]
theorem isFailure_skipped (reason : String) (code haltedBy : Option String) :
    (skipped reason code haltedBy).isFailure = false :=
  rfl

end CheckOutcome

/-- Wall-clock and monotonic timing of a task. -/
structure TaskTiming where
  startedAt : String
  endedAt : String
  durationMs : ℚ
deriving DecidableEq

/-- Tagged outcome emitted by the suite orchestrator. -/
structure CheckResult where
  id : String
  suite : String
  outcome : CheckOutcome
  fatal : Option Bool := none
  halts : Option Bool := none
  timing : Option TaskTiming := none
deriving DecidableEq

/-! ## Crypto services -/

/-- Options of a crypto service call. -/
structure CryptoVerifyOptions where
  challenge : Option String := none
  domain : Option String := none
  now : Option ℚ := none
deriving DecidableEq

/-- What a crypto service answers. -/
inductive CryptoResult where
  | verified (message : Option String)
  | rejected (problems : List ProblemDetail) (proofVerified : Option Bool)
deriving DecidableEq

/-- Outcome of dispatching a proof to the registered crypto services. -/
inductive CryptoDispatchResult where
  | verified (message : Option String)
  | rejected (problems : List ProblemDetail) (proofVerified : Bool)
  | noService
  | threw (error : Thrown) (message : String)
deriving DecidableEq

/-- One proof's verdict within a proof set. -/
structure ProofOutcome where
  position : Nat
  total : Nat
  label : String
  result : CryptoDispatchResult
deriving DecidableEq

/-- The verdict for a whole document and each proof's own. -/
structure ProofSetDispatchResult where
  combined : CryptoDispatchResult
  proofs : List ProofOutcome
deriving DecidableEq

/-! ## Ports -/

/-- A response of the HTTP service: the parsed body, or its text, the headers
under their lower-case names, and the status. -/
structure HttpGetResult where
  body : Option Json
  headers : List (String × String)
  status : Int
deriving DecidableEq

/-- What the verifier stores in the cache: raw JSON, or a lookup result. -/
inductive CacheValue where
  | json (value : Json)
  | lookupResult (result : RegistryLookupResult)
deriving DecidableEq

/-- What the status list library reports about one checked entry. -/
structure StatusEntryResult where
  status : Option Json
  credentialStatus : Option Json
deriving DecidableEq

/-- An error of the status list library.  When the hook's own proof error is
its cause, the problems that error carries. -/
structure StatusError where
  error : Thrown
  proofProblems : Option (List ProblemDetail)
deriving DecidableEq

/-- What the status list library returns. -/
structure StatusCheckResult where
  error : Option StatusError
  results : List StatusEntryResult
deriving DecidableEq

/-- The hook's verdict on one loaded status list. -/
structure StatusListVerdict where
  url : String
  problems : Option (List ProblemDetail)
deriving DecidableEq

/-- The calls the verifier makes to the outside.  Crypto services are named by
their position in the configuration. -/
inductive Port where
  | cacheGet (key : String)
  | cacheSet (key : String) (value : CacheValue) (ttlMs : Num)
  | httpGet (url : String)
  | dateNowMs
  | performanceNowMs
  | canVerify (service : Nat) (subject : VerificationSubject)
  | verifyCredential (service : Nat) (credential : Json) (options : CryptoVerifyOptions)
  | verifyPresentation (service : Nat) (presentation : Json) (options : CryptoVerifyOptions)
  | loadStatusLists (credential : Json)
  | readStatusLists (credential : Json) (verdicts : List StatusListVerdict)
deriving DecidableEq

/-- The answer to each call.  An answer that may be thrown is an `Except`. -/
@[reducible]
def Port.Answer : Port → Type
  | .cacheGet _ => Option CacheValue
  | .cacheSet .. => Unit
  | .httpGet _ => Except Thrown HttpGetResult
  | .dateNowMs => ℚ
  | .performanceNowMs => ℚ
  | .canVerify .. => Except Thrown Bool
  | .verifyCredential .. => Except Thrown CryptoResult
  | .verifyPresentation .. => Except Thrown CryptoResult
  | .loadStatusLists _ => List (String × Json)
  | .readStatusLists .. => Except StatusError StatusCheckResult

instance (port : Port) : Nonempty port.Answer := by
  cases port <;> dsimp only [Port.Answer] <;> first | infer_instance | exact ⟨0⟩ | exact ⟨.error .null⟩ |
    exact ⟨.error ⟨.null, none⟩⟩

/-- The call does not use the cache. -/
def Port.LeavesCache : Port → Prop
  | .cacheGet _ | .cacheSet .. => False
  | _ => True

/-- An async function's body: a program over the ports. -/
abbrev Async (α : Type) : Type :=
  Program Port Port.Answer α

/-- One call to a port with its answer. -/
abbrev PortEvent : Type :=
  Event Port Port.Answer

/-- Call one port. -/
def ask (port : Port) : Async port.Answer :=
  Program.perform port

/-- A call of a port is the first event of an execution, with any answer. -/
theorem executes_ask_bind_iff {port : Port} {α : Type} {f : port.Answer → Async α} {a : α}
    {trace : List PortEvent} :
    Program.Executes (ask port >>= f) trace a ↔
      ∃ answer rest, trace = ⟨port, answer⟩ :: rest ∧ Program.Executes (f answer) rest a :=
  Program.executes_perform_bind_iff

/-! ## Context, checks and suites -/

/-- Looks up whether an issuer DID is registered in some registries. -/
abbrev LookupIssuers : Type :=
  String → List EntityIdentityRegistry → LookupIssuersOptions →
    Async (Except Thrown RegistryLookupResult)

/-- A pluggable recognizer.  Either function may throw. -/
structure RecognizerSpec where
  applies : Option Json → Except Thrown Bool
  parse : Option Json → Except Thrown RecognitionResult

/-- What every check of a verify call receives. -/
structure VerificationContext where
  cryptoServices : List Nat := []
  registries : Option (List EntityIdentityRegistry) := none
  recognizers : Option (List RecognizerSpec) := none
  lookupIssuers : Option LookupIssuers := none
  challenge : Option String := none
  domain : Option String := none
  unsignedPresentation : Bool := false
  now : ℚ := 0
  timing : Bool := false

/-- The records kept for one context: the proof verdicts of the current proof
run by document, and the status lists of the current status run by URL. -/
structure ContextStore where
  verifiedProofs : Option (List (Json × ProofSetDispatchResult)) := none
  verifiedLists : Option (List (String × Json)) := none

/-- The body of a check: an outcome or a throw, and the context's records. -/
abbrev CheckBody : Type :=
  VerificationSubject → VerificationContext → ContextStore →
    Async (Except Thrown CheckOutcome × ContextStore)

/-- A single verification check. -/
structure VerificationCheck where
  id : String
  appliesTo : Option (List VerificationSubjectType) := none
  fatal : Option Bool := none
  halts : Option Bool := none
  execute : CheckBody

/-- The body of a check that calls no port and touches no record. -/
def pureBody (outcome : VerificationSubject → VerificationContext → Except Thrown CheckOutcome) :
    CheckBody :=
  fun subject context store => pure (outcome subject context, store)

/-- A named, ordered collection of checks. -/
structure VerificationSuite where
  id : String
  checks : List VerificationCheck
  applies : Option (VerificationSubject → VerificationContext → Except Thrown Bool) := none
  phase : Option SuitePhase := none

end VerifierCore
