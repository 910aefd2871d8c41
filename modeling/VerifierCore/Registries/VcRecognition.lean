import VerifierCore.Registries.CacheTtl
import VerifierCore.Registries.Handler

/-!
# Recognition credential lookup

A registry of this type is a credential: it is fetched, its issuer is checked
against the registry's accepted issuers, the verifier verifies it, and it is
cached under its URL.  The issuer is then looked up among its subjects.

Main results:

- Theorem {lit}`executes_lookupVcRecognition`: the runs of a lookup.
- Theorem {lit}`RecognitionRun.found_cases`: a found issuer is a subject of the
  cached credential, or of a fetched one that was accepted and stored.
-/

namespace VerifierCore

open Foundations Program

/-- The key that the credential at a URL is kept under. -/
def cacheKeyForVcRecognitionUrl (url : String) : String :=
  "vc-recognition:" ++ url

/-- The body of a fetched recognition credential, if it is an object. -/
def recognitionBody (fetched : Except Thrown HttpGetResult) : Option Json :=
  match fetched with
  | .error _ => none
  | .ok result => if !result.isOk then none else result.body.filter fun json => isPlainObject json

/-- The recognition credential at a URL, if one can be read there. -/
def fetchRecognitionCredentialJson (url : String) : Async (Option Json) := do
  let fetched ← ask (.httpGet url)
  pure (recognitionBody fetched)

/-- Whether the credential's issuer is one of those accepted. -/
def hasAcceptedIssuer (acceptedIssuers : List String) (credential : Json) : Bool :=
  (credentialIssuerId credential).any fun issuerId => issuerId ∈ acceptedIssuers

/-- The issuer of a credential is accepted exactly if its id is among the accepted ones. -/
theorem hasAcceptedIssuer_iff {acceptedIssuers : List String} {credential : Json} :
    hasAcceptedIssuer acceptedIssuers credential = true ↔
      ∃ issuerId, credentialIssuerId credential = some issuerId ∧ issuerId ∈ acceptedIssuers := by
  cases h : credentialIssuerId credential <;> simp [hasAcceptedIssuer, h]

/-- The `credentialSubject` entry whose `id` is `did`. -/
def findSubjectEntry (credential : Json) (did : String) : Option Json :=
  let entries :=
    match credential.get? "credentialSubject" with
    | some (.arr items) => items
    | some subject => [subject]
    | none => []
  entries.find? fun entry => isPlainObject (some entry) && entry.get? "id" = some (.str did)

/-- The credential's record of the issuer: its name and homepage when they are
plain strings, plus the whole entry. -/
def recognitionEntity (entry : Json) : RegistryEntity :=
  { name := (asString (entry.get? "name")).map Json.str
    url := (asString (entry.get? "url")).map Json.str
    raw := some entry }

/-- What a recognition credential says about an issuer. -/
def recognitionAnswer (credential : Json) (did : String) : HandlerResult :=
  match findSubjectEntry credential did with
  | none => .notFound
  | some entry => .found (some (recognitionEntity entry))

/-- How long a recognition credential is cached: at most an hour, or until its
`validUntil` if sooner. -/
def recognitionTtl (platform : Platform) (credential : Json) (nowMs : ℚ) : ℚ :=
  min (resolveTtl [ttlFromValidUntil platform (credential.get? "validUntil") nowMs]) defaultTtlMs

/-- The verification asked for a recognition credential.  The empty registry list
keeps its own issuer from being looked up. -/
def recognitionCall (credential : Json) : VerifyCredentialCall :=
  { credential := some credential, registries := some [] }

/-- Look a DID up in the recognition credential of a registry. -/
def lookupVcRecognitionForRegistry (platform : Platform) (did url : String)
    (acceptedIssuers : List String) (verifier : Verifier) : Async HandlerResult := do
  let cached ← ask (.cacheGet (cacheKeyForVcRecognitionUrl url))
  match cachedDocument cached with
  | some credential => pure (recognitionAnswer credential did)
  | none => do
      let loaded ← fetchRecognitionCredentialJson url
      match loaded with
      | none => pure .unchecked
      | some loaded =>
          if !hasAcceptedIssuer acceptedIssuers loaded then pure .unchecked
          else do
            let verification ← verifier.verifyCredential (recognitionCall loaded)
            if !verification.verified then pure .unchecked
            else do
              let nowMs ← ask .dateNowMs
              let _ ← ask (.cacheSet (cacheKeyForVcRecognitionUrl url) (.json loaded)
                ((recognitionTtl platform loaded nowMs : WithTop ℚ) : Num))
              pure (recognitionAnswer loaded did)

/-- The handler of the registries that are recognition credentials. -/
def lookupVcRecognition : RegistryHandler := fun did registry context =>
  match registry with
  | .vcRecognition _ url acceptedIssuers =>
      match context.verifier with
      | .error error => pure (.error error)
      | .ok verifier =>
          .ok <$> lookupVcRecognitionForRegistry context.platform did url acceptedIssuers verifier
  | _ => pure (.ok .unchecked)

/-! ## Runs -/

/-- The runs of a lookup for one registry. -/
inductive RecognitionRun (platform : Platform) (did url : String)
    (acceptedIssuers : List String) (verifier : Verifier) :
    List PortEvent → HandlerResult → Prop where
  /-- A cached credential answers at once. -/
  | cached {value : CacheValue} {credential : Json} :
      cachedDocument (some value) = some credential →
      RecognitionRun platform did url acceptedIssuers verifier
        [⟨.cacheGet (cacheKeyForVcRecognitionUrl url), some value⟩]
        (recognitionAnswer credential did)
  /-- No credential of an accepted issuer was fetched. -/
  | notAccepted {cached : Option CacheValue} {fetched : Except Thrown HttpGetResult} :
      cachedDocument cached = none →
      (∀ loaded, recognitionBody fetched = some loaded →
        hasAcceptedIssuer acceptedIssuers loaded = false) →
      RecognitionRun platform did url acceptedIssuers verifier
        [⟨.cacheGet (cacheKeyForVcRecognitionUrl url), cached⟩, ⟨.httpGet url, fetched⟩]
        .unchecked
  /-- The fetched credential did not verify. -/
  | notVerified {cached : Option CacheValue} {fetched : Except Thrown HttpGetResult}
      {loaded : Json} {events : List PortEvent} {verification : CredentialVerificationResult} :
      cachedDocument cached = none → recognitionBody fetched = some loaded →
      hasAcceptedIssuer acceptedIssuers loaded = true →
      Executes (verifier.verifyCredential (recognitionCall loaded)) events verification →
      verification.verified = false →
      RecognitionRun platform did url acceptedIssuers verifier
        (⟨.cacheGet (cacheKeyForVcRecognitionUrl url), cached⟩ :: ⟨.httpGet url, fetched⟩ ::
          events)
        .unchecked
  /-- The fetched credential verified, was stored and answers. -/
  | stored {cached : Option CacheValue} {fetched : Except Thrown HttpGetResult} {loaded : Json}
      {events : List PortEvent} {verification : CredentialVerificationResult} {nowMs : ℚ} :
      cachedDocument cached = none → recognitionBody fetched = some loaded →
      hasAcceptedIssuer acceptedIssuers loaded = true →
      Executes (verifier.verifyCredential (recognitionCall loaded)) events verification →
      verification.verified = true →
      RecognitionRun platform did url acceptedIssuers verifier
        (⟨.cacheGet (cacheKeyForVcRecognitionUrl url), cached⟩ :: ⟨.httpGet url, fetched⟩ ::
          (events ++ [⟨.dateNowMs, nowMs⟩, ⟨.cacheSet (cacheKeyForVcRecognitionUrl url)
            (.json loaded) ((recognitionTtl platform loaded nowMs : WithTop ℚ) : Num), ()⟩]))
        (recognitionAnswer loaded did)

/-- Every execution is one of the runs. -/
theorem executes_lookupVcRecognition {platform : Platform} {did url : String}
    {acceptedIssuers : List String} {verifier : Verifier} {trace : List PortEvent}
    {result : HandlerResult}
    (h : Executes (lookupVcRecognitionForRegistry platform did url acceptedIssuers verifier)
      trace result) :
    RecognitionRun platform did url acceptedIssuers verifier trace result := by
  rcases executes_ask_bind_iff.mp h with ⟨cached, rest, rfl, hrest⟩
  cases hcached : cachedDocument cached with
  | some credential =>
      simp only [hcached, executes_pure_iff] at hrest
      rcases hrest with ⟨rfl, rfl⟩
      cases cached with
      | none => simp [cachedDocument] at hcached
      | some value => exact .cached hcached
  | none =>
      simp only [hcached] at hrest
      rcases executes_bind_iff.mp hrest with ⟨fetching, rest, loaded, rfl, hfetch, hloaded⟩
      rcases executes_ask_bind_iff.mp hfetch with ⟨fetched, last, rfl, hbody⟩
      rcases executes_pure_iff.mp hbody with ⟨rfl, hbodyEq⟩
      cases loaded with
      | none =>
          rcases executes_pure_iff.mp hloaded with ⟨rfl, rfl⟩
          apply RecognitionRun.notAccepted hcached
          intro loaded hsome
          rw [← hbodyEq] at hsome
          cases hsome
      | some loaded =>
          dsimp only at hloaded
          by_cases haccepted : hasAcceptedIssuer acceptedIssuers loaded = true
          · rw [if_neg (by simp [haccepted])] at hloaded
            rcases executes_bind_iff.mp hloaded with
              ⟨events, rest, verification, rfl, hverify, hrest⟩
            by_cases hverified : verification.verified = true
            · rw [if_neg (by simp [hverified])] at hrest
              rcases executes_ask_bind_iff.mp hrest with ⟨nowMs, rest, rfl, hset⟩
              rcases executes_ask_bind_iff.mp hset with ⟨stored, rest, rfl, hdone⟩
              rcases executes_pure_iff.mp hdone with ⟨rfl, rfl⟩
              exact .stored hcached hbodyEq.symm haccepted hverify hverified
            · rw [if_pos (by simp [hverified])] at hrest
              rcases executes_pure_iff.mp hrest with ⟨rfl, rfl⟩
              rw [List.append_nil]
              exact .notVerified hcached hbodyEq.symm haccepted hverify (by simpa using hverified)
          · rw [if_pos (by simp [haccepted])] at hloaded
            rcases executes_pure_iff.mp hloaded with ⟨rfl, rfl⟩
            apply RecognitionRun.notAccepted hcached
            intro other hother
            rw [← hbodyEq, Option.some.injEq] at hother
            simpa [hother] using haccepted

/-- Only a registry of this type lists an issuer, and only with a verifier. -/
theorem lookupVcRecognition_found {did : String} {registry : EntityIdentityRegistry}
    {context : RegistryHandlerContext} {trace : List PortEvent}
    {entity : Option RegistryEntity}
    (h : Executes (lookupVcRecognition did registry context) trace (.ok (.found entity))) :
    ∃ name url acceptedIssuers verifier, registry = .vcRecognition name url acceptedIssuers ∧
      context.verifier = .ok verifier ∧
      RecognitionRun context.platform did url acceptedIssuers verifier trace (.found entity) := by
  cases registry with
  | oidf | dccLegacy => simp [lookupVcRecognition] at h
  | vcRecognition name url acceptedIssuers =>
      unfold lookupVcRecognition at h
      cases hverifier : context.verifier with
      | error error => simp [hverifier] at h
      | ok verifier =>
          simp only [hverifier] at h
          rcases executes_map_iff.mp h with ⟨result, hlookup, hresult⟩
          cases hresult
          exact ⟨name, url, acceptedIssuers, verifier, rfl, rfl,
            executes_lookupVcRecognition hlookup⟩

/-- The answer of a run that found the issuer was read from this credential:
the cached one, or else the fetched one. -/
inductive AnswerReadFrom (url : String) (credential : Json) : List PortEvent → Prop where
  | cache {value : CacheValue} :
      cachedDocument (some value) = some credential →
      AnswerReadFrom url credential [⟨.cacheGet (cacheKeyForVcRecognitionUrl url), some value⟩]
  | response {cached : Option CacheValue} {fetched : Except Thrown HttpGetResult}
      {rest : List PortEvent} :
      cachedDocument cached = none → recognitionBody fetched = some credential →
      AnswerReadFrom url credential
        (⟨.cacheGet (cacheKeyForVcRecognitionUrl url), cached⟩ :: ⟨.httpGet url, fetched⟩ :: rest)

/-- A run that found the issuer was answered by the cache, or fetched a credential
of an accepted issuer and stored it. -/
theorem RecognitionRun.found_cases {platform : Platform} {did url : String}
    {acceptedIssuers : List String} {verifier : Verifier} {trace : List PortEvent}
    {entity : Option RegistryEntity}
    (h : RecognitionRun platform did url acceptedIssuers verifier trace (.found entity)) :
    ∃ credential, recognitionAnswer credential did = .found entity ∧
      AnswerReadFrom url credential trace ∧
        ((∃ value, cachedDocument (some value) = some credential ∧
            trace = [⟨.cacheGet (cacheKeyForVcRecognitionUrl url), some value⟩]) ∨
          hasAcceptedIssuer acceptedIssuers credential = true ∧
            ∃ ttlMs, ⟨.cacheSet (cacheKeyForVcRecognitionUrl url) (.json credential) ttlMs, ()⟩ ∈
              trace) := by
  generalize hresult : HandlerResult.found entity = result at h
  cases h with
  | @cached value credential hvalue =>
      exact ⟨credential, rfl, .cache hvalue, .inl ⟨value, hvalue, rfl⟩⟩
  | notAccepted => cases hresult
  | notVerified => cases hresult
  | @stored cached fetched loaded events verification nowMs hcached hbody haccepted =>
      refine ⟨loaded, rfl, .response hcached hbody,
        .inr ⟨haccepted, ((recognitionTtl platform loaded nowMs : WithTop ℚ) : Num), ?_⟩⟩
      simp

end VerifierCore
