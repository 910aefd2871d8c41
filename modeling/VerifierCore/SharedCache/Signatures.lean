import VerifierCore.SharedCache.Recognition

/-!
# Signatures of recognition credentials

Lookups of verifiers that share one cache.  A handler takes a recognition
credential for good once the verifier says it is verified; that verifier inherits
the phases of its configuration, and a phase filter may leave the proof suite out.

Main results:

- Theorem {lit}`recognitionsSigned_of_checksSignatures`: as long as every verifier's
  phases include the proof suite, whatever a recognition registry answers rests on
  a signature check that succeeded.
- Theorem {lit}`not_recognitionsSigned_trustOnly`: with a phase filter it need not.
-/

namespace VerifierCore

open Foundations Program

/-! ## Lookups of verifiers -/

/-- One issuer lookup of a verifier. -/
structure LookupCall where
  config : VerifierConfig
  depth : Nat
  did : String
  registries : List EntityIdentityRegistry
  options : LookupIssuersOptions

namespace LookupCall

/-- The lookup that a call makes. -/
def program (platform : Platform) (call : LookupCall) :
    Async (Except Thrown RegistryLookupResult) :=
  lookupIssuersAt platform call.config call.depth call.did call.registries call.options

theorem lookupRun {platform : Platform} {call : LookupCall} {trace : List PortEvent}
    {outcome : Except Thrown RegistryLookupResult}
    (h : Executes (call.program platform) trace outcome) :
    LookupRun call.config.handlers (handlerContext platform call.config call.depth) call.did
      call.registries call.options trace outcome :=
  executes_createRegistryLookup h

end LookupCall

/-! ## The phases of a verifier -/

/-- The verifier's phases, if it has any, include the proof suite's. -/
def VerifierConfig.ChecksSignatures (config : VerifierConfig) : Prop :=
  ∀ phases, config.phases = some phases → .cryptographic ∈ phases

/-- A verifier that checks signatures only verifies a recognition credential whose
signature check succeeds. -/
theorem VerifierConfig.ChecksSignatures.signatureSucceeded {platform : Platform}
    {config : VerifierConfig} (h : config.ChecksSignatures) {depth : Nat} {credential : Json}
    {events : List PortEvent} {verification : CredentialVerificationResult}
    (hverify : Executes ((createVerifier platform config depth).verifyCredential
      (recognitionCall credential)) events verification)
    (hverified : verification.verified = true) :
    SignatureSucceeded events credential verification := by
  rw [createVerifier_verifyCredential] at hverify
  have hphases : suiteRunsInPhases (proofSuite platform) (expandPhases
      ((recognitionCall credential).phases.or config.phases)) = true :=
    suiteRunsInPhases_expandPhases rfl h
  exact signature_of_verified rfl hphases hverify hverified

/-! ## Signed recognition credentials -/

section

variable {platform : Platform} {run : Run LookupCall ℚ Port Port.Answer}

/-- Before now, one of the run's verifiers verified the recognition credential, ran
the proof suite for it, and its signature check succeeded. -/
def SignatureVerified (platform : Platform) (run : Run LookupCall ℚ Port Port.Answer)
    (before : List CallEvent) (credential : Json) : Prop :=
  ∃ i call events verification, run.calls[i]? = some call ∧ events <:+: own before i ∧
    Executes ((createVerifier platform call.config call.depth).verifyCredential
      (recognitionCall credential)) events verification ∧
    SignatureSucceeded events credential verification

/-- Whatever a recognition registry answers or stores rests on a recognition
credential whose signature was verified before. -/
structure RecognitionsSigned (platform : Platform) (run : Run LookupCall ℚ Port Port.Answer) :
    Prop where
  /-- A call has just gone through an execution of the handler that found the
  issuer. -/
  found : ∀ before after i call front events did registry entity,
    run.history = before ++ after → run.calls[i]? = some call →
    own before i = front ++ events →
    Executes (lookupVcRecognition did registry (handlerContext platform call.config call.depth))
      events (.ok (.found entity)) →
    ∃ credential, recognitionAnswer credential did = .found entity ∧
      AnswerReadFrom (registryUrl registry) credential events ∧
      SignatureVerified platform run before credential
  /-- A call is about to store a recognition credential. -/
  stored : ∀ before stamped after url value ttlMs, run.history = before ++ stamped :: after →
    stamped.event = ⟨.cacheSet (cacheKeyForVcRecognitionUrl url) value ttlMs, ()⟩ →
    ∃ credential, value = .json credential ∧ SignatureVerified platform run before credential

/-- Recognition credentials are only stored by `lookupVcRecognition`. -/
def LookupCall.KeepsRecognition (platform : Platform) (call : LookupCall) : Prop :=
  ∀ type, call.config.handlers type = lookupVcRecognition ∨
    RegistryHandler.KeepsOut .vcRecognition (handlerContext platform call.config call.depth)
      (call.config.handlers type)

/-- The lookup asks a recognition registry. -/
def LookupCall.AsksRecognition (call : LookupCall) : Prop :=
  ∃ registry ∈ call.registries, registry.type = .vcRecognition

/-- What stands behind a recognition credential that a lookup stores. -/
def LookupCall.StoresVerified (platform : Platform) (call : LookupCall)
    (front : List PortEvent) (event : PortEvent) : Prop :=
  ∀ url value ttlMs, event = ⟨.cacheSet (cacheKeyForVcRecognitionUrl url) value ttlMs, ()⟩ →
    call.AsksRecognition ∧ ∃ credential, value = .json credential ∧
      VerifiedAlong (createVerifier platform call.config call.depth) credential front

theorem lookupVcRecognition_of_type_ne {registry : EntityIdentityRegistry}
    (h : registry.type ≠ .vcRecognition) (did : String) (context : RegistryHandlerContext) :
    lookupVcRecognition did registry context = pure (.ok .unchecked) := by
  cases registry with
  | oidf | dccLegacy => rfl
  | vcRecognition => exact absurd rfl h

/-- A lookup stores verified recognition credentials only. -/
theorem justified_lookupCall {call : LookupCall} (hkeep : call.KeepsRecognition platform)
    {trace : List PortEvent} {outcome : Except Thrown RegistryLookupResult}
    (h : Executes (call.program platform) trace outcome) :
    Justified (call.StoresVerified platform) trace := by
  refine LookupRun.justified (call.StoresVerified platform) ?_ ?_ ?_ ?_ (LookupCall.lookupRun h)
  · intro more front event hfront url value ttlMs hevent
    rcases hfront url value ttlMs hevent with ⟨hasks, credential, hvalue, hverified⟩
    exact ⟨hasks, credential, hvalue, hverified.mono (List.suffix_append more front).isInfix⟩
  · intro key cached front url value ttlMs hevent
    cases hevent
  · intro visit hregistry hruns
    rcases hkeep visit.registry.type with hhandler | hkeepsOut
    · rw [Visit.Runs, hhandler] at hruns
      by_cases htype : visit.registry.type = .vcRecognition
      · refine (justified_lookupVcRecognition hruns).imp ?_
        intro front event hstores url value ttlMs hevent
        rcases hstores _ value ttlMs hevent with ⟨_, credential, hvalue, _, hverified⟩
        exact ⟨⟨visit.registry, hregistry, htype⟩, credential, hvalue, hverified⟩
      · rw [lookupVcRecognition_of_type_ne htype] at hruns
        rw [(executes_pure_iff.mp hruns).1]
        exact justified_of_forall (by simp)
    · refine Visit.justified_of_keepsOut hkeepsOut ?_ hruns
      intro event hevent front url value ttlMs hset
      rw [hset] at hevent
      exact absurd (inNamespace_vcRecognition url) (hevent _ _ _ rfl)
  · intro visits _ _ url value ttlMs hevent
    have hkey := (Port.cacheSet.inj (congrArg Event.op hevent)).1
    have hresult := inNamespace_resultCacheKey call.did call.registries
    rw [hkey] at hresult
    have hsame := hresult.unique (inNamespace_vcRecognition url)
    cases hsame

/-- A signature that was verified stays so as the history goes on. -/
theorem SignatureVerified.mono {before : List CallEvent} {credential : Json}
    (h : SignatureVerified platform run before credential) (more : List CallEvent) :
    SignatureVerified platform run (before ++ more) credential := by
  rcases h with ⟨i, call, events, verification, hcall, hevents, hverify⟩
  have hlonger : own before i <:+: own (before ++ more) i := by
    rw [own_append]
    exact (List.prefix_append _ _).isInfix
  exact ⟨i, call, events, verification, hcall, hevents.trans hlonger, hverify⟩

/-- Stored recognition credentials are signed if every verifier that asks for them
checks signatures. -/
theorem signatureVerified_of_stored (hfollows : run.Follows (LookupCall.program platform))
    (hphases : ∀ call ∈ run.calls, call.AsksRecognition → call.config.ChecksSignatures)
    (hkeep : ∀ call ∈ run.calls, call.KeepsRecognition platform)
    {before after : List CallEvent} {stamped : CallEvent} {url : String} {value : CacheValue}
    {ttlMs : Num} (hsplit : run.history = before ++ stamped :: after)
    (hevent : stamped.event = ⟨.cacheSet (cacheKeyForVcRecognitionUrl url) value ttlMs, ()⟩) :
    ∃ credential, value = .json credential ∧
      SignatureVerified platform run before credential := by
  have hjustified := Run.justified_event hfollows
    (fun call hcall trace outcome => justified_lookupCall (hkeep call hcall)) hsplit
  rcases hjustified with ⟨call, hcall, hstores⟩
  rcases hstores url value ttlMs hevent with
    ⟨hasks, credential, hvalue, events, verification, hevents, hverify, hverified⟩
  have hchecks := hphases call (List.mem_of_getElem? hcall) hasks
  exact ⟨credential, hvalue, stamped.thread, call, events, verification, hcall, hevents,
    hverify, hchecks.signatureSucceeded hverify hverified⟩

/-- A call that has stored a recognition credential had its signature verified. -/
theorem signatureVerified_of_mem (hfollows : run.Follows (LookupCall.program platform))
    (hphases : ∀ call ∈ run.calls, call.AsksRecognition → call.config.ChecksSignatures)
    (hkeep : ∀ call ∈ run.calls, call.KeepsRecognition platform)
    {before after : List CallEvent} (hhistory : run.history = before ++ after) {i : Nat}
    {url : String} {credential : Json} {ttlMs : Num}
    (hmem : ⟨.cacheSet (cacheKeyForVcRecognitionUrl url) (.json credential) ttlMs, ()⟩ ∈
      own before i) : SignatureVerified platform run before credential := by
  rcases exists_split_of_mem_own hmem with ⟨earlier, write, later, rfl, _, hevent⟩
  have hsplit : run.history = earlier ++ write :: (later ++ after) := by simp [hhistory]
  rcases signatureVerified_of_stored hfollows hphases hkeep hsplit hevent with
    ⟨document, hvalue, hsigned⟩
  cases hvalue
  exact hsigned.mono (write :: later)

/-- A call that was served a recognition credential had its signature verified by
the call that stored it. -/
theorem signatureVerified_of_hit (hfollows : run.Follows (LookupCall.program platform))
    (hcache : SharedCache run.history)
    (hphases : ∀ call ∈ run.calls, call.AsksRecognition → call.config.ChecksSignatures)
    (hkeep : ∀ call ∈ run.calls, call.KeepsRecognition platform)
    {before after : List CallEvent} (hhistory : run.history = before ++ after) {i : Nat}
    {url : String} {value : CacheValue} {credential : Json}
    (hvalue : cachedDocument (some value) = some credential)
    (hmem : ⟨.cacheGet (cacheKeyForVcRecognitionUrl url), some value⟩ ∈ own before i) :
    SignatureVerified platform run before credential := by
  rcases exists_split_of_mem_own hmem with ⟨earlier, read, later, rfl, _, hevent⟩
  have hsplit : run.history = earlier ++ read :: (later ++ after) := by simp [hhistory]
  rcases hcache earlier read _ hsplit ⟨_, _, hevent⟩ with
    ⟨first, write, between, rfl, key, stored, ttlMs, hwrite, hserved, _⟩
  rw [hevent] at hserved
  cases hserved
  have hwriteSplit : run.history = first ++ write :: (between ++ read :: (later ++ after)) := by
    simp [hsplit]
  rcases signatureVerified_of_stored hfollows hphases hkeep hwriteSplit hwrite with
    ⟨document, rfl, hsigned⟩
  rcases cachedDocument_eq_some_iff.mp hvalue with ⟨other, hother, hdocument, _⟩
  cases hother
  have hsame : document = credential := hdocument
  rw [← hsame]
  simpa using hsigned.mono (write :: between ++ read :: later)

/-- In every run of lookups on a shared cache in which the verifiers that ask for
recognition credentials check signatures, whatever a recognition registry answers
or stores is signed. -/
theorem recognitionsSigned_of_checksSignatures
    (hfollows : run.Follows (LookupCall.program platform)) (hcache : SharedCache run.history)
    (hphases : ∀ call ∈ run.calls, call.AsksRecognition → call.config.ChecksSignatures)
    (hkeep : ∀ call ∈ run.calls, call.KeepsRecognition platform) :
    RecognitionsSigned platform run where
  found := by
    intro before after i call front events did registry entity hhistory hcall hown hfound
    rcases lookupVcRecognition_found hfound with
      ⟨name, url, accepted, verifier, rfl, _, hlookup⟩
    rcases hlookup.found_cases with ⟨credential, hanswer, hread, hsource⟩
    refine ⟨credential, hanswer, hread, ?_⟩
    rcases hsource with ⟨value, hvalue, htrace⟩ | ⟨_, ttlMs, hstored⟩
    · have hhit : ⟨.cacheGet (cacheKeyForVcRecognitionUrl url), some value⟩ ∈ own before i := by
        simp [hown, htrace]
      exact signatureVerified_of_hit hfollows hcache hphases hkeep hhistory hvalue hhit
    · have hmem : ⟨.cacheSet (cacheKeyForVcRecognitionUrl url) (.json credential) ttlMs, ()⟩ ∈
          own before i := by
        rw [hown]
        exact List.mem_append_right _ hstored
      exact signatureVerified_of_mem hfollows hphases hkeep hhistory hmem
  stored := by
    intro before stamped after url value ttlMs hsplit hevent
    exact signatureVerified_of_stored hfollows hphases hkeep hsplit hevent

/-- Without a document in a crypto service's hands no signature was verified. -/
theorem not_signatureVerified_of_not_handed {before : List CallEvent} {credential : Json}
    (h : ∀ stamped ∈ before, stamped.event.op.handedDocument = none) :
    ¬SignatureVerified platform run before credential := by
  intro hsigned
  rcases hsigned with ⟨i, call, events, verification, _, hevents, _, hsucceeded⟩
  rcases hsucceeded.ran with
    ⟨context, store, store', executed, outcome, hexecuted, hexec, hsuccess⟩
  rcases signature_evidence hexec hsuccess with
    ⟨handed, service, document, options, answer, _, _, hmem, _⟩
  have hown := hevents.subset (hexecuted.subset hmem)
  rcases mem_own_iff.mp hown with ⟨stamped, hstamped, _, hevent⟩
  have hnone := h stamped hstamped
  rw [hevent, handedDocument_verifyEvent] at hnone
  cases hnone

end

/-! ### Verifiers with and without the proof suite -/

/-- A lookup of the issuer in the list's registry, by a verifier with these phases. -/
def listLookup (phases : Option (List SuitePhase)) (options : LookupIssuersOptions) :
    LookupCall :=
  { config := { cryptoServices := [0], phases := phases }
    depth := 0
    did := "did:example:issuer"
    registries := [.vcRecognition "List" "https://list" ["did:example:recognizer"]]
    options := options }

/-- The key that the results of these lookups are stored under. -/
def listResultKey : String :=
  resultCacheKey "did:example:issuer"
    [.vcRecognition "List" "https://list" ["did:example:recognizer"]]

/-- The issuer is in the list. -/
def listedResult : RegistryLookupResult :=
  lookupResultOf
    { matchesFound :=
        [{ registry := { name := "List", type := .vcRecognition, url := "https://list" }
           entity := listedEntity }]
      uncheckedRegistries := [] }

/-- The store of the result of a lookup that found the issuer. -/
def storeListedResult : PortEvent :=
  ⟨.cacheSet listResultKey (.lookupResult listedResult) ((3600000 : ℚ) : WithTop ℚ), ()⟩

/-- One verifier stores the credential, another one is served it. -/
def signedLookups : List (LookupCall × List (ℚ × PortEvent)) :=
  [(listLookup none {},
      (⟨.cacheGet listResultKey, none⟩ :: (storingEvents ++ [storeListedResult])).map
        fun event => (0, event)),
    (listLookup (some [.cryptographic, .trust]) { fresh := true },
      (servedEvents ++ [storeListedResult]).map fun event => (0, event))]

theorem executes_signedLookups :
    ∀ part ∈ signedLookups, ∃ outcome,
      Executes (part.1.program listPlatform) (part.2.map Prod.snd) outcome := by
  intro part hpart
  simp only [signedLookups, List.mem_cons, List.not_mem_nil, or_false] at hpart
  rcases hpart with rfl | rfl
  · exact ⟨.ok listedResult, replay_eq_some_iff.mp (by decide +kernel)⟩
  · exact ⟨.ok listedResult, replay_eq_some_iff.mp (by decide +kernel)⟩

/-- Both lookups' verifiers check signatures, and what they answer is signed. -/
theorem recognitionsSigned_signedLookups :
    RecognitionsSigned listPlatform (Run.sequential signedLookups) := by
  have hallowed : AllAllowed InMemoryCache.Answers InMemoryCache.next ExpiringStore.empty
      (Run.sequential signedLookups).history := by decide +kernel
  apply recognitionsSigned_of_checksSignatures (Run.follows_sequential executes_signedLookups)
    (sharedCache_of_allAllowed hallowed)
  · intro call hcall _ phases hphases
    simp only [Run.sequential, signedLookups, List.map_cons, List.map_nil, List.mem_cons,
      List.not_mem_nil, or_false] at hcall
    rcases hcall with rfl | rfl
    · cases hphases
    · cases hphases
      decide
  · intro call hcall type
    have hdefault : call.config.handlers = defaultHandlers := by
      simp only [Run.sequential, signedLookups, List.map_cons, List.map_nil, List.mem_cons,
        List.not_mem_nil, or_false] at hcall
      rcases hcall with rfl | rfl <;> rfl
    rw [hdefault]
    cases type with
    | dccLegacy => exact .inr (keepsOut_lookupDccLegacy (by decide) _)
    | oidf => exact .inr (keepsOut_lookupOidf (by decide) _)
    | vcRecognition => exact .inl rfl

/-- A credential that nobody signed. -/
def forgedList : Json :=
  .obj [("@context", .arr [.str vcContextV2]), ("type", .str "VerifiableCredential"),
    ("issuer", .str "did:example:recognizer"),
    ("credentialSubject", .obj [("id", .str "did:example:issuer")])]

/-- The forged list is fetched, found verified, and stored. -/
def forgedEvents : List PortEvent :=
  [⟨.cacheGet "vc-recognition:https://list", none⟩,
    ⟨.httpGet "https://list", .ok { body := some forgedList, headers := [], status := 200 }⟩,
    ⟨.dateNowMs, (0 : ℚ)⟩, ⟨.dateNowMs, (0 : ℚ)⟩,
    ⟨.cacheSet "vc-recognition:https://list" (.json forgedList)
      ((3600000 : ℚ) : WithTop ℚ), ()⟩]

/-- The lookup of a verifier that is configured for the trust phase alone. -/
def forgedLookups : List (LookupCall × List (ℚ × PortEvent)) :=
  [(listLookup (some [.trust]) {},
      (⟨.cacheGet listResultKey, none⟩ :: (forgedEvents ++ [storeListedResult])).map
        fun event => (0, event))]

theorem executes_forged :
    Executes (lookupVcRecognition "did:example:issuer"
        (.vcRecognition "List" "https://list" ["did:example:recognizer"])
        (handlerContext listPlatform { cryptoServices := [0], phases := some [.trust] } 0))
      forgedEvents (.ok (.found listedEntity)) :=
  replay_eq_some_iff.mp (by decide +kernel)

/-- A verifier configured without the proof suite's phase answers from a credential
that nobody signed. -/
theorem not_recognitionsSigned_trustOnly :
    (Run.sequential forgedLookups).Follows (LookupCall.program listPlatform) ∧
      SharedCache (Run.sequential forgedLookups).history ∧
      ¬RecognitionsSigned listPlatform (Run.sequential forgedLookups) := by
  have hallowed : AllAllowed InMemoryCache.Answers InMemoryCache.next ExpiringStore.empty
      (Run.sequential forgedLookups).history := by decide +kernel
  refine ⟨Run.follows_sequential ?_, sharedCache_of_allAllowed hallowed, ?_⟩
  · intro part hpart
    rw [forgedLookups, List.mem_singleton] at hpart
    subst hpart
    exact ⟨.ok listedResult, replay_eq_some_iff.mp (by decide +kernel)⟩
  · intro hsigned
    -- The handler has answered, its lookup has not stored the result yet.
    have hhistory : (Run.sequential forgedLookups).history =
        (Run.sequential forgedLookups).history.take 6 ++
          (Run.sequential forgedLookups).history.drop 6 := (List.take_append_drop _ _).symm
    have hown : own ((Run.sequential forgedLookups).history.take 6) 0 =
        [⟨.cacheGet listResultKey, none⟩] ++ forgedEvents := rfl
    rcases hsigned.found _ _ 0 _ _ _ _ _ _ hhistory rfl hown executes_forged with
      ⟨credential, _, _, hverified⟩
    have hunhanded : ∀ stamped ∈ (Run.sequential forgedLookups).history.take 6,
        stamped.event.op.handedDocument = none := by decide +kernel
    exact not_signatureVerified_of_not_handed hunhanded hverified

end VerifierCore
