import VerifierCore.SharedCache.Lookups

/-!
# Recognition credentials in a shared cache

Calls of the recognition handler, by verifiers that share one cache.  A call
stores a credential only after its issuer was accepted and the credential was
verified.  The cache is keyed by the URL alone, so another call may be answered
with a credential whose issuer only the storing call accepts.

Main results:

- Theorem {lit}`RecognitionRun.justified`: what stands behind a stored credential.
- Theorem {lit}`answersAccepted_of_acceptsWhatItReads`: answers come from
  credentials of accepted issuers as long as each call accepts the issuers of the
  calls it is served by.
- Theorem {lit}`not_answersAccepted_sharedUrl`: without that they need not.
-/

namespace VerifierCore

open Foundations Program

/-! ## What a call stores -/

/-- The credential was verified along the trace. -/
def VerifiedAlong (verifier : Verifier) (credential : Json) (trace : List PortEvent) : Prop :=
  ∃ events verification, events <:+: trace ∧
    Executes (verifier.verifyCredential (recognitionCall credential)) events verification ∧
      verification.verified = true

/-- What was verified along a part of the calls was verified along all of them. -/
theorem VerifiedAlong.mono {verifier : Verifier} {credential : Json}
    {trace trace' : List PortEvent} (h : VerifiedAlong verifier credential trace)
    (hlonger : trace <:+: trace') : VerifiedAlong verifier credential trace' := by
  rcases h with ⟨events, verification, hevents, hverify⟩
  exact ⟨events, verification, hevents.trans hlonger, hverify⟩

/-- If the event stores something, then a recognition credential under its URL,
which was accepted, and verified along the events in front. -/
def StoresRecognition (verifier : Verifier) (url : String) (acceptedIssuers : List String)
    (front : List PortEvent) (event : PortEvent) : Prop :=
  ∀ key value ttlMs, event = ⟨.cacheSet key value ttlMs, ()⟩ →
    key = cacheKeyForVcRecognitionUrl url ∧ ∃ credential, value = .json credential ∧
      hasAcceptedIssuer acceptedIssuers credential = true ∧
        VerifiedAlong verifier credential front

/-- The events write nothing to the cache. -/
def StoresNothing (events : List PortEvent) : Prop :=
  ∀ event ∈ events, ∀ key value ttlMs, event.op ≠ .cacheSet key value ttlMs

/-- A program that leaves the cache alone stores nothing. -/
theorem storesNothing_of_leavesCache {α : Type} {program : Async α}
    (hprogram : program.Confined Port.LeavesCache) {events : List PortEvent} {a : α}
    (h : Executes program events a) : StoresNothing events := by
  intro event hevent key value ttlMs hop
  have hleaves := h.forall_of_confined hprogram event hevent
  rw [hop] at hleaves
  exact hleaves

/-- Events that store nothing need no verified credential. -/
theorem StoresNothing.justified {verifier : Verifier} {url : String}
    {acceptedIssuers : List String} {events : List PortEvent} (h : StoresNothing events) :
    Justified (StoresRecognition verifier url acceptedIssuers) events := by
  apply justified_of_forall
  intro event hmem front key value ttlMs hevent
  have hnot := h event hmem key value ttlMs
  rw [hevent] at hnot
  exact absurd rfl hnot

/-- A run stores nothing, or its last event stores a credential that was accepted
and verified, right after it read the clock. -/
theorem RecognitionRun.storesNothing_or_stored {platform : Platform} {did url : String}
    {acceptedIssuers : List String} {verifier : Verifier} {trace : List PortEvent}
    {result : HandlerResult}
    (hverifier : ∀ credential,
      (verifier.verifyCredential (recognitionCall credential)).Confined Port.LeavesCache)
    (h : RecognitionRun platform did url acceptedIssuers verifier trace result) :
    StoresNothing trace ∨ ∃ front loaded nowMs,
      trace = (front ++ [⟨.dateNowMs, nowMs⟩]) ++
        [⟨.cacheSet (cacheKeyForVcRecognitionUrl url) (.json loaded)
          ((recognitionTtl platform loaded nowMs : WithTop ℚ) : Num), ()⟩] ∧
      StoresNothing (front ++ [⟨.dateNowMs, nowMs⟩]) ∧
      hasAcceptedIssuer acceptedIssuers loaded = true ∧ VerifiedAlong verifier loaded front := by
  cases h with
  | cached => exact .inl (by simp [StoresNothing])
  | notAccepted => exact .inl (by simp [StoresNothing])
  | notVerified _ _ _ hverify =>
      have hnothing := storesNothing_of_leavesCache (hverifier _) hverify
      exact .inl (by simpa [StoresNothing] using hnothing)
  | @stored cached fetched loaded events verification nowMs _ _ haccepted hverify hverified =>
      have hnothing := storesNothing_of_leavesCache (hverifier _) hverify
      refine .inr ⟨⟨.cacheGet (cacheKeyForVcRecognitionUrl url), cached⟩ ::
        ⟨.httpGet url, fetched⟩ :: events, loaded, nowMs, by simp, ?_, haccepted,
        events, verification, ?_, hverify, hverified⟩
      · intro event hevent
        simp only [List.cons_append, List.mem_cons, List.mem_append, List.not_mem_nil,
          or_false] at hevent
        rcases hevent with rfl | rfl | hevent | rfl
        · simp
        · simp
        · exact hnothing event hevent
        · simp
      · exact List.infix_cons (List.infix_cons (List.infix_refl events))

/-- A run stores a credential only after it was accepted and verified. -/
theorem RecognitionRun.justified {platform : Platform} {did url : String}
    {acceptedIssuers : List String} {verifier : Verifier} {trace : List PortEvent}
    {result : HandlerResult}
    (hverifier : ∀ credential,
      (verifier.verifyCredential (recognitionCall credential)).Confined Port.LeavesCache)
    (h : RecognitionRun platform did url acceptedIssuers verifier trace result) :
    Justified (StoresRecognition verifier url acceptedIssuers) trace := by
  rcases h.storesNothing_or_stored hverifier with
    hnothing | ⟨front, loaded, nowMs, rfl, hfront, haccepted, hverified⟩
  · exact hnothing.justified
  · apply justified_concat hfront.justified
    intro key value ttlMs hevent
    cases hevent
    exact ⟨rfl, loaded, rfl, haccepted, hverified.mono (List.prefix_append _ _).isInfix⟩

/-- The issuers that a registry accepts recognition credentials of. -/
def acceptedIssuers : EntityIdentityRegistry → List String
  | .vcRecognition _ _ accepted => accepted
  | _ => []

/-- In a verifier's hands, the handler stores accepted and verified credentials
only. -/
theorem justified_lookupVcRecognition {platform : Platform} {config : VerifierConfig}
    {depth : Nat} {did : String} {registry : EntityIdentityRegistry} {trace : List PortEvent}
    {outcome : Except Thrown HandlerResult}
    (h : Executes (lookupVcRecognition did registry (handlerContext platform config depth))
      trace outcome) :
    Justified (StoresRecognition (createVerifier platform config depth) (registryUrl registry)
      (acceptedIssuers registry)) trace := by
  cases registry with
  | oidf | dccLegacy =>
      rcases executes_pure_iff.mp h with ⟨rfl, _⟩
      exact justified_of_forall (by simp)
  | vcRecognition name url accepted =>
      rcases executes_map_iff.mp h with ⟨result, hlookup, _⟩
      apply RecognitionRun.justified
      · intro credential
        exact leavesCache_createVerifier (isClosed_recognitionCall credential)
      · exact executes_lookupVcRecognition hlookup

/-! ## Calls of the handler -/

/-- One call of the handler. -/
structure RecognitionCall where
  did : String
  registry : EntityIdentityRegistry
  config : VerifierConfig
  depth : Nat

namespace RecognitionCall

/-- The handler the call runs, in the hands of the call's verifier. -/
def program (platform : Platform) (call : RecognitionCall) :
    Async (Except Thrown HandlerResult) :=
  lookupVcRecognition call.did call.registry (handlerContext platform call.config call.depth)

end RecognitionCall

/-- What stands behind a credential that a call stores. -/
def RecognitionCall.Stores (platform : Platform) (call : RecognitionCall) :
    List PortEvent → PortEvent → Prop :=
  StoresRecognition (createVerifier platform call.config call.depth) (registryUrl call.registry)
    (acceptedIssuers call.registry)

/-- A lookup stores only credentials that it had verified. -/
theorem justified_recognitionCall {platform : Platform} (call : RecognitionCall)
    (trace : List PortEvent) (outcome : Except Thrown HandlerResult)
    (h : Executes (call.program platform) trace outcome) :
    Justified (call.Stores platform) trace :=
  justified_lookupVcRecognition h

/-! ## Answers from accepted issuers -/

section

variable {platform : Platform} {run : Run RecognitionCall ℚ Port Port.Answer}

/-- Every call that found its issuer was answered by a credential of an issuer
that its registry accepts. -/
def AnswersAccepted (platform : Platform) (run : Run RecognitionCall ℚ Port Port.Answer) : Prop :=
  ∀ i call entity,
    run.Returns (RecognitionCall.program platform) i call (.ok (.found entity)) →
    ∃ credential issuerId, recognitionAnswer credential call.did = .found entity ∧
      AnswerReadFrom (registryUrl call.registry) credential (own run.history i) ∧
      credentialIssuerId credential = some issuerId ∧ issuerId ∈ acceptedIssuers call.registry

/-- Each call accepts every issuer that is accepted by the calls whose stored
credentials it is served. -/
def AcceptsWhatItReads (run : Run RecognitionCall ℚ Port Port.Answer) : Prop :=
  ∀ i j call call', run.Feeds HitsCache ServesHit i j → run.calls[i]? = some call →
    run.calls[j]? = some call' →
    acceptedIssuers call.registry ⊆ acceptedIssuers call'.registry

/-- A cached credential that answers a call was stored by a call that accepts its
issuer. -/
theorem accepted_of_hit (hfollows : run.Follows (RecognitionCall.program platform))
    (hcache : SharedCache run.history) {i : Nat} {url : String} {value : CacheValue}
    {credential : Json} (hcredential : cachedDocument (some value) = some credential)
    (hhit : ⟨.cacheGet (cacheKeyForVcRecognitionUrl url), some value⟩ ∈ own run.history i) :
    ∃ j call, run.calls[j]? = some call ∧ run.Feeds HitsCache ServesHit j i ∧
      hasAcceptedIssuer (acceptedIssuers call.registry) credential = true := by
  rcases exists_split_of_mem_own hhit with ⟨before, read, after, hsplit, hthread, hevent⟩
  rcases Run.exists_write hfollows hcache
      (fun call _ => justified_recognitionCall call) hsplit ⟨_, _, hevent⟩ with
    ⟨earlier, write, between, call, rfl, hserves, hcall, hstores⟩
  refine ⟨write.thread, call, hcall, ?_, ?_⟩
  · exact ⟨earlier, write, between, read, after, by simp [hsplit], rfl, hthread,
      ⟨_, _, hevent⟩, hserves⟩
  · rcases hserves with ⟨key, stored, ttlMs, hwrite, hread, _⟩
    rw [hevent] at hread
    cases hread
    rcases hstores _ _ _ hwrite with ⟨_, document, rfl, haccepted, _⟩
    rcases cachedDocument_eq_some_iff.mp hcredential with ⟨other, hother, hdocument, _⟩
    cases hother
    rw [← hdocument]
    exact haccepted

/-- In every run on a shared cache in which each call accepts what it is served,
answers come from credentials of accepted issuers. -/
theorem answersAccepted_of_acceptsWhatItReads
    (hfollows : run.Follows (RecognitionCall.program platform))
    (hcache : SharedCache run.history) (haccepts : AcceptsWhatItReads run) :
    AnswersAccepted platform run := by
  intro i call entity hreturns
  rcases lookupVcRecognition_found hreturns.executes with
    ⟨name, url, accepted, verifier, hregistry, _, hlookup⟩
  rcases hlookup.found_cases with ⟨credential, hanswer, hread, hsource⟩
  have haccepted : hasAcceptedIssuer (acceptedIssuers call.registry) credential = true := by
    rcases hsource with ⟨value, hvalue, htrace⟩ | ⟨haccepted, _⟩
    · have hhit : ⟨.cacheGet (cacheKeyForVcRecognitionUrl url), some value⟩ ∈
          own run.history i := by simp [htrace]
      rcases accepted_of_hit hfollows hcache hvalue hhit with ⟨j, writer, hwriter, hfeeds, hby⟩
      have hsubset := haccepts j i writer call hfeeds hwriter hreturns.called
      rcases hasAcceptedIssuer_iff.mp hby with ⟨issuerId, hissuer, hmem⟩
      exact hasAcceptedIssuer_iff.mpr ⟨issuerId, hissuer, hsubset hmem⟩
    · rw [hregistry]
      exact haccepted
  rcases hasAcceptedIssuer_iff.mp haccepted with ⟨issuerId, hissuer, hmem⟩
  refine ⟨credential, issuerId, hanswer, ?_, hissuer, hmem⟩
  rw [hregistry]
  exact hread

end

/-! ### Two registries with one URL -/

/-- A recognition credential that lists one issuer. -/
def listCredential : Json :=
  .obj [("@context", .arr [.str vcContextV2]), ("type", .str "VerifiableCredential"),
    ("issuer", .str "did:example:recognizer"),
    ("credentialSubject", .obj [("id", .str "did:example:issuer")]),
    ("proof", .obj [("type", .str "A")])]

/-- A runtime that takes both issuers for URLs. -/
def listPlatform : Platform :=
  PlatformTable.platform { urls := ["did:example:recognizer", "did:example:issuer"] }

/-- The registry at the list's URL, for the issuers it accepts. -/
def listCall (accepted : List String) : RecognitionCall :=
  { did := "did:example:issuer"
    registry := .vcRecognition "List" "https://list" accepted
    config := { cryptoServices := [0] }
    depth := 0 }

/-- The credential is fetched, verified by the crypto service, and stored. -/
def storingEvents : List PortEvent :=
  [⟨.cacheGet "vc-recognition:https://list", none⟩,
    ⟨.httpGet "https://list", .ok { body := some listCredential, headers := [], status := 200 }⟩,
    ⟨.dateNowMs, (0 : ℚ)⟩,
    ⟨.canVerify 0 { verifiableCredential := some listCredential }, .ok true⟩,
    ⟨.verifyCredential 0 listCredential { now := some 0 }, .ok (.verified none)⟩,
    ⟨.dateNowMs, (0 : ℚ)⟩,
    ⟨.cacheSet "vc-recognition:https://list" (.json listCredential)
      ((3600000 : ℚ) : WithTop ℚ), ()⟩]

/-- The stored credential answers. -/
def servedEvents : List PortEvent :=
  [⟨.cacheGet "vc-recognition:https://list", some (.json listCredential)⟩]

/-- What is found of the listed issuer. -/
def listedEntity : Option RegistryEntity :=
  some (recognitionEntity (.obj [("id", .str "did:example:issuer")]))

/-- The first lookup stores the credential. -/
theorem executes_storing :
    Executes ((listCall ["did:example:recognizer"]).program listPlatform) storingEvents
      (.ok (.found listedEntity)) :=
  replay_eq_some_iff.mp (by decide +kernel)

/-- The second lookup is served from the cache, whomever it accepts. -/
theorem executes_served (accepted : List String) :
    Executes ((listCall accepted).program listPlatform) servedEvents
      (.ok (.found listedEntity)) :=
  replay_eq_some_iff.mp rfl

/-- The first call accepts the credential's issuer and stores it, the second is
served it whomever it accepts. -/
def listRun (accepted : List String) : Run RecognitionCall ℚ Port Port.Answer :=
  Run.sequential
    [(listCall ["did:example:recognizer"], storingEvents.map fun event => (0, event)),
      (listCall accepted, servedEvents.map fun event => (0, event))]

/-- The events are those of the two lookups. -/
theorem follows_listRun (accepted : List String) :
    (listRun accepted).Follows (RecognitionCall.program listPlatform) := by
  apply Run.follows_sequential
  intro part hpart
  simp only [List.mem_cons, List.not_mem_nil, or_false] at hpart
  rcases hpart with rfl | rfl
  · exact ⟨_, executes_storing⟩
  · exact ⟨_, executes_served accepted⟩

/-- What the second lookup read was stored by the first. -/
theorem sharedCache_listRun (accepted : List String) : SharedCache (listRun accepted).history := by
  -- Which issuers are accepted plays no part in the history.
  have hallowed : AllAllowed InMemoryCache.Answers InMemoryCache.next ExpiringStore.empty
      (listRun []).history := by decide +kernel
  exact sharedCache_of_allAllowed hallowed

/-- Calls that accept the same issuers are answered by credentials of accepted
issuers. -/
theorem answersAccepted_listRun :
    AnswersAccepted listPlatform (listRun ["did:example:recognizer"]) := by
  apply answersAccepted_of_acceptsWhatItReads (follows_listRun _) (sharedCache_listRun _)
  intro i j call call' _ hcall hcall'
  have hsame : ∀ other ∈ (listRun ["did:example:recognizer"]).calls,
      acceptedIssuers other.registry = ["did:example:recognizer"] := by
    intro other hother
    simp only [listRun, Run.sequential, List.map_cons, List.map_nil, List.mem_cons,
      List.not_mem_nil, or_false, or_self] at hother
    rw [hother]
    rfl
  rw [hsame call (List.mem_of_getElem? hcall), hsame call' (List.mem_of_getElem? hcall')]
  exact List.Subset.refl _

/-- A call that accepts another issuer only is answered all the same. -/
theorem not_answersAccepted_sharedUrl :
    (listRun ["did:example:other"]).Follows (RecognitionCall.program listPlatform) ∧
      SharedCache (listRun ["did:example:other"]).history ∧
      ¬AnswersAccepted listPlatform (listRun ["did:example:other"]) := by
  refine ⟨follows_listRun _, sharedCache_listRun _, ?_⟩
  intro haccepted
  have hreturns : (listRun ["did:example:other"]).Returns (RecognitionCall.program listPlatform) 1
      (listCall ["did:example:other"]) (.ok (.found listedEntity)) :=
    ⟨rfl, executes_served _⟩
  rcases haccepted 1 _ _ hreturns with ⟨credential, issuerId, _, hread, hissuer, hmem⟩
  have hown : own (listRun ["did:example:other"]).history 1 = servedEvents := rfl
  rw [hown] at hread
  have hcredential : credential = listCredential := by
    cases hread with
    | cache hvalue => exact (Option.some.inj hvalue).symm
  rw [hcredential] at hissuer
  have hrecognizer : credentialIssuerId listCredential = some "did:example:recognizer" := by
    decide +kernel
  rw [hrecognizer, Option.some.injEq] at hissuer
  rw [← hissuer] at hmem
  exact absurd hmem (by decide)

end VerifierCore
