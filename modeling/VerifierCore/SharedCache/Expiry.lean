import VerifierCore.SharedCache.Lifetimes
import VerifierCore.SharedCache.Memberships
import VerifierCore.SharedCache.Signatures

/-!
# Expiry of registry answers

The in-memory cache keeps an entry forever if it was stored without a positive
lifetime.  The lifetimes of registry answers come from response headers, from the
expiry of statements and credentials and from defaults; all of them end.

Main results:

- Theorem {lit}`expiring_defaultHandlers`: whatever a handler stores expires.
- Theorem {lit}`LookupRun.storesExpiringAround`: so does what a lookup stores itself.
- Theorem {lit}`registryAnswers_expire`: lookups leave no permanent entry in the
  in-memory cache.
-/

namespace VerifierCore

open Foundations Program

/-! ## Lifetimes that end -/

/-- The lifetime is finite and greater than zero. -/
def Expires (ttlMs : Num) : Prop :=
  ∃ ms : ℚ, 0 < ms ∧ ttlMs = ((ms : WithTop ℚ) : Num)

theorem expires_coe {ms : ℚ} (h : 0 < ms) : Expires ((ms : WithTop ℚ) : Num) :=
  ⟨ms, h, rfl⟩

/-- A lifetime that ends does so as well if it is cut to what is left. -/
theorem Expires.cut {ttlMs left : Num} (h : Expires ttlMs) (hleft : 0 < left) :
    Expires (min ttlMs left) := by
  rcases h with ⟨ms, hms, rfl⟩
  induction left using WithBot.recBotCoe with
  | bot => exact absurd hleft (by simp)
  | coe left =>
      induction left using WithTop.recTopCoe with
      | top =>
          have hshorter : ((ms : WithTop ℚ) : Num) ≤ ((⊤ : WithTop ℚ) : Num) :=
            WithBot.coe_le_coe.mpr le_top
          rw [min_eq_left hshorter]
          exact expires_coe hms
      | coe q =>
          have hq : 0 < q := by exact_mod_cast hleft
          refine ⟨min ms q, lt_min hms hq, ?_⟩
          norm_cast

/-- The in-memory cache gives an entry with such a lifetime an end. -/
theorem Expires.expiresAt {ttlMs : Num} (h : Expires ttlMs) (now : ℚ) :
    ∃ limit : ℚ, InMemoryCache.expiresAt now ttlMs = some (instant limit) := by
  rcases h with ⟨ms, hms, rfl⟩
  have hpositive : 0 < ((ms : WithTop ℚ) : Num) := by exact_mod_cast hms
  refine ⟨now + ms, ?_⟩
  rw [InMemoryCache.expiresAt, if_pos hpositive]
  rfl

/-! ## What is stored -/

/-- Whatever the events store has a lifetime that ends. -/
def StoresExpiring (trace : List PortEvent) : Prop :=
  ∀ key value ttlMs, ⟨.cacheSet key value ttlMs, ()⟩ ∈ trace → Expires ttlMs

theorem storesExpiring_nil : StoresExpiring [] := by
  intro key value ttlMs hmem
  cases hmem

/-- Events that store expiring entries, followed by others that do. -/
theorem StoresExpiring.append {front back : List PortEvent} (hfront : StoresExpiring front)
    (hback : StoresExpiring back) : StoresExpiring (front ++ back) := by
  intro key value ttlMs hmem
  rcases List.mem_append.mp hmem with hmem | hmem
  · exact hfront key value ttlMs hmem
  · exact hback key value ttlMs hmem

/-- Visits that each store expiring entries do so together. -/
theorem storesExpiring_flatMap {visits : List Visit}
    (h : ∀ visit ∈ visits, StoresExpiring visit.events) :
    StoresExpiring (visits.flatMap Visit.events) := by
  intro key value ttlMs hmem
  rcases List.mem_flatMap.mp hmem with ⟨visit, hvisit, hmem⟩
  exact h visit hvisit key value ttlMs hmem

/-- If what is stored has a reason for a lifetime that ends, then it expires. -/
theorem storesExpiring_of_justified {R : List PortEvent → String → CacheValue → Num → Prop}
    {trace : List PortEvent} (hR : ∀ front key value ttlMs, R front key value ttlMs → Expires ttlMs)
    (h : Justified (StoresOnly R) trace) : StoresExpiring trace := by
  intro key value ttlMs hmem
  rcases List.append_of_mem hmem with ⟨front, rest, hsplit⟩
  exact hR front key value ttlMs (h front _ rest hsplit key value ttlMs rfl)

/-- What is stored from a response expires: its headers resolve to a lifetime, and the
value has time left. -/
theorem StoredFromResponse.expires {platform : Platform} {registry : EntityIdentityRegistry}
    {front : List PortEvent} {key : String} {value : CacheValue} {ttlMs : Num}
    (h : StoredFromResponse platform registry front key value ttlMs) : Expires ttlMs := by
  rcases h with ⟨url, result, left, _, hleft, rfl⟩
  exact (expires_coe (resolveTtl_pos _)).cut hleft.pos

/-- What is stored for the time its response leaves expires. -/
theorem StoresResponses.storesExpiring {platform : Platform} {registry : EntityIdentityRegistry}
    {trace : List PortEvent} (h : StoresResponses platform registry trace) :
    StoresExpiring trace :=
  storesExpiring_of_justified (fun _ _ _ _ hstored => hstored.expires) h

/-! ## Handlers -/

/-- In the context, whatever the handler stores expires. -/
def RegistryHandler.Expiring (context : RegistryHandlerContext) (handler : RegistryHandler) :
    Prop :=
  ∀ did registry trace outcome, Executes (handler did registry context) trace outcome →
    StoresExpiring trace

/-- The context's verifier does not reach the cache for a recognition credential. -/
def RegistryHandlerContext.VerifiesOutsideCache (context : RegistryHandlerContext) : Prop :=
  ∀ verifier, context.verifier = .ok verifier → ∀ credential,
    (verifier.verifyCredential (recognitionCall credential)).Confined Port.LeavesCache

/-- The verifier of a handler's context does not use the cache. -/
theorem verifiesOutsideCache_handlerContext (platform : Platform) (config : VerifierConfig)
    (depth : Nat) : (handlerContext platform config depth).VerifiesOutsideCache := by
  intro verifier hverifier credential
  cases hverifier
  exact leavesCache_createVerifier (isClosed_recognitionCall credential)

/-- The handler of recognition credentials stores only entries that expire. -/
theorem expiring_lookupVcRecognition {context : RegistryHandlerContext}
    (hcontext : context.VerifiesOutsideCache) :
    RegistryHandler.Expiring context lookupVcRecognition := by
  intro did registry trace outcome h
  cases registry with
  | oidf | dccLegacy =>
      rcases executes_pure_iff.mp h with ⟨rfl, _⟩
      exact storesExpiring_nil
  | vcRecognition name url accepted =>
      unfold lookupVcRecognition at h
      cases hverifier : context.verifier with
      | error error =>
          simp only [hverifier] at h
          rcases executes_pure_iff.mp h with ⟨rfl, _⟩
          exact storesExpiring_nil
      | ok verifier =>
          simp only [hverifier] at h
          rcases executes_map_iff.mp h with ⟨result, hlookup, _⟩
          have hrun := executes_lookupVcRecognition hlookup
          refine storesExpiring_of_justified ?_ (hrun.justified_ttl (hcontext verifier hverifier))
          rintro front key value ttlMs ⟨credential, nowMs, _, _, _, rfl⟩
          exact expires_coe (recognitionTtl_pos _ _ _)

/-- Whatever a built-in handler stores expires. -/
theorem expiring_defaultHandlers {context : RegistryHandlerContext}
    (hcontext : context.VerifiesOutsideCache) (type : RegistryType) :
    RegistryHandler.Expiring context (defaultHandlers type) := by
  cases type with
  | dccLegacy =>
      intro did registry trace outcome h
      have hstores : StoresResponses context.platform registry trace :=
        storesResponses_lookupDccLegacy h
      exact hstores.storesExpiring
  | oidf =>
      intro did registry trace outcome h
      have hstores : StoresResponses context.platform registry trace :=
        storesResponses_lookupOidf h
      exact hstores.storesExpiring
  | vcRecognition => exact expiring_lookupVcRecognition hcontext

/-! ## Lookups -/

/-- Around the visits of its handlers, a lookup only stores what expires. -/
def StoresExpiringAround (handlers : RegistryHandlerMap) (context : RegistryHandlerContext)
    (did : String) (registries : List EntityIdentityRegistry) (trace : List PortEvent) : Prop :=
  ∃ (missed : List PortEvent) (visits : List Visit) (stored : List PortEvent),
    trace = missed ++ (visits.flatMap Visit.events ++ stored) ∧
    (∀ visit ∈ visits, visit.registry ∈ registries ∧ visit.Runs handlers context did) ∧
    StoresExpiring missed ∧ StoresExpiring stored

section

variable {handlers : RegistryHandlerMap} {context : RegistryHandlerContext} {did : String}
  {registries : List EntityIdentityRegistry} {options : LookupIssuersOptions}
  {trace : List PortEvent}

theorem MissedResult.storesExpiring (h : MissedResult did registries options trace) :
    StoresExpiring trace := by
  intro key value ttlMs hmem
  rcases h with ⟨_, rfl⟩ | ⟨_, cached, rfl, _⟩
  · cases hmem
  · simp at hmem

/-- Whatever its handlers store, what the lookup stores itself expires. -/
theorem LookupRun.storesExpiringAround {outcome : Except Thrown RegistryLookupResult}
    (h : LookupRun handlers context did registries options trace outcome) :
    StoresExpiringAround handlers context did registries trace := by
  cases h with
  | @cached result hread =>
      have hcached : StoresExpiring
          [⟨.cacheGet (resultCacheKey did registries), some (.lookupResult result)⟩] := by
        intro key value ttlMs hmem
        simp at hmem
      exact ⟨_, [], [], by simp, by simp, hcached, storesExpiring_nil⟩
  | @threw missed visits error hmissed hvisits _ =>
      exact ⟨missed, visits, [], by simp, hvisits, hmissed.storesExpiring, storesExpiring_nil⟩
  | @walked missed visits result hmissed hvisits _ _ =>
      refine ⟨missed, visits, _, rfl, hvisits, hmissed.storesExpiring, ?_⟩
      intro key value ttlMs hmem
      have hset := Port.cacheSet.inj (congrArg Event.op (List.mem_singleton.mp hmem))
      rw [hset.2.2]
      exact expires_coe (resultTtl_pos result)

/-- With handlers that only store what expires, a lookup does. -/
theorem StoresExpiringAround.storesExpiring
    (hhandlers : ∀ type, RegistryHandler.Expiring context (handlers type))
    (h : StoresExpiringAround handlers context did registries trace) : StoresExpiring trace := by
  rcases h with ⟨missed, visits, stored, rfl, hvisits, hmissed, hstored⟩
  refine hmissed.append (StoresExpiring.append ?_ hstored)
  apply storesExpiring_flatMap
  intro visit hvisit
  exact hhandlers visit.registry.type did visit.registry _ _ (hvisits visit hvisit).2

end

/-- Lookups with the built-in handlers only store what expires. -/
theorem LookupCall.storesExpiring {platform : Platform} {call : LookupCall}
    (hhandlers : call.config.handlers = defaultHandlers) {trace : List PortEvent}
    {outcome : Except Thrown RegistryLookupResult}
    (h : Executes (call.program platform) trace outcome) : StoresExpiring trace := by
  refine (LookupCall.lookupRun h).storesExpiringAround.storesExpiring ?_
  intro type
  rw [hhandlers]
  exact expiring_defaultHandlers
    (verifiesOutsideCache_handlerContext platform call.config call.depth) type

/-! ## Runs on the in-memory cache -/

section

variable {platform : Platform} {run : Run LookupCall ℚ Port Port.Answer}

/-- Whatever is stored in a run of such lookups expires. -/
theorem expires_of_event (hfollows : run.Follows (LookupCall.program platform))
    (hhandlers : ∀ call ∈ run.calls, call.config.handlers = defaultHandlers)
    {stamped : CallEvent} (hmem : stamped ∈ run.history) {key : String} {value : CacheValue}
    {ttlMs : Num} (hevent : stamped.event = ⟨.cacheSet key value ttlMs, ()⟩) : Expires ttlMs := by
  rcases List.append_of_mem hmem with ⟨before, after, hsplit⟩
  rcases Run.own_of_split hfollows hsplit with ⟨call, hcall, rest, outcome, hexec⟩
  have hstores := LookupCall.storesExpiring (hhandlers call (List.mem_of_getElem? hcall)) hexec
  apply hstores key value ttlMs
  simp [hevent]

/-- The in-memory cache then holds no permanent entry. -/
theorem expiresAt_of_path (hfollows : run.Follows (LookupCall.program platform))
    (hhandlers : ∀ call ∈ run.calls, call.config.handlers = defaultHandlers)
    {entries : InMemoryCache}
    (hpath : Path InMemoryCache.Step ExpiringStore.empty run.history entries) {key : String}
    {entry : Entry Num CacheValue} (hentry : entries key = some entry) :
    ∃ limit : ℚ, entry.expiresAt = some (instant limit) := by
  rcases InMemoryCache.records_of_path hpath key entry hentry with
    ⟨write, hwrite, ttlMs, hevent, hexpires⟩
  rw [hexpires]
  exact (expires_of_event hfollows hhandlers hwrite hevent).expiresAt write.time

end

/-- Everything the built-in handlers and the lookups store has a finite lifetime greater
than zero, so that no run of lookups leaves a permanent entry in the in-memory cache. -/
theorem registryAnswers_expire :
    (∀ (context : RegistryHandlerContext) (type : RegistryType), context.VerifiesOutsideCache →
      RegistryHandler.Expiring context (defaultHandlers type)) ∧
    (∀ (handlers : RegistryHandlerMap) (context : RegistryHandlerContext) (did : String)
      (registries : List EntityIdentityRegistry) (options : LookupIssuersOptions)
      (trace : List PortEvent) (outcome : Except Thrown RegistryLookupResult),
      Executes (createRegistryLookup handlers context did registries options) trace outcome →
        StoresExpiringAround handlers context did registries trace) ∧
    ∀ (platform : Platform) (run : Run LookupCall ℚ Port Port.Answer) (entries : InMemoryCache),
      run.Follows (LookupCall.program platform) →
      (∀ call ∈ run.calls, call.config.handlers = defaultHandlers) →
      Path InMemoryCache.Step ExpiringStore.empty run.history entries →
      ∀ key entry, entries key = some entry →
        ∃ limit : ℚ, entry.expiresAt = some (instant limit) := by
  refine ⟨?_, ?_, ?_⟩
  · intro context type hcontext
    exact expiring_defaultHandlers hcontext type
  · intro handlers context did registries options trace outcome h
    exact (executes_createRegistryLookup h).storesExpiringAround
  · intro platform run entries hfollows hhandlers hpath key entry hentry
    exact expiresAt_of_path hfollows hhandlers hpath hentry

/-! ### Two lookups of a listed issuer -/

/-- What the first lookup does. -/
def signedTrace : List PortEvent :=
  ⟨.cacheGet listResultKey, none⟩ :: (storingEvents ++ [storeListedResult])

theorem executes_signedTrace :
    Executes (createRegistryLookup defaultHandlers
        (handlerContext listPlatform { cryptoServices := [0] } 0) "did:example:issuer"
        [.vcRecognition "List" "https://list" ["did:example:recognizer"]] {})
      signedTrace (.ok listedResult) :=
  replay_eq_some_iff.mp (by decide +kernel)

/-- A member's statement is stored until it expires, the list and the results for an
hour. -/
theorem registryAnswers_expire_signedLookups :
    StoresExpiring federationTrace ∧
      StoresExpiringAround defaultHandlers
        (handlerContext listPlatform { cryptoServices := [0] } 0) "did:example:issuer"
        [.vcRecognition "List" "https://list" ["did:example:recognizer"]] signedTrace ∧
      ∀ key entry,
        (Run.sequential signedLookups).history.foldl InMemoryCache.next ExpiringStore.empty key =
            some entry →
          ∃ limit : ℚ, entry.expiresAt = some (instant limit) := by
  rcases registryAnswers_expire with ⟨hhandlers, hlookups, hruns⟩
  refine ⟨?_, ?_, ?_⟩
  · have hcontext : federationContext.VerifiesOutsideCache := by
      intro verifier hverifier
      cases hverifier
    exact hhandlers federationContext .oidf hcontext "did:example:issuer"
      (.oidf "Anchor" "https://anchor/ec") federationTrace (.ok (.found none)) executes_federation
  · exact hlookups _ _ _ _ _ _ _ executes_signedTrace
  · have hallowed : AllAllowed InMemoryCache.Answers InMemoryCache.next ExpiringStore.empty
        (Run.sequential signedLookups).history := by decide +kernel
    refine hruns listPlatform _ _ (Run.follows_sequential executes_signedLookups) ?_
      (path_guarded_iff.mpr ⟨hallowed, rfl⟩)
    intro call hcall
    simp only [Run.sequential, signedLookups, List.map_cons, List.map_nil, List.mem_cons,
      List.not_mem_nil, or_false] at hcall
    rcases hcall with rfl | rfl
    · rfl
    · rfl

end VerifierCore
