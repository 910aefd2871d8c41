import VerifierCore.Registries.CacheKey
import VerifierCore.Registries.DccLegacy
import VerifierCore.Registries.Oidf
import VerifierCore.Registries.VcRecognition

/-!
# Issuer lookup

The walk over the configured registries, its short circuit at the first match, and
the cache of whole results in front of it.

Main results:

- Theorem {lit}`executes_walkRegistries`: the registries a walk visits and what it
  reports of them.
- Theorem {lit}`executes_createRegistryLookup`: the runs of a lookup.
- Theorem {lit}`lookupOidf_resolves_iff`: what a federation can abort a lookup with.
-/

namespace VerifierCore

open Foundations Program

/-! ## The lookup -/

/-- A result missing some registries is retried after a minute. -/
def partialResultTtlMs : ℚ :=
  60 * 1000

/-- The handler of each type of registry. -/
def defaultHandlers : RegistryHandlerMap
  | .dccLegacy => lookupDccLegacy
  | .oidf => lookupOidf
  | .vcRecognition => lookupVcRecognition

/-- Ask each registry's handler in turn.  Unless the walk is exhaustive, it stops
at the first match; a throw ends it. -/
def walkRegistries (handlers : RegistryHandlerMap) (context : RegistryHandlerContext)
    (did : String) (exhaustive : Bool) :
    List EntityIdentityRegistry → Async (Except Thrown RegistryCheckPayload)
  | [] => pure (.ok { matchesFound := [], uncheckedRegistries := [] })
  | registry :: rest => do
      let outcome ← handlers registry.type did registry context
      match outcome with
      | .error error => pure (.error error)
      | .ok (.found entity) =>
          let matched : RegistryMatch :=
            { registry := registryReference registry, entity := entity }
          if exhaustive then do
            let walked ← walkRegistries handlers context did exhaustive rest
            pure (walked.map fun payload =>
              { payload with matchesFound := matched :: payload.matchesFound })
          else pure (.ok { matchesFound := [matched], uncheckedRegistries := [] })
      | .ok .notFound => walkRegistries handlers context did exhaustive rest
      | .ok .unchecked => do
          let walked ← walkRegistries handlers context did exhaustive rest
          pure (walked.map fun payload =>
            { payload with
              uncheckedRegistries := registryReference registry :: payload.uncheckedRegistries })

/-- The result of a completed walk. -/
def lookupResultOf (payload : RegistryCheckPayload) : RegistryLookupResult :=
  { toRegistryCheckPayload := payload, found := decide (payload.matchesFound.length > 0) }

/-- How long a result is cached. -/
def resultTtl (result : RegistryLookupResult) : ℚ :=
  if result.uncheckedRegistries.length > 0 then partialResultTtlMs else defaultTtlMs

/-- The lookup result a cached value is. -/
def cachedResult : Option CacheValue → Option RegistryLookupResult
  | some (.lookupResult result) => some result
  | _ => none

/-- Walk the registries and cache what was found. -/
def lookupAndStore (handlers : RegistryHandlerMap) (context : RegistryHandlerContext)
    (did : String) (registries : List EntityIdentityRegistry) (exhaustive : Bool) :
    Async (Except Thrown RegistryLookupResult) := do
  let walked ← walkRegistries handlers context did exhaustive registries
  match walked with
  | .error error => pure (.error error)
  | .ok payload => do
      let result := lookupResultOf payload
      let _ ← ask (.cacheSet (resultCacheKey did registries) (.lookupResult result)
        ((resultTtl result : WithTop ℚ) : Num))
      pure (.ok result)

/-- Look an issuer up, in the cache of results or else in the registries. -/
def createRegistryLookup (handlers : RegistryHandlerMap) (context : RegistryHandlerContext) :
    LookupIssuers := fun did registries options =>
  if options.fresh then lookupAndStore handlers context did registries options.exhaustive
  else do
    let cached ← ask (.cacheGet (resultCacheKey did registries))
    match cachedResult cached with
    | some result => pure (.ok result)
    | none => lookupAndStore handlers context did registries options.exhaustive

/-! ## Visits -/

/-- One registry's turn: the registry, the calls of its handler and its answer. -/
structure Visit where
  registry : EntityIdentityRegistry
  events : List PortEvent
  outcome : Except Thrown HandlerResult

/-- The visit is an execution of the registry's handler. -/
def Visit.Runs (handlers : RegistryHandlerMap) (context : RegistryHandlerContext) (did : String)
    (visit : Visit) : Prop :=
  Executes (handlers visit.registry.type did visit.registry context) visit.events visit.outcome

/-- The match a visit adds to the result. -/
def Visit.matchFound? (visit : Visit) : Option RegistryMatch :=
  match visit.outcome with
  | .ok (.found entity) => some { registry := registryReference visit.registry, entity := entity }
  | _ => none

/-- The reference a visit adds to the unchecked registries. -/
def Visit.unchecked? (visit : Visit) : Option RegistryReference :=
  match visit.outcome with
  | .ok .unchecked => some (registryReference visit.registry)
  | _ => none

/-- What a list of visits reports. -/
def reportVisits (visits : List Visit) : RegistryCheckPayload :=
  { matchesFound := visits.filterMap Visit.matchFound?
    uncheckedRegistries := visits.filterMap Visit.unchecked? }

/-- The registries behind the visited ones are left out: none is, unless the walk
was not exhaustive and the last visit found the issuer. -/
inductive Walked (exhaustive : Bool) : List EntityIdentityRegistry → List Visit → Prop where
  | done : Walked exhaustive [] []
  | stopped (visit : Visit) {rest : List EntityIdentityRegistry} :
      exhaustive = false → (visit.matchFound?).isSome →
      Walked exhaustive (visit.registry :: rest) [visit]
  | next (visit : Visit) {rest : List EntityIdentityRegistry} {visits : List Visit} :
      (∃ outcome, visit.outcome = .ok outcome) →
      (exhaustive = true ∨ visit.matchFound? = none) →
      Walked exhaustive rest visits →
      Walked exhaustive (visit.registry :: rest) (visit :: visits)

/-- What visits say of a walk's result: they cover the registries up to the short
circuit and the payload reports them, unless one of them threw. -/
def WalkReported (exhaustive : Bool) (registries : List EntityIdentityRegistry)
    (visits : List Visit) : Except Thrown RegistryCheckPayload → Prop
  | .ok payload => Walked exhaustive registries visits ∧ payload = reportVisits visits
  | .error error => ∃ visit ∈ visits, visit.outcome = .error error

/-- What a visit's match and unchecked reference add to a walk's payload. -/
def Visit.report (visit : Visit) (payload : RegistryCheckPayload) : RegistryCheckPayload :=
  { matchesFound := visit.matchFound?.toList ++ payload.matchesFound
    uncheckedRegistries := visit.unchecked?.toList ++ payload.uncheckedRegistries }

/-- A visit that does not end the walk adds its report to that of the rest. -/
theorem WalkReported.next {exhaustive : Bool} {rest : List EntityIdentityRegistry}
    {visits : List Visit} {walked : Except Thrown RegistryCheckPayload} (visit : Visit)
    (hok : ∃ outcome, visit.outcome = .ok outcome)
    (hgoesOn : exhaustive = true ∨ visit.matchFound? = none)
    (h : WalkReported exhaustive rest visits walked) :
    WalkReported exhaustive (visit.registry :: rest) (visit :: visits)
      (walked.map visit.report) := by
  cases walked with
  | error error =>
      rcases h with ⟨thrower, hmem, hthrew⟩
      exact ⟨thrower, List.mem_cons_of_mem _ hmem, hthrew⟩
  | ok payload =>
      rcases h with ⟨hwalked, rfl⟩
      refine ⟨.next visit hok hgoesOn hwalked, ?_⟩
      cases hmatch : visit.matchFound? <;> cases hunchecked : visit.unchecked? <;>
        simp [Visit.report, reportVisits, hmatch, hunchecked]

/-- A walk is a list of visits, which say what its result is. -/
theorem executes_walkRegistries {handlers : RegistryHandlerMap}
    {context : RegistryHandlerContext} {did : String} {exhaustive : Bool}
    {registries : List EntityIdentityRegistry} {trace : List PortEvent}
    {result : Except Thrown RegistryCheckPayload}
    (h : Executes (walkRegistries handlers context did exhaustive registries) trace result) :
    ∃ visits : List Visit, trace = visits.flatMap Visit.events ∧
      (∀ visit ∈ visits, visit.registry ∈ registries ∧ visit.Runs handlers context did) ∧
      WalkReported exhaustive registries visits result := by
  induction registries generalizing trace result with
  | nil =>
      rcases executes_pure_iff.mp h with ⟨rfl, rfl⟩
      exact ⟨[], rfl, by simp, .done, rfl⟩
  | cons registry rest ih =>
      rcases executes_bind_iff.mp h with ⟨events, later, outcome, rfl, hhandler, hrest⟩
      -- What every case adds to the visits of the rest of the walk.
      have hcover {visits : List Visit}
          (hvisits : ∀ visit ∈ visits, visit.registry ∈ rest ∧ visit.Runs handlers context did) :
          ∀ visit ∈ (⟨registry, events, outcome⟩ : Visit) :: visits,
            visit.registry ∈ registry :: rest ∧ visit.Runs handlers context did := by
        intro visit hvisit
        rcases List.mem_cons.mp hvisit with rfl | hmem
        · exact ⟨List.mem_cons_self, hhandler⟩
        · exact ⟨List.mem_cons_of_mem _ (hvisits visit hmem).1, (hvisits visit hmem).2⟩
      cases outcome with
      | error error =>
          rcases executes_pure_iff.mp hrest with ⟨rfl, rfl⟩
          exact ⟨[⟨registry, events, .error error⟩], by simp, hcover (by simp), _,
            List.mem_cons_self, rfl⟩
      | ok answer =>
          cases answer with
          | found entity =>
              dsimp only at hrest
              by_cases hexhaustive : exhaustive = true
              · rw [if_pos hexhaustive] at hrest
                rcases executes_bind_iff.mp hrest with ⟨walk, last, walked, rfl, hwalk, hpure⟩
                rcases executes_pure_iff.mp hpure with ⟨rfl, rfl⟩
                rcases ih hwalk with ⟨visits, rfl, hvisits, hreport⟩
                exact ⟨_, by simp, hcover hvisits,
                  hreport.next ⟨registry, events, .ok (.found entity)⟩ ⟨_, rfl⟩
                    (.inl hexhaustive)⟩
              · rw [if_neg hexhaustive] at hrest
                rcases executes_pure_iff.mp hrest with ⟨rfl, rfl⟩
                have hstop : exhaustive = false := by simpa using hexhaustive
                exact ⟨[⟨registry, events, .ok (.found entity)⟩], by simp, hcover (by simp),
                  .stopped ⟨registry, events, .ok (.found entity)⟩ hstop rfl, rfl⟩
          | notFound =>
              rcases ih hrest with ⟨visits, rfl, hvisits, hreport⟩
              have hnext := hreport.next ⟨registry, events, .ok .notFound⟩ ⟨_, rfl⟩ (.inr rfl)
              refine ⟨_, by simp, hcover hvisits, ?_⟩
              cases result with
              | error error => exact hnext
              | ok payload => exact hnext
          | unchecked =>
              rcases executes_bind_iff.mp hrest with ⟨walk, last, walked, rfl, hwalk, hpure⟩
              rcases executes_pure_iff.mp hpure with ⟨rfl, rfl⟩
              rcases ih hwalk with ⟨visits, rfl, hvisits, hreport⟩
              exact ⟨_, by simp, hcover hvisits,
                hreport.next ⟨registry, events, .ok .unchecked⟩ ⟨_, rfl⟩ (.inr rfl)⟩

/-! ## Runs of a lookup -/

/-- The result cache had nothing for the lookup, or was not asked. -/
def MissedResult (did : String) (registries : List EntityIdentityRegistry)
    (options : LookupIssuersOptions) (events : List PortEvent) : Prop :=
  (options.fresh = true ∧ events = []) ∨
    options.fresh = false ∧ ∃ cached, events = [⟨.cacheGet (resultCacheKey did registries), cached⟩] ∧
      cachedResult cached = none

/-- The runs of a lookup. -/
inductive LookupRun (handlers : RegistryHandlerMap) (context : RegistryHandlerContext)
    (did : String) (registries : List EntityIdentityRegistry) (options : LookupIssuersOptions) :
    List PortEvent → Except Thrown RegistryLookupResult → Prop where
  /-- A cached result is returned as it is. -/
  | cached {result : RegistryLookupResult} :
      options.fresh = false →
      LookupRun handlers context did registries options
        [⟨.cacheGet (resultCacheKey did registries), some (.lookupResult result)⟩] (.ok result)
  /-- A handler threw, and nothing is stored. -/
  | threw {missed : List PortEvent} {visits : List Visit} {error : Thrown} :
      MissedResult did registries options missed →
      (∀ visit ∈ visits, visit.registry ∈ registries ∧ visit.Runs handlers context did) →
      (∃ visit ∈ visits, visit.outcome = .error error) →
      LookupRun handlers context did registries options
        (missed ++ visits.flatMap Visit.events) (.error error)
  /-- The registries were walked and the result stored. -/
  | walked {missed : List PortEvent} {visits : List Visit} {result : RegistryLookupResult} :
      MissedResult did registries options missed →
      (∀ visit ∈ visits, visit.registry ∈ registries ∧ visit.Runs handlers context did) →
      Walked options.exhaustive registries visits →
      result = lookupResultOf (reportVisits visits) →
      LookupRun handlers context did registries options
        (missed ++ (visits.flatMap Visit.events ++
          [⟨.cacheSet (resultCacheKey did registries) (.lookupResult result)
            ((resultTtl result : WithTop ℚ) : Num), ()⟩])) (.ok result)

/-- A walk that stores its result is a run behind any miss. -/
theorem executes_lookupAndStore {handlers : RegistryHandlerMap} {context : RegistryHandlerContext}
    {did : String} {registries : List EntityIdentityRegistry} {options : LookupIssuersOptions}
    {missed trace : List PortEvent} {result : Except Thrown RegistryLookupResult}
    (hmissed : MissedResult did registries options missed)
    (h : Executes (lookupAndStore handlers context did registries options.exhaustive) trace
      result) :
    LookupRun handlers context did registries options (missed ++ trace) result := by
  rcases executes_bind_iff.mp h with ⟨walk, rest, walked, rfl, hwalk, hrest⟩
  rcases executes_walkRegistries hwalk with ⟨visits, rfl, hvisits, hreport⟩
  cases walked with
  | error error =>
      rcases executes_pure_iff.mp hrest with ⟨rfl, rfl⟩
      rw [List.append_nil]
      exact .threw hmissed hvisits hreport
  | ok payload =>
      rcases executes_ask_bind_iff.mp hrest with ⟨stored, last, rfl, hlast⟩
      rcases executes_pure_iff.mp hlast with ⟨rfl, rfl⟩
      rcases hreport with ⟨hwalked, rfl⟩
      exact .walked hmissed hvisits hwalked rfl

/-- Every execution of a lookup is one of its runs. -/
theorem executes_createRegistryLookup {handlers : RegistryHandlerMap}
    {context : RegistryHandlerContext} {did : String}
    {registries : List EntityIdentityRegistry} {options : LookupIssuersOptions}
    {trace : List PortEvent} {result : Except Thrown RegistryLookupResult}
    (h : Executes (createRegistryLookup handlers context did registries options) trace result) :
    LookupRun handlers context did registries options trace result := by
  unfold createRegistryLookup at h
  by_cases hfresh : options.fresh = true
  · rw [if_pos hfresh] at h
    have hmissed : MissedResult did registries options [] := .inl ⟨hfresh, rfl⟩
    simpa using executes_lookupAndStore hmissed h
  · rw [if_neg hfresh] at h
    have hread : options.fresh = false := by simpa using hfresh
    rcases executes_ask_bind_iff.mp h with ⟨cached, rest, rfl, hrest⟩
    cases hcached : cachedResult cached with
    | some stored =>
        simp only [hcached, executes_pure_iff] at hrest
        rcases hrest with ⟨rfl, rfl⟩
        have hvalue : cached = some (.lookupResult stored) := by
          unfold cachedResult at hcached
          split at hcached
          · cases hcached
            rfl
          · cases hcached
        rw [hvalue]
        exact .cached hread
    | none =>
        simp only [hcached] at hrest
        have hmissed : MissedResult did registries options
            [⟨.cacheGet (resultCacheKey did registries), cached⟩] :=
          .inr ⟨hread, cached, rfl, hcached⟩
        exact executes_lookupAndStore hmissed hrest

/-! ## Lookups that one registry aborts -/

/-- How a lookup that visits OpenID federations ends.  Around the result cache it
is a list of visits, and it returns a result exactly when every visited federation
was answered with bodies that can be coerced and every other handler returned. -/
def AbortedByBodiesOnly (handlers : RegistryHandlerMap) (context : RegistryHandlerContext)
    (did : String) (registries : List EntityIdentityRegistry) (trace : List PortEvent)
    (result : Except Thrown RegistryLookupResult) : Prop :=
  ∃ (missed : List PortEvent) (visits : List Visit) (stored : List PortEvent),
    trace = missed ++ (visits.flatMap Visit.events ++ stored) ∧
    (∀ event ∈ missed ++ stored, ¬event.op.LeavesCache) ∧
    (∀ visit ∈ visits, visit.registry ∈ registries ∧ visit.Runs handlers context did) ∧
    ((∃ found, result = .ok found) ↔ ∀ visit ∈ visits,
      if visit.registry.type = .oidf then ∀ event ∈ visit.events, BodyCoerces event
      else ∃ answer, visit.outcome = .ok answer)

/-- A visit returns exactly when it is not aborted by a body or, where another
handler made it, by that handler. -/
theorem Visit.returns_iff {handlers : RegistryHandlerMap} {context : RegistryHandlerContext}
    {did : String} {visit : Visit} (hhandlers : handlers .oidf = lookupOidf)
    (h : visit.Runs handlers context did) :
    (∃ answer, visit.outcome = .ok answer) ↔
      if visit.registry.type = .oidf then ∀ event ∈ visit.events, BodyCoerces event
      else ∃ answer, visit.outcome = .ok answer := by
  by_cases htype : visit.registry.type = .oidf
  · rw [if_pos htype]
    unfold Visit.Runs at h
    rw [htype, hhandlers] at h
    exact resolvesOn_lookupOidf did visit.registry context visit.events visit.outcome h
  · rw [if_neg htype]

/-- The visits of a walk that ended all returned. -/
theorem Walked.all_return {exhaustive : Bool} {registries : List EntityIdentityRegistry}
    {visits : List Visit} (h : Walked exhaustive registries visits) :
    ∀ visit ∈ visits, ∃ answer, visit.outcome = .ok answer := by
  induction h with
  | done => simp
  | stopped visit _ hmatch =>
      intro other hother
      rw [List.mem_singleton] at hother
      subst hother
      unfold Visit.matchFound? at hmatch
      split at hmatch
      · rename_i entity hfound
        exact ⟨_, hfound⟩
      · cases hmatch
  | next visit hok _ _ ih =>
      intro other hother
      rcases List.mem_cons.mp hother with rfl | hmem
      · exact hok
      · exact ih other hmem

theorem MissedResult.in_cache {did : String} {registries : List EntityIdentityRegistry}
    {options : LookupIssuersOptions} {events : List PortEvent}
    (h : MissedResult did registries options events) :
    ∀ event ∈ events, ¬event.op.LeavesCache := by
  rcases h with ⟨_, rfl⟩ | ⟨_, cached, rfl, _⟩
  · simp
  · simp [Port.LeavesCache]

/-- Every lookup ends in this way. -/
theorem LookupRun.abortedByBodiesOnly {handlers : RegistryHandlerMap}
    {context : RegistryHandlerContext} {did : String} {registries : List EntityIdentityRegistry}
    {options : LookupIssuersOptions} {trace : List PortEvent}
    {result : Except Thrown RegistryLookupResult} (hhandlers : handlers .oidf = lookupOidf)
    (h : LookupRun handlers context did registries options trace result) :
    AbortedByBodiesOnly handlers context did registries trace result := by
  cases h with
  | @cached found hread =>
      exact ⟨[⟨.cacheGet (resultCacheKey did registries), some (.lookupResult found)⟩], [], [],
        by simp, by simp [Port.LeavesCache], by simp, by simp⟩
  | @threw missed visits error hmissed hvisits herror =>
      rcases herror with ⟨thrower, hmem, hthrew⟩
      refine ⟨missed, visits, [], by simp, by simpa using hmissed.in_cache, hvisits, ?_⟩
      constructor
      · rintro ⟨found, hfound⟩
        cases hfound
      · intro hall
        have hreturns := (Visit.returns_iff hhandlers (hvisits thrower hmem).2).mpr
          (hall thrower hmem)
        rcases hreturns with ⟨answer, hanswer⟩
        rw [hthrew] at hanswer
        cases hanswer
  | @walked missed visits found hmissed hvisits hwalked hresult =>
      refine ⟨missed, visits, _, rfl, ?_, hvisits, ?_⟩
      · intro event hevent
        rcases List.mem_append.mp hevent with hfront | hback
        · exact hmissed.in_cache event hfront
        · rw [List.mem_singleton] at hback
          subst hback
          simp [Port.LeavesCache]
      · refine ⟨fun _ visit hmem => ?_, fun _ => ⟨found, rfl⟩⟩
        exact (Visit.returns_iff hhandlers (hvisits visit hmem).2).mp (hwalked.all_return visit hmem)

/-- A federation lookup returns an answer exactly when no success it receives has a
body that cannot be coerced, and nothing else of a federation aborts the lookup it
is part of. -/
theorem lookupOidf_resolves_iff {did : String} {registry : EntityIdentityRegistry}
    {context : RegistryHandlerContext} {trace : List PortEvent}
    {outcome : Except Thrown HandlerResult}
    (h : Executes (lookupOidf did registry context) trace outcome) :
    ((∃ answer, outcome = .ok answer) ↔ ∀ event ∈ trace, BodyCoerces event) ∧
      ∀ (handlers : RegistryHandlerMap) (registries : List EntityIdentityRegistry)
        (options : LookupIssuersOptions) (lookup : List PortEvent)
        (result : Except Thrown RegistryLookupResult), handlers .oidf = lookupOidf →
        Executes (createRegistryLookup handlers context did registries options) lookup result →
        AbortedByBodiesOnly handlers context did registries lookup result := by
  refine ⟨resolvesOn_lookupOidf did registry context trace outcome h, ?_⟩
  intro handlers registries options lookup result hhandlers hlookup
  exact (executes_createRegistryLookup hlookup).abortedByBodiesOnly hhandlers

/-! ### A body that cannot be coerced -/

/-- The endpoint answers with an object that has a `toString` of its own. -/
def shadowedBodyTrace : List PortEvent :=
  [⟨.dateNowMs, (0 : ℚ)⟩,
    ⟨.cacheGet "oidf:ec:https://anchor/ec", none⟩,
    ⟨.httpGet "https://anchor/ec",
      .ok { body := some (.obj [("toString", .null)]), headers := [], status := 200 }⟩]

theorem executes_shadowedBody :
    Executes (lookupOidf "did:example:issuer" (.oidf "Anchor" "https://anchor/ec")
      federationContext) shadowedBodyTrace (.error coercionError) :=
  replay_eq_some_iff.mp (by decide +kernel)

/-- The lookup throws on it. -/
theorem shadowedBody_rejects :
    ¬∀ (did : String) (registry : EntityIdentityRegistry) (context : RegistryHandlerContext)
      (trace : List PortEvent) (outcome : Except Thrown HandlerResult),
      Executes (lookupOidf did registry context) trace outcome →
        ∃ answer, outcome = .ok answer := by
  intro hall
  rcases hall _ _ _ _ _ executes_shadowedBody with ⟨answer, hanswer⟩
  cases hanswer

/-- With an answer that can be coerced the lookup returns. -/
theorem lookupOidf_resolves_federation :
    ((∃ answer, (Except.ok (.found none) : Except Thrown HandlerResult) = .ok answer) ↔
        ∀ event ∈ federationTrace, BodyCoerces event) ∧
      ∀ (handlers : RegistryHandlerMap) (registries : List EntityIdentityRegistry)
        (options : LookupIssuersOptions) (lookup : List PortEvent)
        (result : Except Thrown RegistryLookupResult), handlers .oidf = lookupOidf →
        Executes (createRegistryLookup handlers federationContext "did:example:issuer" registries
          options) lookup result →
        AbortedByBodiesOnly handlers federationContext "did:example:issuer" registries lookup
          result :=
  lookupOidf_resolves_iff executes_federation

end VerifierCore
