import VerifierCore.Foundations.Grouping
import VerifierCore.SharedCache.Lookups

/-!
# Cached lookup results

Lookups through one walk, with handlers whose answers do not change.  A result is
cached under the DID and the registries alone, although a walk that stops at the
first match reports less than an exhaustive one.

Main results:

- Theorem {lit}`reportVisits_of_walked`: what a walk that skips nothing worth
  reporting reports.
- Theorem {lit}`exhaustiveLookupsComplete_of_servedWhole`: exhaustive lookups are
  complete as long as the cached results they are served are.
- Theorem {lit}`not_exhaustiveLookupsComplete_afterPlain`: after a plain lookup
  they need not be.
-/

namespace VerifierCore

open Foundations Program

/-! ## Reports of fixed answers -/

section

variable (answer : String → EntityIdentityRegistry → HandlerResult) (did : String)

/-- The match of a registry whose handler answers `found`. -/
def expectedMatch (registry : EntityIdentityRegistry) : Option RegistryMatch :=
  match answer did registry with
  | .found entity => some { registry := registryReference registry, entity := entity }
  | _ => none

/-- The reference of a registry whose handler answers `unchecked`. -/
def expectedUnchecked (registry : EntityIdentityRegistry) : Option RegistryReference :=
  match answer did registry with
  | .unchecked => some (registryReference registry)
  | _ => none

/-- What is found and what is unchecked among the registries. -/
def expectedReport (registries : List EntityIdentityRegistry) : RegistryCheckPayload :=
  { matchesFound := registries.filterMap (expectedMatch answer did)
    uncheckedRegistries := registries.filterMap (expectedUnchecked answer did) }

/-- A walk of the registries leaves nothing out of its report: it is exhaustive, or
all the registries behind the first match answer `notFound`. -/
def SkipsNothing (exhaustive : Bool) (registries : List EntityIdentityRegistry) : Prop :=
  exhaustive = true ∨ ∀ before registry after, registries = before ++ registry :: after →
    (expectedMatch answer did registry).isSome → ∀ other ∈ after, answer did other = .notFound

end

section

variable {answer : String → EntityIdentityRegistry → HandlerResult} {did : String}

/-- A visit that was answered as fixed finds what is expected of its registry. -/
theorem Visit.matchFound?_of_fixed {visit : Visit}
    (h : visit.outcome = .ok (answer did visit.registry)) :
    visit.matchFound? = expectedMatch answer did visit.registry := by
  unfold Visit.matchFound? expectedMatch
  rw [h]
  cases answer did visit.registry <;> rfl

/-- A visit that was answered as fixed is unchecked where that is expected of its registry. -/
theorem Visit.unchecked?_of_fixed {visit : Visit}
    (h : visit.outcome = .ok (answer did visit.registry)) :
    visit.unchecked? = expectedUnchecked answer did visit.registry := by
  unfold Visit.unchecked? expectedUnchecked
  rw [h]
  cases answer did visit.registry <;> rfl

/-- Registries that answer `notFound` are not reported. -/
theorem expectedReport_of_notFound {registries : List EntityIdentityRegistry}
    (h : ∀ registry ∈ registries, answer did registry = .notFound) :
    expectedReport answer did registries = { matchesFound := [], uncheckedRegistries := [] } := by
  have hmatches : registries.filterMap (expectedMatch answer did) = [] := by
    rw [List.filterMap_eq_nil_iff]
    intro registry hmem
    simp [expectedMatch, h registry hmem]
  have hunchecked : registries.filterMap (expectedUnchecked answer did) = [] := by
    rw [List.filterMap_eq_nil_iff]
    intro registry hmem
    simp [expectedUnchecked, h registry hmem]
  rw [expectedReport, hmatches, hunchecked]

/-- A walk that skips nothing reports what is to be expected of its registries. -/
theorem reportVisits_of_walked {exhaustive : Bool} {registries : List EntityIdentityRegistry}
    {visits : List Visit} (hwalked : Walked exhaustive registries visits)
    (hfixed : ∀ visit ∈ visits, visit.outcome = .ok (answer did visit.registry))
    (hskips : SkipsNothing answer did exhaustive registries) :
    reportVisits visits = expectedReport answer did registries := by
  induction hwalked with
  | done => rfl
  | @stopped visit rest hstop hfound =>
      have hvisit := hfixed visit List.mem_cons_self
      have hmatch := Visit.matchFound?_of_fixed hvisit
      have hunchecked := Visit.unchecked?_of_fixed hvisit
      rw [hmatch] at hfound
      have hrest : ∀ registry ∈ rest, answer did registry = .notFound := by
        rcases hskips with hexhaustive | hbehind
        · rw [hstop] at hexhaustive
          cases hexhaustive
        · exact hbehind [] visit.registry rest rfl hfound
      have hnothing := expectedReport_of_notFound hrest
      rw [expectedReport, RegistryCheckPayload.mk.injEq] at hnothing
      simp [reportVisits, expectedReport, List.filterMap_cons, hmatch, hunchecked, hnothing.1,
        hnothing.2]
  | @next visit rest visits _ _ _ ih =>
      have hvisit := hfixed visit List.mem_cons_self
      have hmatch := Visit.matchFound?_of_fixed hvisit
      have hunchecked := Visit.unchecked?_of_fixed hvisit
      have hrest : SkipsNothing answer did exhaustive rest := by
        rcases hskips with hexhaustive | hbehind
        · exact .inl hexhaustive
        · right
          intro before registry after hsplit
          exact hbehind (visit.registry :: before) registry after (by simp [hsplit])
      have htail := ih (fun other hmem => hfixed other (List.mem_cons_of_mem _ hmem)) hrest
      rw [reportVisits, expectedReport, RegistryCheckPayload.mk.injEq] at htail
      simp [reportVisits, expectedReport, List.filterMap_cons, hmatch, hunchecked, htail.1,
        htail.2]

/-- Lists of registries with the same ids have the same reports, up to order, when
registries with equal ids are answered alike. -/
theorem expectedReport_perm {registries registries' : List EntityIdentityRegistry}
    (hids : (registries.map registryId).Perm (registries'.map registryId))
    (halike : ∀ registry ∈ registries, ∀ registry' ∈ registries',
      registryId registry = registryId registry' → answer did registry = answer did registry') :
    (expectedReport answer did registries).matchesFound.Perm
        (expectedReport answer did registries').matchesFound ∧
      (expectedReport answer did registries).uncheckedRegistries.Perm
        (expectedReport answer did registries').uncheckedRegistries := by
  constructor
  · apply perm_filterMap_of_map hids
    intro registry hmem registry' hmem' hid
    have hreference := registryReference_eq_of_registryId_eq hid
    simp [expectedMatch, halike registry hmem registry' hmem' hid, hreference]
  · apply perm_filterMap_of_map hids
    intro registry hmem registry' hmem' hid
    have hreference := registryReference_eq_of_registryId_eq hid
    simp [expectedUnchecked, halike registry hmem registry' hmem' hid, hreference]

end

/-! ## Lookups through one walk -/

/-- One lookup. -/
structure ResultCall where
  did : String
  registries : List EntityIdentityRegistry
  options : LookupIssuersOptions

/-- The lookup that a call makes. -/
def ResultCall.program (handlers : RegistryHandlerMap) (context : RegistryHandlerContext)
    (call : ResultCall) : Async (Except Thrown RegistryLookupResult) :=
  createRegistryLookup handlers context call.did call.registries call.options

section

variable {handlers : RegistryHandlerMap} {context : RegistryHandlerContext}
  {answer : String → EntityIdentityRegistry → HandlerResult}
  {run : Run ResultCall ℚ Port Port.Answer}

/-- Every exhaustive lookup reports exactly the registries that its handlers find
the issuer in, and exactly those that go unchecked. -/
def ExhaustiveLookupsComplete (handlers : RegistryHandlerMap) (context : RegistryHandlerContext)
    (answer : String → EntityIdentityRegistry → HandlerResult)
    (run : Run ResultCall ℚ Port Port.Answer) : Prop :=
  ∀ i call outcome, run.Returns (ResultCall.program handlers context) i call outcome →
    call.options.exhaustive = true →
    ∃ result, outcome = .ok result ∧
      result.matchesFound.Perm (expectedReport answer call.did call.registries).matchesFound ∧
      result.uncheckedRegistries.Perm
        (expectedReport answer call.did call.registries).uncheckedRegistries

/-- Whenever a call of the run asks a registry's handler, it gives the fixed answer for
the DID and the registry, and no handler writes results. -/
structure FixedHandlers (handlers : RegistryHandlerMap) (context : RegistryHandlerContext)
    (answer : String → EntityIdentityRegistry → HandlerResult)
    (run : Run ResultCall ℚ Port Port.Answer) : Prop where
  fixed : ∀ i call, run.calls[i]? = some call → ∀ registry ∈ call.registries,
    ∀ events outcome, events <:+: own run.history i →
    Executes (handlers registry.type call.did registry context) events outcome →
    outcome = .ok (answer call.did registry)
  keepsOut : ∀ type, RegistryHandler.KeepsOut .result context (handlers type)

/-- The visits of a call's walk gave the fixed answers. -/
theorem FixedHandlers.outcome_eq (hfixed : FixedHandlers handlers context answer run) {i : Nat}
    {call : ResultCall} (hcall : run.calls[i]? = some call) {visits : List Visit}
    (hinside : visits.flatMap Visit.events <:+: own run.history i)
    (hvisits : ∀ visit ∈ visits, visit.registry ∈ call.registries ∧
      visit.Runs handlers context call.did) :
    ∀ visit ∈ visits, visit.outcome = .ok (answer call.did visit.registry) := by
  intro visit hmem
  rcases List.append_of_mem hmem with ⟨before, after, rfl⟩
  have hevents : visit.events <:+: (before ++ visit :: after).flatMap Visit.events :=
    ⟨before.flatMap Visit.events, after.flatMap Visit.events, by simp⟩
  exact hfixed.fixed i call hcall visit.registry (hvisits visit hmem).1 visit.events visit.outcome
    (hevents.trans hinside) (hvisits visit hmem).2

/-- The cache answered the lookup with a result. -/
def ResultCall.HitBy (call : ResultCall) (event : PortEvent) : Prop :=
  ∃ value, event = ⟨.cacheGet (resultCacheKey call.did call.registries), some value⟩

/-- The lookups whose stored results exhaustive lookups are served left nothing out,
and were answered alike by registries with equal ids. -/
def ServedWhole (answer : String → EntityIdentityRegistry → HandlerResult)
    (run : Run ResultCall ℚ Port Port.Answer) : Prop :=
  ∀ i j call call', run.calls[i]? = some call → run.calls[j]? = some call' →
    call'.options.exhaustive = true → run.Feeds call'.HitBy ServesHit i j →
    SkipsNothing answer call.did call.options.exhaustive call.registries ∧
      ∀ registry ∈ call.registries, ∀ registry' ∈ call'.registries,
        registryId registry = registryId registry' →
        answer call.did registry = answer call.did registry'

/-- What stands behind a result that a lookup stores: its own walk, in front. -/
def ResultCall.StoresReport (handlers : RegistryHandlerMap) (context : RegistryHandlerContext)
    (call : ResultCall) (front : List PortEvent) (event : PortEvent) : Prop :=
  ∀ key value ttlMs, event = ⟨.cacheSet key value ttlMs, ()⟩ → InNamespace .result key →
    key = resultCacheKey call.did call.registries ∧
      ∃ visits : List Visit, visits.flatMap Visit.events <:+: front ∧
        (∀ visit ∈ visits, visit.registry ∈ call.registries ∧
          visit.Runs handlers context call.did) ∧
        Walked call.options.exhaustive call.registries visits ∧
        value = .lookupResult (lookupResultOf (reportVisits visits)) ∧
        ttlMs = ((resultTtl (lookupResultOf (reportVisits visits)) : WithTop ℚ) : Num)

/-- A lookup stores the report of its own walk, and no other result. -/
theorem justified_resultCall
    (hkeep : ∀ type, RegistryHandler.KeepsOut .result context (handlers type))
    (call : ResultCall) (trace : List PortEvent) (outcome : Except Thrown RegistryLookupResult)
    (h : Executes (call.program handlers context) trace outcome) :
    Justified (call.StoresReport handlers context) trace := by
  refine LookupRun.justified (call.StoresReport handlers context) ?_ ?_ ?_ ?_
    (executes_createRegistryLookup h)
  · intro more front event hfront key value ttlMs hevent hkey
    rcases hfront key value ttlMs hevent hkey with ⟨hsame, visits, hinside, hrest⟩
    exact ⟨hsame, visits, hinside.trans (List.suffix_append more front).isInfix, hrest⟩
  · intro key cached front key' value ttlMs hevent
    cases hevent
  · intro visit _ hruns
    refine Visit.justified_of_keepsOut (hkeep _) ?_ hruns
    intro event hevent front key value ttlMs hset hkey
    rw [hset] at hevent
    exact absurd hkey (hevent _ _ _ rfl)
  · intro visits hvisits hwalked key value ttlMs hevent _
    have hset := Port.cacheSet.inj (congrArg Event.op hevent)
    exact ⟨hset.1.symm, visits, List.infix_rfl, hvisits, hwalked, hset.2.1.symm,
      hset.2.2.symm⟩

/-- In every run on a shared cache in which exhaustive lookups are served whole
results, they are complete. -/
theorem exhaustiveLookupsComplete_of_servedWhole
    (hfixed : FixedHandlers handlers context answer run)
    (hfollows : run.Follows (ResultCall.program handlers context))
    (hcache : SharedCache run.history) (hwhole : ServedWhole answer run) :
    ExhaustiveLookupsComplete handlers context answer run := by
  intro i call outcome hreturns hexhaustive
  have hlookup := executes_createRegistryLookup hreturns.executes
  generalize htrace : own run.history i = trace at hlookup
  cases hlookup with
  | @cached result hread =>
      have hhit : ⟨.cacheGet (resultCacheKey call.did call.registries),
          some (.lookupResult result)⟩ ∈ own run.history i := by simp [htrace]
      rcases exists_split_of_mem_own hhit with ⟨before, read, after, hsplit, hthread, hevent⟩
      rcases Run.exists_write hfollows hcache
          (fun call _ => justified_resultCall hfixed.keepsOut call) hsplit ⟨_, _, hevent⟩ with
        ⟨earlier, write, between, writer, rfl, hserves, hwriter, hstores⟩
      have hfeeds : run.Feeds call.HitBy ServesHit write.thread i :=
        ⟨earlier, write, between, read, after, by simp [hsplit], rfl, hthread, ⟨_, hevent⟩,
          hserves⟩
      rcases hserves with ⟨key, value, ttlMs, hwrite, hserved, _⟩
      rw [hevent] at hserved
      cases hserved
      rcases hstores _ _ _ hwrite (inNamespace_resultCacheKey _ _) with
        ⟨hkey, visits, hinside, hvisits, hwalked, hvalue, _⟩
      cases hvalue
      rcases resultCacheKey_inj hkey with ⟨hdid, hids⟩
      rcases hwhole write.thread i writer call hwriter hreturns.called hexhaustive hfeeds with
        ⟨hskips, halike⟩
      have hearlier : own earlier write.thread <:+: own run.history write.thread := by
        rw [hsplit, List.append_assoc, own_append]
        exact (List.prefix_append _ _).isInfix
      have hanswers := hfixed.outcome_eq hwriter (hinside.trans hearlier) hvisits
      have hreport := reportVisits_of_walked hwalked hanswers hskips
      have hperm := expectedReport_perm hids.symm halike
      rw [hdid]
      refine ⟨_, rfl, ?_⟩
      simpa only [lookupResultOf, hreport] using hperm
  | @threw missed visits error _ hvisits herror =>
      rcases herror with ⟨visit, hmem, houtcome⟩
      have hinside : visits.flatMap Visit.events <:+: own run.history i := by
        rw [htrace]
        exact (List.suffix_append missed _).isInfix
      have hanswered := hfixed.outcome_eq hreturns.called hinside hvisits visit hmem
      rw [houtcome] at hanswered
      cases hanswered
  | @walked missed visits result _ hvisits hwalked hresult =>
      have hinside : visits.flatMap Visit.events <:+: own run.history i := by
        rw [htrace]
        exact ⟨missed, _, (List.append_assoc missed _ _)⟩
      have hanswers := hfixed.outcome_eq hreturns.called hinside hvisits
      have hreport := reportVisits_of_walked hwalked hanswers (.inl hexhaustive)
      rw [hreport] at hresult
      rw [hresult]
      exact ⟨_, rfl, List.Perm.refl _, List.Perm.refl _⟩

end

/-! ### Two lookups of an issuer that two registries list -/

/-- Every registry lists every issuer. -/
def listsEveryone : String → EntityIdentityRegistry → HandlerResult :=
  fun _ _ => .found none

/-- Handlers that answer for everyone. -/
def listingHandlers : RegistryHandlerMap :=
  fun _ did registry _ => pure (.ok (listsEveryone did registry))

theorem fixedHandlers_listing (context : RegistryHandlerContext)
    (run : Run ResultCall ℚ Port Port.Answer) :
    FixedHandlers listingHandlers context listsEveryone run where
  fixed := by
    intro i call _ registry _ events outcome _ h
    exact (executes_pure_iff.mp h).2
  keepsOut := by
    intro type did registry
    exact confined_pure _

/-- The first registry. -/
def registryA : EntityIdentityRegistry :=
  .dccLegacy "A" "https://a"

/-- The second registry. -/
def registryB : EntityIdentityRegistry :=
  .dccLegacy "B" "https://b"

/-- The result that names these registries. -/
def listingResult (registries : List EntityIdentityRegistry) : RegistryLookupResult :=
  lookupResultOf (expectedReport listsEveryone "did:example:issuer" registries)

/-- The key of lookups in both registries. -/
def listingKey : String :=
  resultCacheKey "did:example:issuer" [registryA, registryB]

/-- A lookup that stores the result naming `stored`, and an exhaustive one of the
same registries, listed the other way around, that is served it. -/
def listingLookups (options : LookupIssuersOptions) (stored : List EntityIdentityRegistry) :
    List (ResultCall × List (ℚ × PortEvent)) :=
  [(⟨"did:example:issuer", [registryA, registryB], options⟩,
      [(0, ⟨.cacheGet listingKey, none⟩),
        (0, ⟨.cacheSet listingKey (.lookupResult (listingResult stored))
          ((3600000 : ℚ) : WithTop ℚ), ()⟩)]),
    (⟨"did:example:issuer", [registryB, registryA], { exhaustive := true }⟩,
      [(0, ⟨.cacheGet listingKey, some (.lookupResult (listingResult stored))⟩)])]

/-- The second lookup only ever sees the result. -/
theorem executes_servedListing (context : RegistryHandlerContext)
    (stored : List EntityIdentityRegistry) :
    Executes ((⟨"did:example:issuer", [registryB, registryA], { exhaustive := true }⟩ :
        ResultCall).program listingHandlers context)
      [⟨.cacheGet listingKey, some (.lookupResult (listingResult stored))⟩]
      (.ok (listingResult stored)) := by
  have hkey : listingKey = resultCacheKey "did:example:issuer" [registryB, registryA] := by
    decide +kernel
  rw [hkey]
  exact .call (.done _)

theorem follows_listingLookups {options : LookupIssuersOptions}
    {stored : List EntityIdentityRegistry}
    (hfirst : Executes ((⟨"did:example:issuer", [registryA, registryB], options⟩ :
        ResultCall).program listingHandlers federationContext)
      [⟨.cacheGet listingKey, none⟩, ⟨.cacheSet listingKey (.lookupResult (listingResult stored))
        ((3600000 : ℚ) : WithTop ℚ), ()⟩] (.ok (listingResult stored))) :
    (Run.sequential (listingLookups options stored)).Follows
      (ResultCall.program listingHandlers federationContext) := by
  apply Run.follows_sequential
  intro part hpart
  simp only [listingLookups, List.mem_cons, List.not_mem_nil, or_false] at hpart
  rcases hpart with rfl | rfl
  · exact ⟨_, hfirst⟩
  · exact ⟨_, executes_servedListing _ _⟩

/-- Behind an exhaustive lookup, an exhaustive lookup is complete. -/
theorem exhaustiveLookupsComplete_listing :
    ExhaustiveLookupsComplete listingHandlers federationContext listsEveryone
      (Run.sequential
        (listingLookups { exhaustive := true } [registryA, registryB])) := by
  have hallowed : AllAllowed InMemoryCache.Answers InMemoryCache.next ExpiringStore.empty
      (Run.sequential (listingLookups { exhaustive := true } [registryA, registryB])).history := by
    decide +kernel
  apply exhaustiveLookupsComplete_of_servedWhole (fixedHandlers_listing _ _)
    (follows_listingLookups (replay_eq_some_iff.mp (by decide +kernel)))
    (sharedCache_of_allAllowed hallowed)
  intro i j call call' hcall _ _ _
  have hexhaustive : call.options.exhaustive = true := by
    have hmem := List.mem_of_getElem? hcall
    simp only [Run.sequential, listingLookups, List.map_cons, List.map_nil, List.mem_cons,
      List.not_mem_nil, or_false] at hmem
    rcases hmem with rfl | rfl <;> rfl
  exact ⟨.inl hexhaustive, fun _ _ _ _ _ => rfl⟩

/-- Behind a plain lookup, which stopped at its first match, an exhaustive lookup
reports that match alone. -/
theorem not_exhaustiveLookupsComplete_afterPlain :
    FixedHandlers listingHandlers federationContext listsEveryone
        (Run.sequential (listingLookups {} [registryA])) ∧
      (Run.sequential (listingLookups {} [registryA])).Follows
        (ResultCall.program listingHandlers federationContext) ∧
      SharedCache (Run.sequential (listingLookups {} [registryA])).history ∧
      ¬ExhaustiveLookupsComplete listingHandlers federationContext listsEveryone
        (Run.sequential (listingLookups {} [registryA])) := by
  have hallowed : AllAllowed InMemoryCache.Answers InMemoryCache.next ExpiringStore.empty
      (Run.sequential (listingLookups {} [registryA])).history := by decide +kernel
  refine ⟨fixedHandlers_listing _ _,
    follows_listingLookups (replay_eq_some_iff.mp (by decide +kernel)),
    sharedCache_of_allAllowed hallowed, ?_⟩
  intro hcomplete
  rcases hcomplete 1 _ _ ⟨rfl, executes_servedListing _ _⟩ rfl with ⟨result, hresult, hperm, _⟩
  cases hresult
  have hlength := hperm.length_eq
  exact absurd hlength (by decide)

end VerifierCore
