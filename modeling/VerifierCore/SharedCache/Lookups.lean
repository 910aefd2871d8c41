import VerifierCore.SharedCache
import VerifierCore.Verifier.Recursion

/-!
# Lookups on a shared cache

What a lookup stores, and which keys its handlers leave alone.  A lookup is its
read of the result cache, the visits of its handlers and the store of its result;
a claim about what lookups store is checked on these three.

Main results:

- Theorem {lit}`LookupRun.justified`: a lookup's events have their reasons if those
  of its visits have, and its result has.
- Theorem {lit}`keepsOut_defaultHandlers`: the handlers do not write results.
-/

namespace VerifierCore

open Foundations Program

/-! ## Keys a handler leaves alone -/

/-- If the call writes to the cache, then under none of the writer's keys. -/
def Port.WritesOutside (writer : CacheNamespace) (port : Port) : Prop :=
  ∀ key value ttlMs, port = .cacheSet key value ttlMs → ¬InNamespace writer key

/-- A write in one namespace is outside any other. -/
theorem Port.WritesIn.writesOutside {writer other : CacheNamespace} {port : Port}
    (h : port.WritesIn other) (hne : writer ≠ other) : port.WritesOutside writer := by
  intro key value ttlMs hport hkey
  exact hne (hkey.unique (h key value ttlMs hport))

/-- In the context, the handler writes under none of the writer's keys. -/
def RegistryHandler.KeepsOut (writer : CacheNamespace) (context : RegistryHandlerContext)
    (handler : RegistryHandler) : Prop :=
  ∀ did registry, (handler did registry context).Confined (Port.WritesOutside writer)

/-- The handler of federations writes in no other namespace. -/
theorem keepsOut_lookupOidf {writer : CacheNamespace} (h : writer ≠ .oidf)
    (context : RegistryHandlerContext) : RegistryHandler.KeepsOut writer context lookupOidf := by
  intro did registry
  apply (confined_lookupOidf did registry context).mono
  intro port hport
  exact Port.WritesIn.writesOutside hport h

/-- The handler of legacy registries writes in no other namespace. -/
theorem keepsOut_lookupDccLegacy {writer : CacheNamespace} (h : writer ≠ .dccLegacy)
    (context : RegistryHandlerContext) :
    RegistryHandler.KeepsOut writer context lookupDccLegacy := by
  intro did registry
  apply (confined_lookupDccLegacy did registry context).mono
  intro port hport
  exact Port.WritesIn.writesOutside hport h

/-- What a handler is given by a verifier. -/
def handlerContext (platform : Platform) (config : VerifierConfig) (depth : Nat) :
    RegistryHandlerContext :=
  { platform := platform, verifier := .ok (createVerifier platform config depth) }

/-- A verifier does not use the cache on a call that brings its own lookup. -/
theorem leavesCache_createVerifier {platform : Platform} {config : VerifierConfig} {depth : Nat}
    {call : VerifyCredentialCall} (hcall : call.IsClosed) :
    ((createVerifier platform config depth).verifyCredential call).Confined Port.LeavesCache := by
  cases depth with
  | zero => exact leavesCache_verifyCredential hcall
  | succ depth => exact leavesCache_verifyCredential hcall

theorem inNamespace_vcRecognition (url : String) :
    InNamespace .vcRecognition (cacheKeyForVcRecognitionUrl url) :=
  ⟨url, rfl⟩

/-- In a verifier's hands, the recognition handler writes its own keys only. -/
theorem confined_lookupVcRecognition (platform : Platform) (config : VerifierConfig)
    (depth : Nat) (did : String) (registry : EntityIdentityRegistry) :
    (lookupVcRecognition did registry (handlerContext platform config depth)).Confined
      (Port.WritesIn .vcRecognition) := by
  cases registry with
  | oidf | dccLegacy => exact confined_pure _
  | vcRecognition name url accepted =>
      apply Confined.map
      apply Confined.bind (confined_perform (Port.writesIn_cacheGet _ _))
      intro cached
      split
      · exact confined_pure _
      · apply Confined.bind
        · apply Confined.bind (confined_perform (Port.writesIn_httpGet _ _))
          intro fetched
          exact confined_pure _
        · intro loaded
          split
          · exact confined_pure _
          · split
            · exact confined_pure _
            · apply Confined.bind
              · apply (leavesCache_createVerifier (isClosed_recognitionCall _)).mono
                intro port hport
                exact Port.writesIn_of_leavesCache hport
              · intro verification
                split
                · exact confined_pure _
                · apply Confined.bind (confined_perform (Port.writesIn_dateNowMs _))
                  intro nowMs
                  apply Confined.bind (confined_perform
                    (Port.writesIn_cacheSet (inNamespace_vcRecognition url) _ _))
                  intro stored
                  exact confined_pure _

/-- The handler of recognition credentials writes in no other namespace. -/
theorem keepsOut_lookupVcRecognition {writer : CacheNamespace} (h : writer ≠ .vcRecognition)
    (platform : Platform) (config : VerifierConfig) (depth : Nat) :
    RegistryHandler.KeepsOut writer (handlerContext platform config depth)
      lookupVcRecognition := by
  intro did registry
  apply (confined_lookupVcRecognition platform config depth did registry).mono
  intro port hport
  exact Port.WritesIn.writesOutside hport h

/-- The handlers a verifier looks issuers up with. -/
def VerifierConfig.handlers (config : VerifierConfig) : RegistryHandlerMap :=
  config.registryHandlers.getD defaultHandlers

/-- In a verifier's hands, the default handlers do not write results. -/
theorem keepsOut_defaultHandlers (platform : Platform) (config : VerifierConfig) (depth : Nat)
    (type : RegistryType) :
    RegistryHandler.KeepsOut .result (handlerContext platform config depth)
      (defaultHandlers type) := by
  cases type with
  | dccLegacy => exact keepsOut_lookupDccLegacy (by decide) _
  | oidf => exact keepsOut_lookupOidf (by decide) _
  | vcRecognition => exact keepsOut_lookupVcRecognition (by decide) platform config depth

/-! ## What a lookup stores -/

/-- Every event of a lookup has its reason if the reads of the result cache, the
visits of the handlers and the store of the result have theirs. -/
theorem LookupRun.justified {handlers : RegistryHandlerMap} {context : RegistryHandlerContext}
    {did : String} {registries : List EntityIdentityRegistry} {options : LookupIssuersOptions}
    {trace : List PortEvent} {outcome : Except Thrown RegistryLookupResult}
    (J : List PortEvent → PortEvent → Prop)
    (hmono : ∀ more front event, J front event → J (more ++ front) event)
    (hread : ∀ key cached front, J front ⟨.cacheGet key, cached⟩)
    (hvisit : ∀ visit : Visit, visit.registry ∈ registries → visit.Runs handlers context did →
      Justified J visit.events)
    (hstore : ∀ visits : List Visit,
      (∀ visit ∈ visits, visit.registry ∈ registries ∧ visit.Runs handlers context did) →
      Walked options.exhaustive registries visits →
      J (visits.flatMap Visit.events) ⟨.cacheSet (resultCacheKey did registries)
        (.lookupResult (lookupResultOf (reportVisits visits)))
        ((resultTtl (lookupResultOf (reportVisits visits)) : WithTop ℚ) : Num), ()⟩)
    (h : LookupRun handlers context did registries options trace outcome) :
    Justified J trace := by
  have hmissed {missed : List PortEvent}
      (hmiss : MissedResult did registries options missed) : Justified J missed := by
    apply justified_of_forall
    intro event hevent
    rcases hmiss with ⟨_, rfl⟩ | ⟨_, cached, rfl, _⟩
    · cases hevent
    · rw [List.mem_singleton.mp hevent]
      exact hread _ cached
  have hvisited {visits : List Visit}
      (hvisits : ∀ visit ∈ visits, visit.registry ∈ registries ∧
        visit.Runs handlers context did) : Justified J (visits.flatMap Visit.events) := by
    apply justified_flatMap hmono
    intro visit hmem
    exact hvisit visit (hvisits visit hmem).1 (hvisits visit hmem).2
  cases h with
  | cached =>
      apply justified_of_forall
      intro event hevent
      rw [List.mem_singleton.mp hevent]
      exact hread _ _
  | threw hmiss hvisits => exact justified_append hmono (hmissed hmiss) (hvisited hvisits)
  | @walked missed visits result hmiss hvisits hwalked hresult =>
      subst hresult
      apply justified_append hmono (hmissed hmiss)
      exact justified_concat (hvisited hvisits) (hstore visits hvisits hwalked)

/-- A handler that keeps out of the writer's keys justifies anything said of writes
under them. -/
theorem Visit.justified_of_keepsOut {handlers : RegistryHandlerMap}
    {context : RegistryHandlerContext} {did : String} {visit : Visit}
    {J : List PortEvent → PortEvent → Prop} {writer : CacheNamespace}
    (hkeep : RegistryHandler.KeepsOut writer context (handlers visit.registry.type))
    (hother : ∀ event : PortEvent, event.op.WritesOutside writer → ∀ front, J front event)
    (h : visit.Runs handlers context did) : Justified J visit.events := by
  apply justified_of_forall
  intro event hevent
  exact hother event (h.forall_of_confined (hkeep _ _) event hevent)

end VerifierCore
