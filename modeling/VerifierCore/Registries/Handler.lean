import VerifierCore.FoldResults

/-!
# Verifiers and registry handlers

The interfaces between the verifier, the issuer lookup and the registry
handlers.  A handler is given the verifier it works for, so that it can have a
recognition credential verified with the same services.

Main results:

- Theorem {lit}`InNamespace.unique`: a cache key belongs to one writer only.
-/

namespace VerifierCore

/-! ## Verifiers -/

/-- Per-call inputs of `verifyCredential`. -/
structure VerifyCredentialCall where
  credential : Option Json
  additionalSuites : Option (List VerificationSuite) := none
  registries : Option (List EntityIdentityRegistry) := none
  phases : Option (List SuitePhase) := none
  timing : Option Bool := none

/-- What `verifyCredential` returns.  The source's `partial` flag is
`partialPhases`. -/
structure CredentialVerificationResult where
  verified : Bool
  verifiableCredential : Option Json
  normalizedVerifiableCredential : Option Json := none
  recognizedProfile : Option String := none
  results : List CheckResult
  summary : List SuiteSummary
  partialPhases : Option Bool := none
  timing : Option TaskTiming := none

/-- A configured verifier, as a handler uses it. -/
structure Verifier where
  verifyCredential : VerifyCredentialCall → Async CredentialVerificationResult

/-! ## Handlers -/

/-- Outcome of looking up one issuer DID in a single registry entry. -/
inductive HandlerResult where
  | found (entity : Option RegistryEntity)
  | notFound
  | unchecked
deriving DecidableEq

/-- Per-call context of every handler.  Reading the verifier throws when the
lookup was built without one. -/
structure RegistryHandlerContext where
  platform : Platform
  verifier : Except Thrown Verifier

/-- Looks up a DID in one registry. -/
abbrev RegistryHandler : Type :=
  String → EntityIdentityRegistry → RegistryHandlerContext →
    Async (Except Thrown HandlerResult)

/-- One handler for each registry type. -/
abbrev RegistryHandlerMap : Type :=
  RegistryType → RegistryHandler

/-! ## What handlers read -/

/-- A cached value as the handlers read it.  A lookup result has none of the
members they look at. -/
def CacheValue.document : CacheValue → Json
  | .json value => value
  | .lookupResult _ => .obj []

/-- The cached value unless it is missing or falsy. -/
def cachedDocument (cached : Option CacheValue) : Option Json :=
  (cached.map CacheValue.document).filter Json.truthy

/-- A response status in the 200s. -/
def HttpGetResult.isOk (result : HttpGetResult) : Bool :=
  200 ≤ result.status && result.status < 300

theorem cachedDocument_eq_some_iff {cached : Option CacheValue} {document : Json} :
    cachedDocument cached = some document ↔
      ∃ value, cached = some value ∧ value.document = document ∧ document.truthy = true := by
  cases cached with
  | none => simp [cachedDocument]
  | some value =>
      simp only [cachedDocument, Option.map_some, Option.filter_eq_some_iff, Option.some.injEq]
      constructor
      · intro h
        exact ⟨value, rfl, h.1, h.2⟩
      · intro h
        rcases h with ⟨other, rfl, hdocument, htruthy⟩
        exact ⟨hdocument, htruthy⟩

/-! ## Cache keys -/

/-- The writers that share the cache. -/
inductive CacheNamespace where
  | result
  | dccLegacy
  | oidf
  | vcRecognition
deriving DecidableEq

/-- What the keys of a writer start with. -/
def CacheNamespace.start : CacheNamespace → String
  | .result => "reg-result:2:"
  | .dccLegacy => "dcc-legacy:"
  | .oidf => "oidf:"
  | .vcRecognition => "vc-recognition:"

/-- The key is one of the writer's. -/
def InNamespace (writer : CacheNamespace) (key : String) : Prop :=
  ∃ rest, key = writer.start ++ rest

/-- The first characters already tell the writers apart. -/
theorem InNamespace.unique {writer other : CacheNamespace} {key : String}
    (h : InNamespace writer key) (hother : InNamespace other key) : writer = other := by
  rcases h with ⟨rest, rfl⟩
  rcases hother with ⟨rest', heq⟩
  have hheads : (writer.start ++ rest).toList.head? = (other.start ++ rest').toList.head? := by
    rw [heq]
  cases writer <;> cases other <;>
    first
    | rfl
    | simp [CacheNamespace.start, String.toList_append] at hheads

/-- If the call writes to the cache, then under one of the writer's keys. -/
def Port.WritesIn (writer : CacheNamespace) (port : Port) : Prop :=
  ∀ key value ttlMs, port = .cacheSet key value ttlMs → InNamespace writer key

theorem Port.writesIn_of_leavesCache {writer : CacheNamespace} {port : Port}
    (h : port.LeavesCache) : port.WritesIn writer := by
  intro key value ttlMs hport
  subst hport
  exact h.elim

theorem Port.writesIn_httpGet (writer : CacheNamespace) (url : String) :
    (Port.httpGet url).WritesIn writer :=
  Port.writesIn_of_leavesCache trivial

theorem Port.writesIn_dateNowMs (writer : CacheNamespace) : Port.dateNowMs.WritesIn writer :=
  Port.writesIn_of_leavesCache trivial

theorem Port.writesIn_cacheGet (writer : CacheNamespace) (key : String) :
    (Port.cacheGet key).WritesIn writer := by
  intro key' value ttlMs hport
  cases hport

theorem Port.writesIn_cacheSet {writer : CacheNamespace} {key : String}
    (h : InNamespace writer key) (value : CacheValue) (ttlMs : Num) :
    (Port.cacheSet key value ttlMs).WritesIn writer := by
  intro key' value' ttlMs' hport
  cases hport
  exact h

end VerifierCore
