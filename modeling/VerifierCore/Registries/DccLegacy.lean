import VerifierCore.Registries.CacheTtl
import VerifierCore.Registries.Handler

/-!
# DCC legacy lookup

A JSON file maps each issuer's DID to its metadata.  The whole file is cached by
URL; a lookup reads one own member of it.

Main results:

- Theorem {lit}`executes_fetchDccLegacyRegistry`: a fetched file is the body of the
  response, kept as long as its headers say.
-/

namespace VerifierCore

open Foundations Program

/-- The key that the file at a URL is kept under. -/
def cacheKeyForDccLegacyUrl (url : String) : String :=
  "dcc-legacy:" ++ url

/-- The body has a `registry` member that is an object. -/
def isDccLegacyRegistryBody (value : Option Json) : Bool :=
  isPlainObject (value.bind (Json.get? · "registry"))

/-- The registry's record of the issuer: its name and homepage as the list gives
them, plus the whole entry. -/
def dccLegacyEntity (entry : Json) : RegistryEntity :=
  { name := entry.get? "name"
    url := entry.get? "url"
    raw := some entry }

/-- What `Object.hasOwn` throws when there is no registry member to read. -/
def missingRegistryError : Thrown :=
  .obj [("message", .str "Cannot convert undefined or null to object")]

/-- What the file says about an issuer.  Only own members count; without a
registry member, reading it throws. -/
def dccLegacyAnswer (body : Json) (did : String) : Except Thrown HandlerResult :=
  match body.get? "registry" with
  | none | some .null => .error missingRegistryError
  | some registry =>
      match registry.get? did with
      | none | some .null => .ok .notFound
      | some entry => .ok (.found (some (dccLegacyEntity entry)))

/-- Fetch the file; none if there is no usable one. -/
def fetchDccLegacyRegistry (url : String) : Async (Option (Json × ℚ)) := do
  let fetched ← ask (.httpGet url)
  match fetched with
  | .error _ => pure none
  | .ok result =>
      if !result.isOk then pure none
      else
        match result.body with
        | none => pure none
        | some json =>
            if !isDccLegacyRegistryBody (some json) then pure none
            else pure (some (json, resolveTtl [parseCacheControlMaxAge result.headers]))

/-- Look a DID up in the file of a registry. -/
def lookupDccLegacyForRegistry (did url : String) : Async (Except Thrown HandlerResult) := do
  let cached ← ask (.cacheGet (cacheKeyForDccLegacyUrl url))
  match cachedDocument cached with
  | some body => pure (dccLegacyAnswer body did)
  | none => do
      let loaded ← fetchDccLegacyRegistry url
      match loaded with
      | none => pure (.ok .unchecked)
      | some (body, ttlMs) => do
          let _ ← ask (.cacheSet (cacheKeyForDccLegacyUrl url) (.json body)
            ((ttlMs : WithTop ℚ) : Num))
          pure (dccLegacyAnswer body did)

/-- The handler of the legacy registries. -/
def lookupDccLegacy : RegistryHandler := fun did registry _ =>
  match registry with
  | .dccLegacy _ url => lookupDccLegacyForRegistry did url
  | _ => pure (.ok .unchecked)

/-! ## Fetched files -/

/-- A file that was fetched is the body of the response, with the lifetime the
response's headers resolve to. -/
theorem executes_fetchDccLegacyRegistry {url : String} {trace : List PortEvent}
    {loaded : Option (Json × ℚ)} (h : Executes (fetchDccLegacyRegistry url) trace loaded) :
    ∃ fetched, trace = [⟨.httpGet url, fetched⟩] ∧ ∀ body ttlMs, loaded = some (body, ttlMs) →
      ∃ result, fetched = .ok result ∧ result.body = some body ∧
        ttlMs = resolveTtl [parseCacheControlMaxAge result.headers] := by
  rcases executes_ask_bind_iff.mp h with ⟨fetched, rest, rfl, hrest⟩
  cases fetched with
  | error error =>
      rcases executes_pure_iff.mp hrest with ⟨rfl, rfl⟩
      exact ⟨_, rfl, by simp⟩
  | ok result =>
      dsimp only at hrest
      split_ifs at hrest
      · rcases executes_pure_iff.mp hrest with ⟨rfl, rfl⟩
        exact ⟨_, rfl, by simp⟩
      · split at hrest
        · rcases executes_pure_iff.mp hrest with ⟨rfl, rfl⟩
          exact ⟨_, rfl, by simp⟩
        · rename_i json hbody
          split_ifs at hrest
          · rcases executes_pure_iff.mp hrest with ⟨rfl, rfl⟩
            exact ⟨_, rfl, by simp⟩
          · rcases executes_pure_iff.mp hrest with ⟨rfl, rfl⟩
            refine ⟨_, rfl, ?_⟩
            intro body ttlMs hloaded
            cases hloaded
            exact ⟨result, rfl, hbody, rfl⟩

theorem confined_fetchDccLegacyRegistry (url : String) :
    (fetchDccLegacyRegistry url).Confined Port.LeavesCache := by
  apply Confined.bind (confined_perform trivial)
  intro fetched
  cases fetched with
  | error error => exact confined_pure _
  | ok result =>
      dsimp only
      split_ifs
      · exact confined_pure _
      · split
        · exact confined_pure _
        · split_ifs
          · exact confined_pure _
          · exact confined_pure _

/-- The handler writes to the cache under its own keys only. -/
theorem confined_lookupDccLegacy (did : String) (registry : EntityIdentityRegistry)
    (context : RegistryHandlerContext) :
    (lookupDccLegacy did registry context).Confined (Port.WritesIn .dccLegacy) := by
  cases registry with
  | oidf | vcRecognition => exact confined_pure _
  | dccLegacy name url =>
      apply Confined.bind (confined_perform (Port.writesIn_cacheGet _ _))
      intro cached
      split
      · exact confined_pure _
      · apply Confined.bind ((confined_fetchDccLegacyRegistry url).mono
          fun _ => Port.writesIn_of_leavesCache)
        intro loaded
        cases loaded with
        | none => exact confined_pure _
        | some loaded =>
            apply Confined.bind (confined_perform (Port.writesIn_cacheSet ⟨url, rfl⟩ _ _))
            intro stored
            exact confined_pure _

end VerifierCore
