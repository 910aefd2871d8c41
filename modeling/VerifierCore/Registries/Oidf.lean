import VerifierCore.Registries.CacheTtl
import VerifierCore.Registries.Handler
import VerifierCore.Registries.Jws

/-!
# OpenID Federation lookup

The trust anchor's entity configuration names the keys and the endpoint; the
issuer's subordinate statement comes from that endpoint and is verified under
those keys.  Only the tokens are cached, so each is verified again whenever it is
read.

Main results:

- Theorem {lit}`verifyEntityConfiguration_eq_some_iff` and
  {lit}`verifySubordinateStatement_eq_some_iff`: the statements that are accepted.
- Theorem {lit}`lookupOidf_found`: what a match in a registry rests on.
- Theorem {lit}`resolvesOn_lookupOidf`: the runs of a lookup that return an answer.
-/

namespace VerifierCore

open Foundations Program

/-! ## Statements -/

/-- The `typ` every entity statement header must carry. -/
def entityStatementTyp : String :=
  "entity-statement+jwt"

/-- The parts of a verified entity configuration the lookup needs. -/
structure VerifiedEntityConfiguration where
  entityId : String
  jwks : Option Json
  fetchEndpoint : String
  exp : Num
deriving DecidableEq

/-- A fetched statement body as a compact JWS.  Coercing it to a string can
throw. -/
def bodyToJwt (platform : Platform) (body : Option Json) : Except Thrown String :=
  match body with
  | none | some .null => .ok (trim "")
  | some value => (platform.coerceToString value).map trim

/-- The seconds since the epoch a claim states.  A string of decimal digits is
accepted as well as a number. -/
def numericDate? (exp : Option Json) : Option Num :=
  match exp with
  | some (.str text) => digitString? text
  | some (.num n) => some n
  | _ => none

/-- `exp` as seconds since the epoch, when it is in the future. -/
def unexpiredNumericDate (exp : Option Json) (nowMs : ℚ) : Option Num :=
  (numericDate? exp).filter fun seconds => ((nowMs : WithTop ℚ) : Num) < thousandfold seconds

/-- Cache lifetime from `Cache-Control` or the default, but never past the
statement's own `exp`. -/
def ttlBoundedByExp (headers : List (String × String)) (exp : Num) (nowMs : ℚ) : Num :=
  min ((resolveTtl [parseCacheControlMaxAge headers] : WithTop ℚ) : Num)
    (thousandfold exp + ((-nowMs : ℚ) : WithTop ℚ))

/-- The federation fetch endpoint of a decoded statement, if it is a non-empty
string. -/
def getFederationFetchEndpoint (decoded : Json) : Option String :=
  let endpoint := ((decoded.get? "metadata").bind (Json.get? · "federation_entity")).bind
    (Json.get? · "federation_fetch_endpoint")
  (asString endpoint).filter fun text => text ≠ ""

/-- The cache key of an entity configuration. -/
def cacheKeyForOidfEntityConfig (trustAnchorEcUrl : String) : String :=
  "oidf:ec:" ++ trustAnchorEcUrl

/-- The cache key of a subordinate statement. -/
def cacheKeyForOidfLookup (lookupUrl : String) : String :=
  "oidf:lookup:" ++ lookupUrl

/-- Verify a self-signed entity configuration: under the keys it carries itself,
with equal `iss` and `sub`, an unexpired `exp` and a fetch endpoint. -/
def verifyEntityConfiguration (platform : Platform) (jwt : String) (nowMs : ℚ) :
    Option VerifiedEntityConfiguration :=
  match jwtDecodePayload platform jwt with
  | none => none
  | some unverified =>
      match verifyJws platform jwt (unverified.get? "jwks") (some entityStatementTyp) with
      | .invalid _ => none
      | .valid payload =>
          match payload.get? "iss", unexpiredNumericDate (payload.get? "exp") nowMs with
          | some (.str iss), some exp =>
              if payload.get? "sub" ≠ some (.str iss) then none
              else
                match getFederationFetchEndpoint payload with
                | none => none
                | some fetchEndpoint =>
                    some
                      { entityId := iss
                        jwks := payload.get? "jwks"
                        fetchEndpoint := fetchEndpoint
                        exp := exp }
          | _, _ => none

/-- Verify a subordinate statement about `did` under the anchor's keys; its
`exp` if it is accepted. -/
def verifySubordinateStatement (platform : Platform) (jwt : String)
    (ec : VerifiedEntityConfiguration) (did : String) (nowMs : ℚ) : Option Num :=
  match verifyJws platform jwt ec.jwks (some entityStatementTyp) with
  | .invalid _ => none
  | .valid payload =>
      if payload.get? "iss" ≠ some (.str ec.entityId) ∨ payload.get? "sub" ≠ some (.str did) then
        none
      else unexpiredNumericDate (payload.get? "exp") nowMs

/-! ## Lookup -/

/-- The non-empty string a cached value is, if it is one. -/
def cachedJwt (cached : Option CacheValue) : Option String :=
  (asString (cached.map CacheValue.document)).filter fun text => text ≠ ""

/-- Fetch the anchor's configuration; a token that verifies is cached. -/
def fetchEntityConfiguration (platform : Platform) (trustAnchorEcUrl : String) (nowMs : ℚ) :
    Async (Except Thrown (Option VerifiedEntityConfiguration)) := do
  let fetched ← ask (.httpGet trustAnchorEcUrl)
  match fetched with
  | .error _ => pure (.ok none)
  | .ok result =>
      if !result.isOk then pure (.ok none)
      else
        match bodyToJwt platform result.body with
        | .error error => pure (.error error)
        | .ok jwt =>
            match verifyEntityConfiguration platform jwt nowMs with
            | none => pure (.ok none)
            | some ec => do
                let _ ← ask (.cacheSet (cacheKeyForOidfEntityConfig trustAnchorEcUrl)
                  (.json (.str jwt)) (ttlBoundedByExp result.headers ec.exp nowMs))
                pure (.ok (some ec))

/-- The trust anchor's verified entity configuration, from the cache or a fresh
fetch. -/
def getVerifiedEntityConfiguration (platform : Platform) (trustAnchorEcUrl : String)
    (nowMs : ℚ) : Async (Except Thrown (Option VerifiedEntityConfiguration)) := do
  let cached ← ask (.cacheGet (cacheKeyForOidfEntityConfig trustAnchorEcUrl))
  match (cachedJwt cached).bind fun jwt => verifyEntityConfiguration platform jwt nowMs with
  | some ec => pure (.ok (some ec))
  -- A cached token that no longer verifies is fetched again.
  | none => fetchEntityConfiguration platform trustAnchorEcUrl nowMs

/-- Fetch the subordinate statement; a token that verifies is cached. -/
def fetchSubordinateStatement (platform : Platform) (lookupUrl : String)
    (ec : VerifiedEntityConfiguration) (did : String) (nowMs : ℚ) :
    Async (Except Thrown HandlerResult) := do
  let fetched ← ask (.httpGet lookupUrl)
  match fetched with
  | .error _ => pure (.ok .unchecked)
  | .ok result =>
      if result.status = 404 then pure (.ok .notFound)
      else if !result.isOk then pure (.ok .unchecked)
      else
        match bodyToJwt platform result.body with
        | .error error => pure (.error error)
        | .ok issuerJwt =>
            match verifySubordinateStatement platform issuerJwt ec did nowMs with
            | none => pure (.ok .unchecked)
            | some exp => do
                let _ ← ask (.cacheSet (cacheKeyForOidfLookup lookupUrl)
                  (.json (.str issuerJwt)) (ttlBoundedByExp result.headers exp nowMs))
                pure (.ok (.found none))

/-- The issuer's statement, from the cache or a fresh fetch. -/
def lookupSubordinateStatement (platform : Platform) (lookupUrl : String)
    (ec : VerifiedEntityConfiguration) (did : String) (nowMs : ℚ) :
    Async (Except Thrown HandlerResult) := do
  let cached ← ask (.cacheGet (cacheKeyForOidfLookup lookupUrl))
  match (cachedJwt cached).bind fun jwt =>
      verifySubordinateStatement platform jwt ec did nowMs with
  | some _ => pure (.ok (.found none))
  | none => fetchSubordinateStatement platform lookupUrl ec did nowMs

/-- Look a DID up below one trust anchor.  The clock is read once. -/
def lookupOidfForRegistry (platform : Platform) (did trustAnchorEC : String) :
    Async (Except Thrown HandlerResult) := do
  let nowMs ← ask .dateNowMs
  let configured ← getVerifiedEntityConfiguration platform trustAnchorEC nowMs
  match configured with
  | .error error => pure (.error error)
  | .ok none => pure (.ok .unchecked)
  | .ok (some ec) =>
      match platform.urlWithSub ec.fetchEndpoint did with
      | none => pure (.ok .unchecked)
      | some lookupUrl => lookupSubordinateStatement platform lookupUrl ec did nowMs

/-- The handler of registries of this type. -/
def lookupOidf : RegistryHandler := fun did registry context =>
  match registry with
  | .oidf _ trustAnchorEC => lookupOidfForRegistry context.platform did trustAnchorEC
  | _ => pure (.ok .unchecked)

/-! ## Statements that are accepted -/

/-- The claim states an expiry that is later than `nowMs`. -/
structure UnexpiredAt (nowMs : ℚ) (claim : Option Json) (exp : Num) : Prop where
  stated : numericDate? claim = some exp
  later : ((nowMs : WithTop ℚ) : Num) < thousandfold exp

/-- A claim is an unexpired date exactly if it is a number of seconds behind the instant. -/
theorem unexpiredNumericDate_eq_some_iff {claim : Option Json} {nowMs : ℚ} {exp : Num} :
    unexpiredNumericDate claim nowMs = some exp ↔ UnexpiredAt nowMs claim exp := by
  simp only [unexpiredNumericDate, Option.filter_eq_some_iff, decide_eq_true_eq]
  constructor
  · intro h
    exact ⟨h.1, h.2⟩
  · intro h
    exact ⟨h.stated, h.later⟩

/-- The token is an entity configuration at `nowMs`: signed under the keys in its
own payload, about its own issuer, unexpired, and naming a fetch endpoint. -/
structure EntityConfigurationAt (platform : Platform) (nowMs : ℚ) (jwt : String)
    (payload : Json) (ec : VerifiedEntityConfiguration) : Prop where
  decoded : jwtDecodePayload platform jwt = some payload
  signed : SignedUnder platform (payload.get? "jwks") (some entityStatementTyp) jwt payload
  issuer : payload.get? "iss" = some (.str ec.entityId)
  subject : payload.get? "sub" = some (.str ec.entityId)
  unexpired : UnexpiredAt nowMs (payload.get? "exp") ec.exp
  endpoint : getFederationFetchEndpoint payload = some ec.fetchEndpoint
  endpoint_ne : ec.fetchEndpoint ≠ ""
  jwks : ec.jwks = payload.get? "jwks"

/-- The token is a subordinate statement about `did` at `nowMs`: signed under the
keys of the configuration, issued by its entity, and unexpired. -/
structure SubordinateStatementAt (platform : Platform) (nowMs : ℚ) (jwt : String)
    (ec : VerifiedEntityConfiguration) (did : String) (payload : Json) (exp : Num) :
    Prop where
  signed : SignedUnder platform ec.jwks (some entityStatementTyp) jwt payload
  issuer : payload.get? "iss" = some (.str ec.entityId)
  subject : payload.get? "sub" = some (.str did)
  unexpired : UnexpiredAt nowMs (payload.get? "exp") exp

/-- A fetch endpoint is never empty. -/
theorem getFederationFetchEndpoint_ne_empty {payload : Json} {endpoint : String}
    (h : getFederationFetchEndpoint payload = some endpoint) : endpoint ≠ "" := by
  unfold getFederationFetchEndpoint at h
  simpa using (Option.filter_eq_some_iff.mp h).2

/-- The configurations that are accepted.  The keys are read before the
signature is checked, but from the payload the signature is over. -/
theorem verifyEntityConfiguration_eq_some_iff {platform : Platform} {jwt : String} {nowMs : ℚ}
    {ec : VerifiedEntityConfiguration} :
    verifyEntityConfiguration platform jwt nowMs = some ec ↔
      ∃ payload, EntityConfigurationAt platform nowMs jwt payload ec := by
  unfold verifyEntityConfiguration
  constructor
  · intro h
    cases hdecoded : jwtDecodePayload platform jwt with
    | none => simp [hdecoded] at h
    | some unverified =>
        simp only [hdecoded] at h
        split at h
        · cases h
        · rename_i payload hvalid
          have hsame := jwtDecodePayload_of_verifyJws hvalid
          rw [hdecoded, Option.some.injEq] at hsame
          subst hsame
          split at h
          · rename_i iss exp hiss hexp
            split_ifs at h with hsub
            cases hendpoint : getFederationFetchEndpoint unverified with
            | none => simp [hendpoint] at h
            | some endpoint =>
                simp only [hendpoint, Option.some.injEq] at h
                subst h
                exact ⟨unverified, hdecoded, verifyJws_valid_iff.mp hvalid, hiss,
                  not_not.mp hsub, unexpiredNumericDate_eq_some_iff.mp hexp, hendpoint,
                  getFederationFetchEndpoint_ne_empty hendpoint, rfl⟩
          · cases h
  · intro h
    rcases h with ⟨payload, hdecoded, hsigned, hiss, hsub, hexp, hendpoint, _, hjwks⟩
    have hvalid := verifyJws_valid_iff.mpr hsigned
    have hunexpired := unexpiredNumericDate_eq_some_iff.mpr hexp
    cases ec with
    | mk entityId jwks fetchEndpoint exp =>
        subst hjwks
        simp [hdecoded, hvalid, hiss, hunexpired, hsub, hendpoint]

/-- The subordinate statements that are accepted. -/
theorem verifySubordinateStatement_eq_some_iff {platform : Platform} {jwt : String}
    {ec : VerifiedEntityConfiguration} {did : String} {nowMs : ℚ} {exp : Num} :
    verifySubordinateStatement platform jwt ec did nowMs = some exp ↔
      ∃ payload, SubordinateStatementAt platform nowMs jwt ec did payload exp := by
  unfold verifySubordinateStatement
  constructor
  · intro h
    split at h
    · cases h
    · rename_i payload hvalid
      split_ifs at h with hclaims
      rw [not_or, not_not, not_not] at hclaims
      exact ⟨payload, verifyJws_valid_iff.mp hvalid, hclaims.1, hclaims.2,
        unexpiredNumericDate_eq_some_iff.mp h⟩
  · intro h
    rcases h with ⟨payload, hsigned, hiss, hsub, hexp⟩
    have hvalid := verifyJws_valid_iff.mpr hsigned
    simp only [hvalid, hiss, hsub]
    simpa using unexpiredNumericDate_eq_some_iff.mpr hexp

/-! ## Runs of a lookup -/

/-- Where a lookup has a token from: the cache under the key, or a response from
the URL. -/
def Obtained (platform : Platform) (trace : List PortEvent) (key url jwt : String) : Prop :=
  (∃ value, ⟨.cacheGet key, some value⟩ ∈ trace ∧ value.document = .str jwt ∧ jwt ≠ "") ∨
    ∃ result, ⟨.httpGet url, .ok result⟩ ∈ trace ∧ result.isOk = true ∧
      bodyToJwt platform result.body = .ok jwt

/-- A token is read from the cache exactly if a string was stored that is not empty. -/
theorem cachedJwt_eq_some_iff {cached : Option CacheValue} {jwt : String} :
    cachedJwt cached = some jwt ↔
      ∃ value, cached = some value ∧ value.document = .str jwt ∧ jwt ≠ "" := by
  cases cached with
  | none => simp [cachedJwt, asString]
  | some value =>
      have hstring : asString (some value.document) = some jwt ↔ value.document = .str jwt := by
        cases value.document <;> simp [asString]
      simp [cachedJwt, Option.filter_eq_some_iff, hstring]

/-- The events of a token that was fetched from the URL and stored under the
key. -/
def Fetched (platform : Platform) (trace : List PortEvent) (key url jwt : String) : Prop :=
  ∃ cached result ttlMs, trace = [⟨.cacheGet key, cached⟩, ⟨.httpGet url, .ok result⟩,
      ⟨.cacheSet key (.json (.str jwt)) ttlMs, ()⟩] ∧
    result.isOk = true ∧ bodyToJwt platform result.body = .ok jwt

/-- The events of a token that was read under the key. -/
def ReadFromCache (trace : List PortEvent) (key jwt : String) : Prop :=
  ∃ value, trace = [⟨.cacheGet key, some value⟩] ∧ value.document = .str jwt ∧ jwt ≠ ""

/-- What was fetched was obtained. -/
theorem Fetched.obtained {platform : Platform} {trace : List PortEvent} {key url jwt : String}
    (h : Fetched platform trace key url jwt) : Obtained platform trace key url jwt := by
  rcases h with ⟨cached, result, ttlMs, rfl, hok, hbody⟩
  exact .inr ⟨result, by simp, hok, hbody⟩

/-- A token that was read from the cache was obtained. -/
theorem ReadFromCache.obtained {platform : Platform} {trace : List PortEvent}
    {key url jwt : String} (h : ReadFromCache trace key jwt) :
    Obtained platform trace key url jwt := by
  rcases h with ⟨value, rfl, hdocument, hne⟩
  exact .inl ⟨value, by simp, hdocument, hne⟩

/-- What was obtained in fewer events was obtained in more. -/
theorem Obtained.mono {platform : Platform} {trace trace' : List PortEvent}
    {key url jwt : String} (h : Obtained platform trace key url jwt)
    (hsubset : trace ⊆ trace') : Obtained platform trace' key url jwt := by
  rcases h with ⟨value, hmem, hvalue⟩ | ⟨result, hmem, hresult⟩
  · exact .inl ⟨value, hsubset hmem, hvalue⟩
  · exact .inr ⟨result, hsubset hmem, hresult⟩

/-! ### Tokens that are read -/

/-- A token that a lookup reads: where it is served and cached, how it is verified, and
what the lookup goes on with. -/
structure TokenSource (α β : Type) where
  url : String
  key : String
  verify : String → Option α
  exp : α → Num
  accepted : α → β
  missed : Except Thrown HttpGetResult → β

namespace TokenSource

variable {α β : Type}

/-- Fetch the token; one that verifies is cached. -/
def fetch (source : TokenSource α β) (platform : Platform) (nowMs : ℚ) :
    Async (Except Thrown β) := do
  let fetched ← ask (.httpGet source.url)
  match fetched with
  | .error _ => pure (.ok (source.missed fetched))
  | .ok result =>
      if !result.isOk then pure (.ok (source.missed fetched))
      else
        match bodyToJwt platform result.body with
        | .error error => pure (.error error)
        | .ok jwt =>
            match source.verify jwt with
            | none => pure (.ok (source.missed fetched))
            | some a => do
                let _ ← ask (.cacheSet source.key (.json (.str jwt))
                  (ttlBoundedByExp result.headers (source.exp a) nowMs))
                pure (.ok (source.accepted a))

/-- Read the token from the cache, or fetch it. -/
def read (source : TokenSource α β) (platform : Platform) (nowMs : ℚ) :
    Async (Except Thrown β) := do
  let cached ← ask (.cacheGet source.key)
  match (cachedJwt cached).bind source.verify with
  | some a => pure (.ok (source.accepted a))
  | none => source.fetch platform nowMs

/-- What reading a token can do: the token is cached, or it is fetched, and then it is
stored unless the fetch misses it or its body cannot be coerced. -/
inductive ReadRun (source : TokenSource α β) (platform : Platform) (nowMs : ℚ) :
    List PortEvent → Except Thrown β → Prop
  | cached {value : CacheValue} {jwt : String} {a : α} (hvalue : value.document = .str jwt)
      (hne : jwt ≠ "") (hverified : source.verify jwt = some a) :
      ReadRun source platform nowMs [⟨.cacheGet source.key, some value⟩]
        (.ok (source.accepted a))
  | missed (cached : Option CacheValue) (fetched : Except Thrown HttpGetResult) :
      ReadRun source platform nowMs [⟨.cacheGet source.key, cached⟩, ⟨.httpGet source.url, fetched⟩]
        (.ok (source.missed fetched))
  | threw (cached : Option CacheValue) (fetched : Except Thrown HttpGetResult) (error : Thrown) :
      ReadRun source platform nowMs [⟨.cacheGet source.key, cached⟩, ⟨.httpGet source.url, fetched⟩]
        (.error error)
  | stored (cached : Option CacheValue) {result : HttpGetResult} {jwt : String} {a : α}
      (hok : result.isOk = true) (hbody : bodyToJwt platform result.body = .ok jwt)
      (hverified : source.verify jwt = some a) :
      ReadRun source platform nowMs
        [⟨.cacheGet source.key, cached⟩, ⟨.httpGet source.url, .ok result⟩,
          ⟨.cacheSet source.key (.json (.str jwt))
            (ttlBoundedByExp result.headers (source.exp a) nowMs), ()⟩]
        (.ok (source.accepted a))

/-- What a source returns was obtained by its run. -/
theorem readRun {source : TokenSource α β} {platform : Platform} {nowMs : ℚ}
    {trace : List PortEvent} {outcome : Except Thrown β}
    (h : Executes (source.read platform nowMs) trace outcome) :
    source.ReadRun platform nowMs trace outcome := by
  rcases executes_ask_bind_iff.mp h with ⟨cached, rest, rfl, hrest⟩
  split at hrest
  · rename_i a hread
    rcases executes_pure_iff.mp hrest with ⟨rfl, rfl⟩
    rcases Option.bind_eq_some_iff.mp hread with ⟨jwt, hjwt, hverified⟩
    rcases cachedJwt_eq_some_iff.mp hjwt with ⟨value, rfl, hvalue, hne⟩
    exact .cached hvalue hne hverified
  · rcases executes_ask_bind_iff.mp hrest with ⟨fetched, answered, rfl, hfetched⟩
    cases fetched with
    | error error =>
        rcases executes_pure_iff.mp hfetched with ⟨rfl, rfl⟩
        exact .missed _ _
    | ok result =>
        dsimp only at hfetched
        by_cases hok : result.isOk = true
        · rw [if_neg (by simp [hok])] at hfetched
          cases hbody : bodyToJwt platform result.body with
          | error error =>
              simp only [hbody] at hfetched
              rcases executes_pure_iff.mp hfetched with ⟨rfl, rfl⟩
              exact .threw _ _ _
          | ok jwt =>
              simp only [hbody] at hfetched
              cases hverified : source.verify jwt with
              | none =>
                  simp only [hverified] at hfetched
                  rcases executes_pure_iff.mp hfetched with ⟨rfl, rfl⟩
                  exact .missed _ _
              | some a =>
                  simp only [hverified] at hfetched
                  rcases executes_ask_bind_iff.mp hfetched with ⟨stored, last, rfl, hlast⟩
                  rcases executes_pure_iff.mp hlast with ⟨rfl, rfl⟩
                  exact .stored _ hok hbody hverified
        · rw [if_pos (by simp [hok])] at hfetched
          rcases executes_pure_iff.mp hfetched with ⟨rfl, rfl⟩
          exact .missed _ _

/-- A token in hand was verified, and was cached or fetched and stored. -/
theorem ReadRun.verified {source : TokenSource α β} {platform : Platform} {nowMs : ℚ}
    {trace : List PortEvent} {b : β} (h : source.ReadRun platform nowMs trace (.ok b))
    (hmissed : ∀ fetched, source.missed fetched ≠ b) :
    ∃ jwt a, source.verify jwt = some a ∧ source.accepted a = b ∧
      (ReadFromCache trace source.key jwt ∨ Fetched platform trace source.key source.url jwt) := by
  cases h with
  | @cached value jwt a hvalue hne hverified =>
      exact ⟨jwt, a, hverified, rfl, .inl ⟨value, rfl, hvalue, hne⟩⟩
  | missed _ fetched => exact absurd rfl (hmissed fetched)
  | @stored cached result jwt a hok hbody hverified =>
      exact ⟨jwt, a, hverified, rfl, .inr ⟨cached, result, _, rfl, hok, hbody⟩⟩

end TokenSource

/-- The anchor's configuration. -/
def entityConfigurationSource (platform : Platform) (trustAnchorEcUrl : String) (nowMs : ℚ) :
    TokenSource VerifiedEntityConfiguration (Option VerifiedEntityConfiguration) where
  url := trustAnchorEcUrl
  key := cacheKeyForOidfEntityConfig trustAnchorEcUrl
  verify jwt := verifyEntityConfiguration platform jwt nowMs
  exp ec := ec.exp
  accepted := some
  missed _ := none

/-- The entity configuration is read from its source. -/
theorem getVerifiedEntityConfiguration_eq (platform : Platform) (url : String) (nowMs : ℚ) :
    getVerifiedEntityConfiguration platform url nowMs =
      (entityConfigurationSource platform url nowMs).read platform nowMs := by
  have hfetch : fetchEntityConfiguration platform url nowMs =
      (entityConfigurationSource platform url nowMs).fetch platform nowMs := by
    refine congrArg (ask (.httpGet url) >>= ·) (funext fun fetched => ?_)
    cases fetched with
    | error error => rfl
    | ok result =>
        dsimp only [entityConfigurationSource]
        split_ifs
        · rfl
        · cases bodyToJwt platform result.body with
          | error error => rfl
          | ok jwt =>
              dsimp only
              cases verifyEntityConfiguration platform jwt nowMs <;> rfl
  refine congrArg (ask (.cacheGet (cacheKeyForOidfEntityConfig url)) >>= ·) (funext fun cached => ?_)
  rw [hfetch]
  dsimp only [entityConfigurationSource]
  cases (cachedJwt cached).bind fun jwt => verifyEntityConfiguration platform jwt nowMs with
  | none => rfl
  | some ec => rfl

/-- The issuer's statement.  Only an endpoint that answers so denies the issuer. -/
def subordinateStatementSource (platform : Platform) (lookupUrl : String)
    (ec : VerifiedEntityConfiguration) (did : String) (nowMs : ℚ) :
    TokenSource Num HandlerResult where
  url := lookupUrl
  key := cacheKeyForOidfLookup lookupUrl
  verify jwt := verifySubordinateStatement platform jwt ec did nowMs
  exp exp := exp
  accepted _ := .found none
  missed fetched :=
    match fetched with
    | .ok result => if result.status = 404 then .notFound else .unchecked
    | .error _ => .unchecked

/-- A success is no 404. -/
theorem HttpGetResult.status_ne_404 {result : HttpGetResult} (h : result.isOk = true) :
    result.status ≠ 404 := by
  intro hstatus
  simp [HttpGetResult.isOk, hstatus] at h

/-- The lookup of a subordinate statement is a read through the source of such statements. -/
theorem lookupSubordinateStatement_eq (platform : Platform) (url : String)
    (ec : VerifiedEntityConfiguration) (did : String) (nowMs : ℚ) :
    lookupSubordinateStatement platform url ec did nowMs =
      (subordinateStatementSource platform url ec did nowMs).read platform nowMs := by
  have hfetch : fetchSubordinateStatement platform url ec did nowMs =
      (subordinateStatementSource platform url ec did nowMs).fetch platform nowMs := by
    refine congrArg (ask (.httpGet url) >>= ·) (funext fun fetched => ?_)
    cases fetched with
    | error error => rfl
    | ok result =>
        by_cases hok : result.isOk = true
        · simp only [hok, result.status_ne_404 hok, subordinateStatementSource, if_false,
            Bool.not_true, Bool.false_eq_true]
          cases bodyToJwt platform result.body with
          | error error => rfl
          | ok jwt =>
              dsimp only
              cases verifySubordinateStatement platform jwt ec did nowMs <;> rfl
        · simp only [hok, subordinateStatementSource, Bool.not_false, if_true]
          split_ifs
          · rfl
          · rfl
  refine congrArg (ask (.cacheGet (cacheKeyForOidfLookup url)) >>= ·) (funext fun cached => ?_)
  rw [hfetch]
  dsimp only [subordinateStatementSource]
  cases (cachedJwt cached).bind fun jwt => verifySubordinateStatement platform jwt ec did nowMs with
  | none => rfl
  | some exp => rfl

/-- A configuration in hand was read from the cache or fetched and stored, and is
one at the lookup's clock reading. -/
theorem executes_getVerifiedEntityConfiguration {platform : Platform} {url : String} {nowMs : ℚ}
    {trace : List PortEvent} {ec : VerifiedEntityConfiguration}
    (h : Executes (getVerifiedEntityConfiguration platform url nowMs) trace (.ok (some ec))) :
    ∃ jwt payload, EntityConfigurationAt platform nowMs jwt payload ec ∧
      (ReadFromCache trace (cacheKeyForOidfEntityConfig url) jwt ∨
        Fetched platform trace (cacheKeyForOidfEntityConfig url) url jwt) := by
  rw [getVerifiedEntityConfiguration_eq] at h
  rcases (TokenSource.readRun h).verified (fun _ hnone => by cases hnone) with
    ⟨jwt, read, hverified, haccepted, hobtained⟩
  cases haccepted
  rcases verifyEntityConfiguration_eq_some_iff.mp hverified with ⟨payload, hpayload⟩
  exact ⟨jwt, payload, hpayload, hobtained⟩

/-- The statement that makes the issuer a member was read from the cache or
fetched and stored, and is one at the lookup's clock reading. -/
theorem executes_lookupSubordinateStatement {platform : Platform} {url : String}
    {ec : VerifiedEntityConfiguration} {did : String} {nowMs : ℚ} {trace : List PortEvent}
    {entity : Option RegistryEntity}
    (h : Executes (lookupSubordinateStatement platform url ec did nowMs) trace
      (.ok (.found entity))) :
    ∃ jwt payload exp, SubordinateStatementAt platform nowMs jwt ec did payload exp ∧
      (ReadFromCache trace (cacheKeyForOidfLookup url) jwt ∨
        Fetched platform trace (cacheKeyForOidfLookup url) url jwt) := by
  have hmissed (fetched : Except Thrown HttpGetResult) :
      (subordinateStatementSource platform url ec did nowMs).missed fetched ≠ .found entity := by
    dsimp only [subordinateStatementSource]
    split
    · split_ifs <;> simp
    · simp
  rw [lookupSubordinateStatement_eq] at h
  rcases (TokenSource.readRun h).verified hmissed with ⟨jwt, exp, hverified, _, hobtained⟩
  rcases verifySubordinateStatement_eq_some_iff.mp hverified with ⟨payload, hpayload⟩
  exact ⟨jwt, payload, exp, hpayload, hobtained⟩

/-! ## Membership -/

/-- An entity configuration under the anchor and a subordinate statement about `did`
below it, both valid at `nowMs` and both obtained along the trace. -/
structure OidfEvidence (platform : Platform) (trace : List PortEvent) (trustAnchorEC : String)
    (did : String) (nowMs : ℚ) (ec : VerifiedEntityConfiguration) (exp : Num) : Prop where
  configuration : ∃ jwt payload, EntityConfigurationAt platform nowMs jwt payload ec ∧
    Obtained platform trace (cacheKeyForOidfEntityConfig trustAnchorEC) trustAnchorEC jwt
  statement : ∃ lookupUrl jwt payload, platform.urlWithSub ec.fetchEndpoint did = some lookupUrl ∧
    SubordinateStatementAt platform nowMs jwt ec did payload exp ∧
    Obtained platform trace (cacheKeyForOidfLookup lookupUrl) lookupUrl jwt

/-- What a match in a registry rests on: a reading of the clock, and evidence that is
valid at it. -/
structure OidfMembership (platform : Platform) (trace : List PortEvent) (trustAnchorEC : String)
    (did : String) (nowMs : ℚ) (ec : VerifiedEntityConfiguration) (exp : Num) : Prop
    extends OidfEvidence platform trace trustAnchorEC did nowMs ec exp where
  reading : ⟨.dateNowMs, nowMs⟩ ∈ trace

/-- A membership that rests on fewer events rests on more. -/
theorem OidfMembership.mono {platform : Platform} {trace trace' : List PortEvent}
    {trustAnchorEC did : String} {nowMs : ℚ} {ec : VerifiedEntityConfiguration} {exp : Num}
    (h : OidfMembership platform trace trustAnchorEC did nowMs ec exp)
    (hsubset : trace ⊆ trace') :
    OidfMembership platform trace' trustAnchorEC did nowMs ec exp := by
  rcases h with ⟨⟨⟨ecJwt, ecPayload, hec, hobtained⟩,
    ⟨lookupUrl, jwt, payload, hurl, hstatement, hsource⟩⟩, hreading⟩
  exact ⟨⟨⟨ecJwt, ecPayload, hec, hobtained.mono hsubset⟩,
    ⟨lookupUrl, jwt, payload, hurl, hstatement, hsource.mono hsubset⟩⟩, hsubset hreading⟩

/-- A lookup that finds the issuer under an anchor rests on a membership. -/
theorem membership_of_lookupOidfForRegistry {platform : Platform} {did trustAnchorEC : String}
    {trace : List PortEvent} {entity : Option RegistryEntity}
    (h : Executes (lookupOidfForRegistry platform did trustAnchorEC) trace
      (.ok (.found entity))) :
    ∃ nowMs ec exp, OidfMembership platform trace trustAnchorEC did nowMs ec exp := by
  rcases executes_ask_bind_iff.mp h with ⟨nowMs, rest, rfl, hrest⟩
  rcases executes_bind_iff.mp hrest with ⟨configured, looked, outcome, rfl, hconfigured, hlooked⟩
  cases outcome with
  | error error => simp at hlooked
  | ok verified =>
      cases verified with
      | none => simp at hlooked
      | some ec =>
          dsimp only at hlooked
          cases hurl : platform.urlWithSub ec.fetchEndpoint did with
          | none => simp [hurl] at hlooked
          | some lookupUrl =>
              simp only [hurl] at hlooked
              rcases executes_getVerifiedEntityConfiguration hconfigured with
                ⟨ecJwt, ecPayload, hec, hobtained⟩
              rcases executes_lookupSubordinateStatement hlooked with
                ⟨jwt, payload, exp, hstatement, hsource⟩
              have hobtainedEc : Obtained platform configured
                  (cacheKeyForOidfEntityConfig trustAnchorEC) trustAnchorEC ecJwt :=
                hobtained.elim ReadFromCache.obtained Fetched.obtained
              have hobtainedJwt : Obtained platform looked (cacheKeyForOidfLookup lookupUrl)
                  lookupUrl jwt :=
                hsource.elim ReadFromCache.obtained Fetched.obtained
              refine ⟨nowMs, ec, exp, ⟨⟨ecJwt, ecPayload, hec, ?_⟩,
                ⟨lookupUrl, jwt, payload, hurl, hstatement, ?_⟩⟩, by simp⟩
              · exact hobtainedEc.mono (by simp)
              · exact hobtainedJwt.mono (by simp)

/-- Whatever the cache holds and the endpoints answer, only an `oidf` registry
lists an issuer, and only on a membership. -/
theorem lookupOidf_found {did : String} {registry : EntityIdentityRegistry}
    {context : RegistryHandlerContext} {trace : List PortEvent}
    {entity : Option RegistryEntity}
    (h : Executes (lookupOidf did registry context) trace (.ok (.found entity))) :
    ∃ name trustAnchorEC nowMs ec exp, registry = .oidf name trustAnchorEC ∧
      OidfMembership context.platform trace trustAnchorEC did nowMs ec exp := by
  cases registry with
  | oidf name trustAnchorEC =>
      rcases membership_of_lookupOidfForRegistry h with ⟨nowMs, ec, exp, hmembership⟩
      exact ⟨name, trustAnchorEC, nowMs, ec, exp, rfl, hmembership⟩
  | dccLegacy | vcRecognition => simp [lookupOidf] at h

/-! ## Lookups that resolve -/

/-- A response that is not a success, or whose body can be coerced to a string. -/
def BodyCoerces (event : PortEvent) : Prop :=
  ∀ url result, event = ⟨.httpGet url, .ok result⟩ → result.isOk = true →
    result.body.any Platform.shadowsToString = false

/-- Only a response has a body that may not be coerced. -/
theorem bodyCoerces_of_not_response {event : PortEvent}
    (h : ∀ url result, event ≠ ⟨.httpGet url, .ok result⟩) : BodyCoerces event := by
  intro url result heq
  exact absurd heq (h url result)

/-- A response's body can be coerced exactly if it shadows no `toString`, or the response is an
error. -/
theorem bodyCoerces_response_iff {url : String} {result : HttpGetResult} :
    BodyCoerces ⟨.httpGet url, .ok result⟩ ↔
      (result.isOk = true → result.body.any Platform.shadowsToString = false) := by
  constructor
  · intro h
    exact h url result rfl
  · intro h url' result' heq
    cases heq
    exact h

/-- A body is read as a token unless coercing it throws. -/
theorem bodyToJwt_isOk (platform : Platform) (body : Option Json) :
    (bodyToJwt platform body).isOk = !body.any Platform.shadowsToString := by
  cases body with
  | none => rfl
  | some value =>
      have hvalue := Platform.coerceToString_isOk platform value
      cases value with
      | null => rfl
      | bool | num | str | arr | obj =>
          rw [bodyToJwt, Option.any_some, ← hvalue]
          · cases platform.coerceToString _ <;> rfl
          all_goals simp

/-- A body that became a token was coerced. -/
theorem bodyCoerces_of_bodyToJwt_ok {platform : Platform} {url : String}
    {result : HttpGetResult} {jwt : String} (h : bodyToJwt platform result.body = .ok jwt) :
    BodyCoerces ⟨.httpGet url, .ok result⟩ := by
  have hread := bodyToJwt_isOk platform result.body
  rw [h, eq_comm, Bool.not_eq_eq_eq_not] at hread
  exact bodyCoerces_response_iff.mpr fun _ => hread

/-- A body that threw could not be coerced. -/
theorem not_bodyCoerces_of_bodyToJwt_error {platform : Platform} {url : String}
    {result : HttpGetResult} {error : Thrown} (hok : result.isOk = true)
    (h : bodyToJwt platform result.body = .error error) :
    ¬BodyCoerces ⟨.httpGet url, .ok result⟩ := by
  have hread := bodyToJwt_isOk platform result.body
  rw [h] at hread
  intro hcoerces
  rw [bodyCoerces_response_iff.mp hcoerces hok] at hread
  cases hread

/-- Reading a token gives an outcome unless the body of a success cannot be coerced. -/
theorem TokenSource.resolvesOn_read {α β : Type} (source : TokenSource α β) (platform : Platform)
    (nowMs : ℚ) : ResolvesOn BodyCoerces (source.read platform nowMs) := by
  apply ResolvesOn.perform_bind
  intro cached
  refine .inl ⟨bodyCoerces_of_not_response (by simp), ?_⟩
  split
  · exact resolvesOn_ok _
  · apply ResolvesOn.perform_bind
    intro fetched
    cases fetched with
    | error error => exact .inl ⟨bodyCoerces_of_not_response (by simp), resolvesOn_ok _⟩
    | ok result =>
        by_cases hok : result.isOk = true
        · simp only [hok, Bool.not_true, Bool.false_eq_true, if_false]
          cases hbody : bodyToJwt platform result.body with
          | error error => exact .inr ⟨not_bodyCoerces_of_bodyToJwt_error hok hbody, error, rfl⟩
          | ok jwt =>
              refine .inl ⟨bodyCoerces_of_bodyToJwt_ok hbody, ?_⟩
              dsimp only
              split
              · exact resolvesOn_ok _
              · apply ResolvesOn.perform_bind
                intro stored
                exact .inl ⟨bodyCoerces_of_not_response (by simp), resolvesOn_ok _⟩
        · left
          rw [bodyCoerces_response_iff]
          simp only [hok, Bool.not_false, if_true]
          exact ⟨by simp, resolvesOn_ok _⟩

/-- Whatever the cache holds and the endpoints answer or throw, a lookup returns
an answer unless the body of a success cannot be coerced. -/
theorem resolvesOn_lookupOidf (did : String) (registry : EntityIdentityRegistry)
    (context : RegistryHandlerContext) :
    ResolvesOn BodyCoerces (lookupOidf did registry context) := by
  cases registry with
  | dccLegacy | vcRecognition => exact resolvesOn_ok _
  | oidf name trustAnchorEC =>
      apply ResolvesOn.perform_bind
      intro nowMs
      refine .inl ⟨bodyCoerces_of_not_response (by simp), ?_⟩
      rw [getVerifiedEntityConfiguration_eq]
      apply (TokenSource.resolvesOn_read _ _ _).bind
      · intro configured
        cases configured with
        | none => exact resolvesOn_ok _
        | some ec =>
            dsimp only
            split
            · exact resolvesOn_ok _
            · rw [lookupSubordinateStatement_eq]
              exact TokenSource.resolvesOn_read _ _ _
      · intro error
        rfl

/-! ## What a lookup writes -/

/-- The keys of entity configurations are the handler's own. -/
theorem inNamespace_oidfEntityConfig (url : String) :
    InNamespace .oidf (cacheKeyForOidfEntityConfig url) :=
  ⟨"ec:" ++ url, by simp [cacheKeyForOidfEntityConfig, CacheNamespace.start, ← String.append_assoc]⟩

/-- The keys of subordinate statements are in the namespace of federations. -/
theorem inNamespace_oidfLookup (url : String) : InNamespace .oidf (cacheKeyForOidfLookup url) :=
  ⟨"lookup:" ++ url, by simp [cacheKeyForOidfLookup, CacheNamespace.start, ← String.append_assoc]⟩

/-- Reading a token writes to the cache under its key only. -/
theorem TokenSource.confined_read {α β : Type} {namespace' : CacheNamespace}
    {source : TokenSource α β} (hkey : InNamespace namespace' source.key) (platform : Platform)
    (nowMs : ℚ) : (source.read platform nowMs).Confined (Port.WritesIn namespace') := by
  apply Confined.bind (confined_perform (Port.writesIn_cacheGet _ _))
  intro cached
  split
  · exact confined_pure _
  · apply Confined.bind (confined_perform (Port.writesIn_httpGet _ _))
    intro fetched
    cases fetched with
    | error error => exact confined_pure _
    | ok result =>
        dsimp only
        split_ifs
        · exact confined_pure _
        · split
          · exact confined_pure _
          · split
            · exact confined_pure _
            · apply Confined.bind (confined_perform (Port.writesIn_cacheSet hkey _ _))
              intro stored
              exact confined_pure _

/-- The handler writes to the cache under its own keys only. -/
theorem confined_lookupOidf (did : String) (registry : EntityIdentityRegistry)
    (context : RegistryHandlerContext) :
    (lookupOidf did registry context).Confined (Port.WritesIn .oidf) := by
  cases registry with
  | dccLegacy | vcRecognition => exact confined_pure _
  | oidf name trustAnchorEC =>
      apply Confined.bind (confined_perform (Port.writesIn_dateNowMs _))
      intro nowMs
      rw [getVerifiedEntityConfiguration_eq]
      apply Confined.bind
        (TokenSource.confined_read (inNamespace_oidfEntityConfig trustAnchorEC) _ _)
      intro configured
      split
      · exact confined_pure _
      · exact confined_pure _
      · split
        · exact confined_pure _
        · rw [lookupSubordinateStatement_eq]
          exact TokenSource.confined_read (inNamespace_oidfLookup _) _ _

/-! ### A member of a federation -/

/-- A key of the trust anchor. -/
def anchorKey : Json :=
  .obj [("kty", .str "OKP"), ("crv", .str "Ed25519"), ("x", .str "k")]

/-- The anchor's own statement, with its key and endpoint. -/
def anchorStatement : Json :=
  .obj [("iss", .str "https://anchor"), ("sub", .str "https://anchor"),
    ("exp", .num ((10 : ℚ) : WithTop ℚ)), ("jwks", .obj [("keys", .arr [anchorKey])]),
    ("metadata", .obj [("federation_entity",
      .obj [("federation_fetch_endpoint", .str "https://anchor/fetch")])])]

/-- The anchor's statement about the issuer. -/
def memberStatement : Json :=
  .obj [("iss", .str "https://anchor"), ("sub", .str "did:example:issuer"),
    ("exp", .str "20")]

/-- A runtime that decodes the two tokens and verifies both signatures. -/
def federationPlatform : Platform :=
  PlatformTable.platform
    { urlsWithSub := [(("https://anchor/fetch", "did:example:issuer"), "https://anchor/member")]
      segments := [("h", [0]), ("a", [1]), ("m", [2]), ("s", [3])]
      texts := [([0], "header"), ([1], "anchor"), ([2], "member")]
      documents := [("header", .obj [("alg", .str "EdDSA"), ("typ", .str entityStatementTyp)]),
        ("anchor", anchorStatement), ("member", memberStatement)]
      signatures := [(.EdDSA, anchorKey, "h.a", [3]), (.EdDSA, anchorKey, "h.m", [3])] }

/-- The context of a lookup that needs no verifier. -/
def federationContext : RegistryHandlerContext where
  platform := federationPlatform
  verifier := .error .null

/-- The configuration comes from the cache, the statement from its endpoint. -/
def federationTrace : List PortEvent :=
  [⟨.dateNowMs, (0 : ℚ)⟩,
    ⟨.cacheGet "oidf:ec:https://anchor/ec", some (.json (.str "h.a.s"))⟩,
    ⟨.cacheGet "oidf:lookup:https://anchor/member", none⟩,
    ⟨.httpGet "https://anchor/member",
      .ok { body := some (.str "h.m.s"), headers := [], status := 200 }⟩,
    ⟨.cacheSet "oidf:lookup:https://anchor/member" (.json (.str "h.m.s"))
      ((20000 : ℚ) : WithTop ℚ), ()⟩]

/-- The anchor knows the issuer. -/
theorem executes_federation :
    Executes (lookupOidf "did:example:issuer" (.oidf "Anchor" "https://anchor/ec")
      federationContext) federationTrace (.ok (.found none)) :=
  replay_eq_some_iff.mp (by decide +kernel)

/-- The lookup of a member finds it and rests on a membership. -/
theorem lookupOidf_found_federation :
    ∃ name trustAnchorEC nowMs ec exp,
      EntityIdentityRegistry.oidf "Anchor" "https://anchor/ec" = .oidf name trustAnchorEC ∧
      OidfMembership federationPlatform federationTrace trustAnchorEC "did:example:issuer"
        nowMs ec exp :=
  lookupOidf_found executes_federation

end VerifierCore
