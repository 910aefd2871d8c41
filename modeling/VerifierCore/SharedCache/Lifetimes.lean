import VerifierCore.SharedCache.Recognition

/-!
# Lifetimes in a shared cache

How long what the registry handlers store is read from the in-memory cache.  A
recognition credential should not be read after its own validity ended, a fetched
registry or statement not for longer than its response allows.

Main results:

- Theorem {lit}`readUntil_iff`: when a stored value is last read.
- Theorem {lit}`recognition_keptWithinValidity_iff`: the recognition credentials
  that are not read after they ended.
- Theorem {lit}`response_readUntil_iff`: the responses that are not read for
  longer than they state.
-/

namespace VerifierCore

open Foundations Program

/-! ## Reading a stored value -/

/-- A value that was stored at `time` is not read from the in-memory cache after
`limit`. -/
def ReadUntil (key : String) (value : CacheValue) (ttlMs : Num) (time limit : ℚ) : Prop :=
  ∀ (entries : InMemoryCache) (thread : Nat) (later : ℚ),
    (entries.next ⟨thread, time, ⟨.cacheSet key value ttlMs, ()⟩⟩).read (instant later) key =
      some value → later ≤ limit

/-- Instants are ordered as their readings are. -/
@[simp]
theorem instant_le_instant_iff {a b : ℚ} : instant a ≤ instant b ↔ a ≤ b := by
  rw [instant, instant]
  exact_mod_cast Iff.rfl

/-- A value that was just stored is read until its lifetime is over. -/
theorem read_next_cacheSet_iff {entries : InMemoryCache} {thread : Nat} {key : String}
    {value : CacheValue} {ttlMs : Num} {time later : ℚ} :
    (entries.next ⟨thread, time, ⟨.cacheSet key value ttlMs, ()⟩⟩).read (instant later) key =
        some value ↔
      (0 < ttlMs → instant later ≤ instant time + ttlMs) := by
  have hentry : entries.next ⟨thread, time, ⟨.cacheSet key value ttlMs, ()⟩⟩ key =
      some { value := value, expiresAt := InMemoryCache.expiresAt time ttlMs } :=
    ExpiringStore.write_self _ _ _
  rw [ExpiringStore.read_eq_some_iff, hentry]
  by_cases hpositive : 0 < ttlMs
  · simp [Entry.ReadableAt, InMemoryCache.expiresAt, hpositive]
  · simp [Entry.ReadableAt, InMemoryCache.expiresAt, hpositive]

/-- A lifetime ends what is read only if it is positive. -/
theorem readUntil_iff {key : String} {value : CacheValue} {ttlMs : Num} {time limit : ℚ} :
    ReadUntil key value ttlMs time limit ↔
      0 < ttlMs ∧ instant time + ttlMs ≤ instant limit := by
  simp only [ReadUntil, read_next_cacheSet_iff]
  constructor
  · intro h
    have hpositive : 0 < ttlMs := by
      by_contra hnot
      have hlater := h ExpiringStore.empty 0 (limit + 1) fun hpositive => absurd hpositive hnot
      linarith
    refine ⟨hpositive, ?_⟩
    induction ttlMs using WithBot.recBotCoe with
    | bot => exact absurd hpositive (by simp)
    | coe ttl =>
        induction ttl using WithTop.recTopCoe with
        | top =>
            have hlater := h ExpiringStore.empty 0 (limit + 1) fun _ => le_top
            linarith
        | coe ms =>
            have hlater := h ExpiringStore.empty 0 (time + ms) fun _ => le_rfl
            rw [instant, instant]
            exact_mod_cast hlater
  · intro h entries thread later hread
    exact instant_le_instant_iff.mp ((hread h.1).trans h.2)

/-! ## What the handlers store -/

/-- If the event stores something, then what the relation allows behind the events
in front. -/
def StoresOnly (R : List PortEvent → String → CacheValue → Num → Prop)
    (front : List PortEvent) (event : PortEvent) : Prop :=
  ∀ key value ttlMs, event = ⟨.cacheSet key value ttlMs, ()⟩ → R front key value ttlMs

/-- Events that store nothing store only what is allowed. -/
theorem StoresNothing.storesOnly {R : List PortEvent → String → CacheValue → Num → Prop}
    {events : List PortEvent} (h : StoresNothing events) : Justified (StoresOnly R) events := by
  apply justified_of_forall
  intro event hmem front key value ttlMs hevent
  have hnot := h event hmem key value ttlMs
  rw [hevent] at hnot
  exact absurd rfl hnot

/-- A recognition credential that was verified, behind the reading of the clock that
its lifetime is counted from. -/
def VerifiedForTtl (platform : Platform) (verifier : Verifier) (front : List PortEvent)
    (value : CacheValue) (ttlMs : Num) (credential : Json) (nowMs : ℚ) : Prop :=
  value = .json credential ∧ front.getLast? = some ⟨.dateNowMs, nowMs⟩ ∧
    VerifiedAlong verifier credential front ∧
    ttlMs = ((recognitionTtl platform credential nowMs : WithTop ℚ) : Num)

/-- A lookup stores only verified credentials, for the lifetime counted for them. -/
theorem RecognitionRun.justified_ttl {platform : Platform} {did url : String}
    {acceptedIssuers : List String} {verifier : Verifier} {trace : List PortEvent}
    {result : HandlerResult}
    (hverifier : ∀ credential,
      (verifier.verifyCredential (recognitionCall credential)).Confined Port.LeavesCache)
    (h : RecognitionRun platform did url acceptedIssuers verifier trace result) :
    Justified (StoresOnly fun front _ value ttlMs =>
      ∃ credential nowMs, VerifiedForTtl platform verifier front value ttlMs credential nowMs)
      trace := by
  rcases h.storesNothing_or_stored hverifier with
    hnothing | ⟨front, loaded, nowMs, rfl, hfront, _, hverified⟩
  · exact hnothing.storesOnly
  · refine justified_concat hfront.storesOnly ?_
    intro key value ttlMs hevent
    cases hevent
    exact ⟨loaded, nowMs, rfl, by simp, hverified.mono (List.prefix_append _ _).isInfix, rfl⟩

/-! ## Recognition credentials -/

/-- The date that a value states, if it can be read. -/
def StatedDate.ms? : StatedDate → Option ℚ
  | .date ms => some ms
  | _ => none

/-- The last instant of a credential's validity period, as the validity check reads
it: under the property of the credential's own version. -/
def endOfValidity (platform : Platform) (credential : Json) : Option ℚ :=
  (vcVersionOf (credential.get? "@context")).bind fun version =>
    (dateOf platform (credential.get? (validityProperties version).end)).ms?

/-- A stored credential is kept for an hour at most, and neither kept nor read past
the end of its validity. -/
structure KeptWithinValidity (platform : Platform) (credential : Json) (key : String)
    (value : CacheValue) (ttlMs : Num) (nowMs : ℚ) : Prop where
  hour : ttlMs ≤ ((defaultTtlMs : WithTop ℚ) : Num)
  validity : ∀ stop ∈ endOfValidity platform credential,
    ttlMs ≤ (((stop - nowMs : ℚ) : WithTop ℚ) : Num)
  read : ∀ stop ∈ endOfValidity platform credential, ReadUntil key value ttlMs nowMs stop

/-- The end of validity is an hour ahead, or a `validUntil` is ahead and states no
later date. -/
def EndsWithinSight (platform : Platform) (credential : Json) (nowMs : ℚ) : Prop :=
  ∀ stop ∈ endOfValidity platform credential, nowMs + defaultTtlMs ≤ stop ∨
    ∃ stated, dateOf platform (credential.get? "validUntil") = .date stated ∧
      nowMs < stated ∧ stated ≤ stop

/-- The lifetime of a recognition credential is positive. -/
theorem recognitionTtl_pos (platform : Platform) (credential : Json) (nowMs : ℚ) :
    0 < recognitionTtl platform credential nowMs :=
  lt_min (resolveTtl_pos _) defaultTtlMs_pos

/-- A credential is kept within its validity as long as its lifetime is no longer than
the time to its end. -/
theorem keptWithinValidity_iff {platform : Platform} {credential : Json} {key : String}
    {value : CacheValue} {nowMs : ℚ} :
    KeptWithinValidity platform credential key value
        ((recognitionTtl platform credential nowMs : WithTop ℚ) : Num) nowMs ↔
      ∀ stop ∈ endOfValidity platform credential,
        recognitionTtl platform credential nowMs ≤ stop - nowMs := by
  constructor
  · intro h stop hstop
    have hvalidity := h.validity stop hstop
    exact_mod_cast hvalidity
  · intro h
    constructor
    · exact_mod_cast min_le_right _ _
    · intro stop hstop
      exact_mod_cast h stop hstop
    · intro stop hstop
      refine readUntil_iff.mpr ⟨?_, ?_⟩
      · exact_mod_cast recognitionTtl_pos platform credential nowMs
      · have hend := h stop hstop
        rw [instant, instant]
        exact_mod_cast le_sub_iff_add_le'.mp hend

/-- The lifetime counted for an end of validity is what is left until then, or an hour. -/
theorem resolveTtl_validUntil (platform : Platform) (validUntil : Option Json) (nowMs : ℚ) :
    resolveTtl [ttlFromValidUntil platform validUntil nowMs] =
      match dateOf platform validUntil with
      | .date stated => if nowMs < stated then stated - nowMs else defaultTtlMs
      | _ => defaultTtlMs := by
  rcases validUntil with - | value
  · simp [ttlFromValidUntil, dateOf, asString, resolveTtl]
  · cases value with
    | str text =>
        cases hparsed : platform.parseDate text with
        | none => simp [ttlFromValidUntil, dateOf, asString, resolveTtl, hparsed]
        | some stated =>
            by_cases hahead : nowMs < stated
            · have httl : ttlFromValidUntil platform (some (.str text)) nowMs =
                  some (((stated - nowMs : ℚ) : WithTop ℚ) : Num) := by
                simp only [ttlFromValidUntil, asString, hparsed, sub_nonpos, not_le.mpr hahead,
                  if_false]
              rw [httl, resolveTtl_cons_coe]
              simp [dateOf, hparsed, hahead]
            · have httl : ttlFromValidUntil platform (some (.str text)) nowMs = none := by
                simp [ttlFromValidUntil, asString, hparsed, not_lt.mp hahead]
              simp [httl, resolveTtl, dateOf, hparsed, hahead]
    | null | bool | num | arr | obj => simp [ttlFromValidUntil, dateOf, asString, resolveTtl]

/-- The lifetime ends with the validity exactly if the end is in sight. -/
theorem recognitionTtl_le_iff {platform : Platform} {credential : Json} {nowMs stop : ℚ} :
    recognitionTtl platform credential nowMs ≤ stop - nowMs ↔
      nowMs + defaultTtlMs ≤ stop ∨
        ∃ stated, dateOf platform (credential.get? "validUntil") = .date stated ∧
          nowMs < stated ∧ stated ≤ stop := by
  rw [recognitionTtl, resolveTtl_validUntil, min_le_iff, or_comm, le_sub_iff_add_le']
  have hpositive := defaultTtlMs_pos
  cases hdate : dateOf platform (credential.get? "validUntil") with
  | absent => simp [le_sub_iff_add_le']
  | unparseable => simp [le_sub_iff_add_le']
  | date stated =>
      by_cases hahead : nowMs < stated
      · simp [hahead]
      · simp [hahead, le_sub_iff_add_le']

/-- Every recognition credential that the handler stores was verified, and it is kept
within its validity exactly if its end was in sight when its lifetime was counted. -/
theorem recognition_keptWithinValidity_iff {platform : Platform} {config : VerifierConfig}
    {depth : Nat} {did : String} {registry : EntityIdentityRegistry}
    {front rest : List PortEvent} {key : String} {value : CacheValue} {ttlMs : Num}
    {outcome : Except Thrown HandlerResult}
    (h : Executes (lookupVcRecognition did registry (handlerContext platform config depth))
      (front ++ ⟨.cacheSet key value ttlMs, ()⟩ :: rest) outcome) :
    ∃ credential nowMs,
      VerifiedForTtl platform (createVerifier platform config depth) front value ttlMs
        credential nowMs ∧
      (KeptWithinValidity platform credential key value ttlMs nowMs ↔
        EndsWithinSight platform credential nowMs) := by
  cases registry with
  | oidf | dccLegacy =>
      have htrace := (executes_pure_iff.mp h).1
      simp at htrace
  | vcRecognition name url accepted =>
      rcases executes_map_iff.mp h with ⟨result, hlookup, _⟩
      have hrun : RecognitionRun platform did url accepted
          (createVerifier platform config depth) _ result := executes_lookupVcRecognition hlookup
      have hjustified := hrun.justified_ttl fun credential =>
        leavesCache_createVerifier (isClosed_recognitionCall credential)
      rcases hjustified front _ rest rfl key value ttlMs rfl with ⟨credential, nowMs, hverified⟩
      refine ⟨credential, nowMs, hverified, ?_⟩
      rcases hverified with ⟨_, _, _, rfl⟩
      rw [keptWithinValidity_iff]
      simp only [EndsWithinSight, recognitionTtl_le_iff]

/-! ### A credential that expires in ten minutes -/

/-- A recognition credential of the first version, with the date it expires on. -/
def expiringCredential : Json :=
  .obj [("@context", .arr [.str vcContextV1]), ("type", .str "VerifiableCredential"),
    ("issuer", .str "did:example:recognizer"),
    ("issuanceDate", .str "2024-01-01T00:00:00Z"),
    ("expirationDate", .str "2024-01-01T00:10:00Z"),
    ("credentialSubject", .obj [("id", .str "did:example:issuer")]),
    ("proof", .obj [("type", .str "A")])]

/-- A runtime on which the first date is the epoch. -/
def expiringPlatform : Platform :=
  PlatformTable.platform
    { urls := ["did:example:recognizer", "did:example:issuer"]
      dates := [("2024-01-01T00:00:00Z", 0), ("2024-01-01T00:10:00Z", 600000)] }

/-- The credential is fetched and verified. -/
def expiringFront : List PortEvent :=
  [⟨.cacheGet "vc-recognition:https://list", none⟩,
    ⟨.httpGet "https://list",
      .ok { body := some expiringCredential, headers := [], status := 200 }⟩,
    ⟨.dateNowMs, (0 : ℚ)⟩,
    ⟨.canVerify 0 { verifiableCredential := some expiringCredential }, .ok true⟩,
    ⟨.verifyCredential 0 expiringCredential { now := some 0 }, .ok (.verified none)⟩,
    ⟨.dateNowMs, (0 : ℚ)⟩]

/-- The credential is stored for an hour. -/
def expiringStore : PortEvent :=
  ⟨.cacheSet "vc-recognition:https://list" (.json expiringCredential)
    ((3600000 : ℚ) : WithTop ℚ), ()⟩

/-- The lookup stores the credential that is about to expire. -/
theorem executes_expiring :
    Executes (lookupVcRecognition "did:example:issuer"
        (.vcRecognition "List" "https://list" ["did:example:recognizer"])
        (handlerContext expiringPlatform { cryptoServices := [0] } 0))
      (expiringFront ++ expiringStore :: []) (.ok (.found listedEntity)) :=
  replay_eq_some_iff.mp (by decide +kernel)

/-- The credential that is about to expire states its end. -/
theorem endOfValidity_expiring : endOfValidity expiringPlatform expiringCredential = some 600000 := by
  decide +kernel

/-- The credential that was stored is judged by its end. -/
theorem keptWithinValidity_iff_expiring :
    ∃ credential nowMs,
      VerifiedForTtl expiringPlatform (createVerifier expiringPlatform { cryptoServices := [0] } 0)
        expiringFront (.json expiringCredential) ((3600000 : ℚ) : WithTop ℚ) credential nowMs ∧
      (KeptWithinValidity expiringPlatform credential "vc-recognition:https://list"
          (.json expiringCredential) ((3600000 : ℚ) : WithTop ℚ) nowMs ↔
        EndsWithinSight expiringPlatform credential nowMs) :=
  recognition_keptWithinValidity_iff executes_expiring

/-- The credential is kept for an hour although it expires in ten minutes. -/
theorem not_keptWithinValidity_expiring :
    Executes (lookupVcRecognition "did:example:issuer"
        (.vcRecognition "List" "https://list" ["did:example:recognizer"])
        (handlerContext expiringPlatform { cryptoServices := [0] } 0))
      (expiringFront ++ expiringStore :: []) (.ok (.found listedEntity)) ∧
    endOfValidity expiringPlatform expiringCredential = some 600000 ∧
    ¬KeptWithinValidity expiringPlatform expiringCredential "vc-recognition:https://list"
      (.json expiringCredential) ((3600000 : ℚ) : WithTop ℚ) 0 := by
  refine ⟨executes_expiring, endOfValidity_expiring, ?_⟩
  intro h
  have hvalidity := h.validity 600000 endOfValidity_expiring
  have hms : (3600000 : ℚ) ≤ 600000 - 0 := by exact_mod_cast hvalidity
  norm_num at hms

/-! ## Responses -/

/-- The headers state how many seconds the response may be kept: one of the directives
of `Cache-Control` is `max-age=` with digits for the number. -/
def StatesMaxAge (headers : List (String × String)) (seconds : Nat) : Prop :=
  ∃ raw name digits, headers.lookup "cache-control" = some raw ∧
    String.ofList (name ++ '=' :: digits) ∈ (split raw ',').map trim ∧
    name.map Char.toLower = "max-age".toList ∧
    digits ≠ [] ∧ digits.all isDigit = true ∧ digitsValue digits = seconds

/-- How much longer a stored value may be kept for its own sake: a registry body
without limit, an entity statement until its expiry. -/
inductive TimeLeft (platform : Platform) (front : List PortEvent) :
    EntityIdentityRegistry → String → CacheValue → Num → Prop where
  | body {name url : String} {json : Json} :
      TimeLeft platform front (.dccLegacy name url) (cacheKeyForDccLegacyUrl url) (.json json) ⊤
  | configuration {name anchor jwt : String} {nowMs : ℚ} {payload : Json}
      {ec : VerifiedEntityConfiguration} :
      ⟨.dateNowMs, nowMs⟩ ∈ front → EntityConfigurationAt platform nowMs jwt payload ec →
      TimeLeft platform front (.oidf name anchor) (cacheKeyForOidfEntityConfig anchor)
        (.json (.str jwt)) (thousandfold ec.exp + ((-nowMs : ℚ) : WithTop ℚ))
  | statement {name anchor url jwt did : String} {nowMs : ℚ} {payload : Json}
      {ec : VerifiedEntityConfiguration} {exp : Num} :
      ⟨.dateNowMs, nowMs⟩ ∈ front →
      SubordinateStatementAt platform nowMs jwt ec did payload exp →
      TimeLeft platform front (.oidf name anchor) (cacheKeyForOidfLookup url)
        (.json (.str jwt)) (thousandfold exp + ((-nowMs : ℚ) : WithTop ℚ))

/-- The time that is left was counted in more events as well. -/
theorem TimeLeft.mono {platform : Platform} {front front' : List PortEvent}
    {registry : EntityIdentityRegistry} {key : String} {value : CacheValue} {left : Num}
    (h : TimeLeft platform front registry key value left) (hsubset : front ⊆ front') :
    TimeLeft platform front' registry key value left := by
  cases h with
  | body => exact .body
  | configuration hreading hec => exact .configuration (hsubset hreading) hec
  | statement hreading hstatement => exact .statement (hsubset hreading) hstatement

/-- A value was stored from a response, for the lifetime its headers resolve to but not
past its own. -/
def StoredFromResponse (platform : Platform) (registry : EntityIdentityRegistry)
    (front : List PortEvent) (key : String) (value : CacheValue) (ttlMs : Num) : Prop :=
  ∃ url result left, front.getLast? = some ⟨.httpGet url, .ok result⟩ ∧
    TimeLeft platform front registry key value left ∧
    ttlMs = min ((resolveTtl [parseCacheControlMaxAge result.headers] : WithTop ℚ) : Num) left

/-! ### What the handlers store -/

/-- Every value is stored from the response right in front of it. -/
def StoresResponses (platform : Platform) (registry : EntityIdentityRegistry)
    (trace : List PortEvent) : Prop :=
  Justified (StoresOnly (StoredFromResponse platform registry)) trace

section

variable {platform : Platform} {registry : EntityIdentityRegistry} {front : List PortEvent}

theorem storesResponses_nil : StoresResponses platform registry [] :=
  justified_of_forall (by simp)

/-- An event that is no store keeps it so. -/
theorem StoresResponses.concat (h : StoresResponses platform registry front) (op : Port)
    (answer : Port.Answer op) (hop : ∀ key value ttlMs, op ≠ .cacheSet key value ttlMs) :
    StoresResponses platform registry (front ++ [⟨op, answer⟩]) := by
  refine justified_concat h ?_
  intro key value ttlMs hevent
  cases hevent
  exact absurd rfl (hop key value ttlMs)

/-- A handler that stores a value for the time its response leaves keeps to what responses
allow. -/
theorem StoresResponses.store {key : String} {value : CacheValue} {left : Num}
    (h : StoresResponses platform registry front) (url : String) (result : HttpGetResult)
    (hleft : TimeLeft platform front registry key value left) :
    StoresResponses platform registry (front ++ [⟨.httpGet url, .ok result⟩] ++
      [⟨.cacheSet key value
        (min ((resolveTtl [parseCacheControlMaxAge result.headers] : WithTop ℚ) : Num) left),
        ()⟩]) := by
  refine justified_concat (h.concat _ _ (by simp)) ?_
  intro key' value' ttlMs hevent
  cases hevent
  exact ⟨url, result, left, by simp, hleft.mono (List.subset_append_left _ _), rfl⟩

/-- A registry body is stored from the response it was read from. -/
theorem storesResponses_lookupDccLegacy {did : String} {context : RegistryHandlerContext}
    {trace : List PortEvent} {outcome : Except Thrown HandlerResult}
    (h : Executes (lookupDccLegacy did registry context) trace outcome) :
    StoresResponses context.platform registry trace := by
  cases registry with
  | oidf | vcRecognition =>
      rcases executes_pure_iff.mp h with ⟨rfl, _⟩
      exact storesResponses_nil
  | dccLegacy name url =>
      rcases executes_ask_bind_iff.mp h with ⟨cached, rest, rfl, hrest⟩
      have hread : StoresResponses context.platform (.dccLegacy name url)
          [⟨.cacheGet (cacheKeyForDccLegacyUrl url), cached⟩] :=
        storesResponses_nil.concat _ _ (by simp)
      cases hcached : cachedDocument cached with
      | some body =>
          simp only [hcached] at hrest
          rcases executes_pure_iff.mp hrest with ⟨rfl, _⟩
          exact hread
      | none =>
          simp only [hcached] at hrest
          rcases executes_bind_iff.mp hrest with ⟨fetching, rest, loaded, rfl, hfetch, hrest⟩
          rcases executes_fetchDccLegacyRegistry hfetch with ⟨fetched, rfl, hfetched⟩
          cases loaded with
          | none =>
              rcases executes_pure_iff.mp hrest with ⟨rfl, _⟩
              exact hread.concat _ _ (by simp)
          | some loaded =>
              rcases loaded with ⟨body, ttlMs⟩
              rcases executes_ask_bind_iff.mp hrest with ⟨stored, last, rfl, hlast⟩
              rcases executes_pure_iff.mp hlast with ⟨rfl, _⟩
              rcases hfetched body ttlMs rfl with ⟨result, rfl, _, rfl⟩
              have hleft : TimeLeft context.platform [⟨.cacheGet (cacheKeyForDccLegacyUrl url), cached⟩]
                  (.dccLegacy name url) (cacheKeyForDccLegacyUrl url) (.json body) ⊤ := .body
              have hstored := hread.store url result hleft
              rw [min_eq_left le_top] at hstored
              simpa using hstored

/-- A token is stored from the response it was read from, for as long as it has left. -/
theorem StoresResponses.readToken {α β : Type} {source : TokenSource α β} {nowMs : ℚ}
    {trace : List PortEvent} {outcome : Except Thrown β}
    (hfront : StoresResponses platform registry front)
    (hleft : ∀ jwt a, source.verify jwt = some a →
      TimeLeft platform front registry source.key (.json (.str jwt))
        (thousandfold (source.exp a) + ((-nowMs : ℚ) : WithTop ℚ)))
    (h : Executes (source.read platform nowMs) trace outcome) :
    StoresResponses platform registry (front ++ trace) := by
  have hread (cached : Option CacheValue) :=
    hfront.concat (.cacheGet source.key) cached (by simp)
  cases TokenSource.readRun h with
  | cached => exact hread _
  | missed cached fetched | threw cached fetched =>
      rw [List.append_cons]
      exact (hread cached).concat _ _ (by simp)
  | @stored cached result jwt a _ _ hverified =>
      have hstored := (hread cached).store source.url result
        ((hleft jwt a hverified).mono (List.subset_append_left _ _))
      simpa [ttlBoundedByExp] using hstored

/-- A lookup of a federation stores responses for the time their headers leave them. -/
theorem storesResponses_lookupOidf {did : String} {context : RegistryHandlerContext}
    {trace : List PortEvent} {outcome : Except Thrown HandlerResult}
    (h : Executes (lookupOidf did registry context) trace outcome) :
    StoresResponses context.platform registry trace := by
  cases registry with
  | dccLegacy | vcRecognition =>
      rcases executes_pure_iff.mp h with ⟨rfl, _⟩
      exact storesResponses_nil
  | oidf name anchor =>
      rcases executes_ask_bind_iff.mp h with ⟨nowMs, rest, rfl, hrest⟩
      have hclock : StoresResponses context.platform (.oidf name anchor)
          [⟨.dateNowMs, nowMs⟩] := storesResponses_nil.concat _ _ (by simp)
      rcases executes_bind_iff.mp hrest with
        ⟨configured, looked, loaded, rfl, hconfigured, hlooked⟩
      have hreading : ⟨.dateNowMs, nowMs⟩ ∈ [(⟨.dateNowMs, nowMs⟩ : PortEvent)] :=
        List.mem_singleton_self _
      rw [getVerifiedEntityConfiguration_eq] at hconfigured
      have hstored := hclock.readToken (fun jwt ec hverified => by
        rcases verifyEntityConfiguration_eq_some_iff.mp hverified with ⟨payload, hpayload⟩
        exact .configuration hreading hpayload) hconfigured
      rw [List.singleton_append] at hstored
      split at hlooked
      · rcases executes_pure_iff.mp hlooked with ⟨rfl, _⟩
        simpa using hstored
      · rcases executes_pure_iff.mp hlooked with ⟨rfl, _⟩
        simpa using hstored
      · split at hlooked
        · rcases executes_pure_iff.mp hlooked with ⟨rfl, _⟩
          simpa using hstored
        · rw [lookupSubordinateStatement_eq] at hlooked
          refine hstored.readToken (fun jwt exp hverified => ?_) hlooked
          rcases verifySubordinateStatement_eq_some_iff.mp hverified with ⟨payload, hpayload⟩
          exact .statement List.mem_cons_self hpayload

end

/-! ### How long a response is read -/

/-- A directive that is stated is found, unless another match is in front of it. -/
theorem StatesMaxAge.firstMaxAge_isSome {headers : List (String × String)} {seconds : Nat}
    (h : StatesMaxAge headers seconds) : (firstMaxAge headers).isSome = true := by
  rcases h with ⟨raw, name, digits, hraw, hdirective, hname, hne, hdigits, _⟩
  rcases List.mem_map.mp hdirective with ⟨piece, hpiece, htrim⟩
  rcases List.mem_map.mp hpiece with ⟨chars, hchars, rfl⟩
  rcases exists_of_mem_splitChars hchars with ⟨before, after, htext, hbefore, hafter⟩
  rcases exists_of_trim_eq htrim with ⟨front, back, hpieces, hfront, hback⟩
  rw [String.toList_ofList, String.toList_ofList] at hpieces
  have hnotWord : ∀ c, c = ',' ∨ isSpace c = true → isWordChar c = false := by
    intro c hc
    rcases hc with rfl | hc
    · decide
    · exact isWordChar_of_isSpace hc
  have hbehind : ∀ c ∈ (back ++ after).head?, isWordChar c = false := by
    intro c hc
    apply hnotWord
    cases back with
    | nil => exact .inl (hafter c hc)
    | cons d back =>
        have hd : d = c := by simpa using hc
        rw [List.all_cons, Bool.and_eq_true] at hback
        exact .inr (hd ▸ hback.1)
  have hinFront : ∀ c ∈ (before ++ front).getLast?, isWordChar c = false := by
    intro c hc
    apply hnotWord
    rw [List.getLast?_append, Option.mem_def, Option.or_eq_some_iff] at hc
    rcases hc with hlast | ⟨_, hlast⟩
    · exact .inr (List.all_eq_true.mp hfront c (List.mem_of_getLast? hlast))
    · exact .inl (hbefore c hlast)
  have hboundary : ((before ++ front).getLast?.or none).any isWordChar = false := by
    cases hlast : (before ++ front).getLast? with
    | none => rfl
    | some c => simpa using hinFront c hlast
  have hmatch := matchMaxAge_append hname hne hdigits hbehind
  have hfound := findMaxAge_isSome hboundary (Option.isSome_iff_exists.mpr ⟨digits, hmatch⟩)
  have hlist : raw.toList = before ++ front ++ (name ++ '=' :: digits ++ (back ++ after)) := by
    rw [htext, hpieces]
    simp
  rw [firstMaxAge, hraw, Option.bind_some, Option.isSome_map, hlist]
  exact hfound

/-- A stored value has time left: a statement is only accepted before it expires. -/
theorem TimeLeft.pos {platform : Platform} {front : List PortEvent}
    {registry : EntityIdentityRegistry} {key : String} {value : CacheValue} {left : Num}
    (h : TimeLeft platform front registry key value left) : 0 < left := by
  have hpositive {exp : Num} {nowMs : ℚ}
      (hlater : ((nowMs : WithTop ℚ) : Num) < thousandfold exp) :
      0 < thousandfold exp + (((-nowMs : ℚ) : WithTop ℚ) : Num) := by
    generalize thousandfold exp = limit at hlater
    induction limit using WithBot.recBotCoe with
    | bot => exact absurd hlater (by simp)
    | coe limit =>
        induction limit using WithTop.recTopCoe with
        | top => exact WithBot.coe_lt_coe.mpr (WithTop.coe_lt_top 0)
        | coe ms =>
            have hms : nowMs < ms := by exact_mod_cast hlater
            have hsum : (0 : ℚ) < ms + -nowMs := by linarith
            exact_mod_cast hsum
  cases h with
  | body => exact WithBot.coe_lt_coe.mpr (WithTop.coe_lt_top 0)
  | configuration _ hec => exact hpositive hec.unexpired.later
  | statement _ hstatement => exact hpositive hstatement.unexpired.later

/-- The first `max-age` of the headers allows no more than the seconds, or the value
has no more left: a `max-age` that is usable allows its own seconds, any other one an
hour. -/
def AllowsAtMost (headers : List (String × String)) (left : Num) (seconds : Nat) : Prop :=
  left ≤ (((seconds * 1000 : ℚ) : WithTop ℚ) : Num) ∨
    ∃ first, firstMaxAge headers = some first ∧
      if UsableMaxAge first then first ≤ seconds else 3600 ≤ seconds

/-- Two lifetimes from the same instant are ordered as they are. -/
theorem instant_add_le_iff {time ms : ℚ} {ttlMs : Num} :
    instant time + ttlMs ≤ instant (time + ms) ↔ ttlMs ≤ ((ms : WithTop ℚ) : Num) := by
  rw [instant, instant]
  induction ttlMs using WithBot.recBotCoe with
  | bot => simp
  | coe ttl =>
      induction ttl using WithTop.recTopCoe with
      | top =>
          rw [← WithBot.coe_add, WithTop.add_top, WithBot.coe_le_coe, WithBot.coe_le_coe]
          simp
      | coe q =>
          norm_cast
          exact add_le_add_iff_left time

/-- What the headers of a response that states a `max-age` resolve to. -/
theorem StatesMaxAge.resolveTtl_le_iff {headers : List (String × String)} {seconds : Nat}
    (h : StatesMaxAge headers seconds) :
    resolveTtl [parseCacheControlMaxAge headers] ≤ seconds * 1000 ↔
      ∃ first, firstMaxAge headers = some first ∧
        if UsableMaxAge first then first ≤ seconds else 3600 ≤ seconds := by
  rcases Option.isSome_iff_exists.mp h.firstMaxAge_isSome with ⟨first, hfirst⟩
  rw [resolveTtl_maxAge, hfirst]
  simp only [Option.some.injEq, exists_eq_left']
  by_cases husable : UsableMaxAge first
  · rw [if_pos husable, if_pos husable]
    constructor
    · intro hle
      have hseconds : (first : ℚ) ≤ seconds := by linarith
      exact_mod_cast hseconds
    · intro hle
      have hseconds : (first : ℚ) ≤ seconds := by exact_mod_cast hle
      linarith
  · rw [if_neg husable, if_neg husable, defaultTtlMs]
    constructor
    · intro hle
      have hseconds : (3600 : ℚ) ≤ seconds := by linarith
      exact_mod_cast hseconds
    · intro hle
      have hseconds : (3600 : ℚ) ≤ seconds := by exact_mod_cast hle
      linarith

/-- Whatever a handler stores from a response that states a `max-age` is not read for
longer exactly if the first `max-age` of the response, or the value's own expiry, allows
no longer. -/
theorem response_readUntil_iff {did : String} {registry : EntityIdentityRegistry}
    {context : RegistryHandlerContext} {front rest : List PortEvent} {key : String}
    {value : CacheValue} {ttlMs : Num} {outcome : Except Thrown HandlerResult}
    (hregistry : registry.type ≠ .vcRecognition)
    (h : Executes (defaultHandlers registry.type did registry context)
      (front ++ ⟨.cacheSet key value ttlMs, ()⟩ :: rest) outcome) :
    ∃ url result left, front.getLast? = some ⟨.httpGet url, .ok result⟩ ∧
      TimeLeft context.platform front registry key value left ∧
      ∀ seconds, StatesMaxAge result.headers seconds →
        ((∀ time, ReadUntil key value ttlMs time (time + seconds * 1000)) ↔
          AllowsAtMost result.headers left seconds) := by
  have hstores : StoresResponses context.platform registry
      (front ++ ⟨.cacheSet key value ttlMs, ()⟩ :: rest) := by
    cases registry with
    | dccLegacy => exact storesResponses_lookupDccLegacy h
    | oidf => exact storesResponses_lookupOidf h
    | vcRecognition => exact absurd rfl hregistry
  rcases hstores front _ rest rfl key value ttlMs rfl with ⟨url, result, left, hlast, hleft, rfl⟩
  refine ⟨url, result, left, hlast, hleft, ?_⟩
  intro seconds hstates
  have hpositive : 0 < min ((resolveTtl [parseCacheControlMaxAge result.headers] : WithTop ℚ) : Num)
      left := by
    refine lt_min ?_ hleft.pos
    exact_mod_cast resolveTtl_pos _
  simp only [readUntil_iff, instant_add_le_iff, hpositive, true_and, forall_const, min_le_iff,
    AllowsAtMost, ← hstates.resolveTtl_le_iff]
  rw [or_comm]
  norm_cast

/-! ### A registry body with a `max-age` -/

/-- A registry body that lists one issuer. -/
def dccBody : Json :=
  .obj [("registry", .obj [("did:example:issuer", .obj [("name", .str "Issuer")])])]

/-- The context of a lookup in a file. -/
def dccContext : RegistryHandlerContext where
  platform := PlatformTable.platform {}
  verifier := .error .null

/-- The body is fetched, with this `Cache-Control`. -/
def dccFront (cacheControl : String) : List PortEvent :=
  [⟨.cacheGet "dcc-legacy:https://dcc", none⟩,
    ⟨.httpGet "https://dcc", .ok
      { body := some dccBody, headers := [("cache-control", cacheControl)], status := 200 }⟩]

/-- The lookup of the listed issuer stores the body for as many milliseconds. -/
def DccStores (cacheControl : String) (ttlMs : ℚ) : Prop :=
  Executes (lookupDccLegacy "did:example:issuer" (.dccLegacy "DCC" "https://dcc") dccContext)
    (dccFront cacheControl ++
      ⟨.cacheSet "dcc-legacy:https://dcc" (.json dccBody) ((ttlMs : WithTop ℚ) : Num), ()⟩ :: [])
    (.ok (.found (some (dccLegacyEntity (.obj [("name", .str "Issuer")])))))

/-- A file is kept for the minute its response allows. -/
theorem dccStores_minute : DccStores "public, max-age=60" 60000 :=
  replay_eq_some_iff.mp (by decide +kernel)

/-- What is stored with a `max-age` of a minute is judged by it. -/
theorem response_readUntil_iff_minute :
    ∃ url result left,
      (dccFront "public, max-age=60").getLast? = some ⟨.httpGet url, .ok result⟩ ∧
      TimeLeft dccContext.platform (dccFront "public, max-age=60") (.dccLegacy "DCC" "https://dcc")
        "dcc-legacy:https://dcc" (.json dccBody) left ∧
      ∀ seconds, StatesMaxAge result.headers seconds →
        ((∀ time, ReadUntil "dcc-legacy:https://dcc" (.json dccBody)
            ((60000 : ℚ) : WithTop ℚ) time (time + seconds * 1000)) ↔
          AllowsAtMost result.headers left seconds) :=
  response_readUntil_iff (by decide) dccStores_minute

/-- With a `max-age` of zero the body is stored for an hour, and read after it should
no longer be. -/
theorem not_readUntil_maxAgeZero :
    DccStores "max-age=0" 3600000 ∧ StatesMaxAge [("cache-control", "max-age=0")] 0 ∧
      ¬∀ time, ReadUntil "dcc-legacy:https://dcc" (.json dccBody)
        ((3600000 : ℚ) : WithTop ℚ) time (time + (0 : Nat) * 1000) := by
  refine ⟨replay_eq_some_iff.mp (by decide +kernel), ?_, ?_⟩
  · exact ⟨"max-age=0", "max-age".toList, "0".toList, rfl, by decide +kernel, by decide,
      by decide, by decide, by decide⟩
  · intro h
    have hread := (readUntil_iff.mp (h 0)).2
    rw [instant_add_le_iff] at hread
    have hms : (3600000 : ℚ) ≤ (0 : Nat) * 1000 := by exact_mod_cast hread
    norm_num at hms

end VerifierCore
