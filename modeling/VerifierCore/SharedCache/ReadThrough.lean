import VerifierCore.Foundations.Evaluation
import VerifierCore.Foundations.RelyGuarantee
import VerifierCore.SharedCache.Lifetimes
import VerifierCore.SharedCache.Memberships

/-!
# Caches that change no answer

The handlers of the `dcc-legacy` and `oidf` registries read a file or a token through
the cache.  As long as the documents behind their URLs do not change, the cache only
holds copies of them, and a handler answers what it would answer without a cache at the
same reading of the clock.

Main results:

- Theorem {lit}`guarantees_createRegistryLookup`: lookups store copies only.
- Theorem {lit}`agreesOn_lookupDccLegacy` and {lit}`agreesOn_lookupOidf`: on copies, a
  handler answers as it does without a cache.
- Theorem {lit}`handlers_readThrough`: so it does throughout every run of lookups.
-/

namespace VerifierCore

open Foundations Program

/-! ## Documents that do not change -/

/-- What each URL is answered with. -/
abbrev Site : Type :=
  String → Except Thrown HttpGetResult

/-- Requests are answered by the site. -/
def AnsweredBy (site : Site) (event : PortEvent) : Prop :=
  ∀ url answer, event = ⟨.httpGet url, answer⟩ → answer = site url

/-- The answers without a cache, at one reading of the clock. -/
def coldAnswer (site : Site) (nowMs : ℚ) : (port : Port) → port.Answer
  | .cacheGet _ => none
  | .cacheSet .. => ()
  | .httpGet url => site url
  | .dateNowMs => nowMs
  | .performanceNowMs => (0 : ℚ)
  | .canVerify .. => .error .null
  | .verifyCredential .. => .error .null
  | .verifyPresentation .. => .error .null
  | .loadStatusLists _ => []
  | .readStatusLists .. => .error ⟨.null, none⟩

/-- The file at the URL, if it is one that is cached. -/
def Site.file? (site : Site) (url : String) : Option Json :=
  match site url with
  | .error _ => none
  | .ok result => if result.isOk then result.body.filter fun body =>
      isDccLegacyRegistryBody (some body) else none

/-- The token at the URL, if there is one. -/
def Site.token? (site : Site) (platform : Platform) (url : String) : Option String :=
  match site url with
  | .error _ => none
  | .ok result => if result.isOk then (bodyToJwt platform result.body).toOption else none

/-- The value is a copy of what is behind its key. -/
inductive IsCopy (platform : Platform) (site : Site) : String → CacheValue → Prop
  | file {url : String} {body : Json} : site.file? url = some body →
      IsCopy platform site (cacheKeyForDccLegacyUrl url) (.json body)
  | configuration {url jwt : String} : site.token? platform url = some jwt →
      IsCopy platform site (cacheKeyForOidfEntityConfig url) (.json (.str jwt))
  | statement {url jwt : String} : site.token? platform url = some jwt →
      IsCopy platform site (cacheKeyForOidfLookup url) (.json (.str jwt))

/-- A key of a file or a token. -/
def IsCopyKey (key : String) : Prop :=
  InNamespace .dccLegacy key ∨ InNamespace .oidf key

/-! ### Keys -/

/-- The key of a file is one that copies are kept under. -/
theorem isCopyKey_file (url : String) : IsCopyKey (cacheKeyForDccLegacyUrl url) :=
  .inl ⟨url, rfl⟩

/-- The key of an entity configuration is one that copies are kept under. -/
theorem isCopyKey_configuration (url : String) : IsCopyKey (cacheKeyForOidfEntityConfig url) :=
  .inr ⟨"ec:" ++ url, by
    rw [cacheKeyForOidfEntityConfig, ← String.append_assoc]
    rfl⟩

/-- The key of a subordinate statement is one that copies are kept under. -/
theorem isCopyKey_statement (url : String) : IsCopyKey (cacheKeyForOidfLookup url) :=
  .inr ⟨"lookup:" ++ url, by
    rw [cacheKeyForOidfLookup, ← String.append_assoc]
    rfl⟩

section

variable {platform : Platform} {site : Site} {url : String} {value : CacheValue}

/-- A copy of a file is the body that its URL answers. -/
theorem isCopy_file_iff :
    IsCopy platform site (cacheKeyForDccLegacyUrl url) value ↔
      ∃ body, site.file? url = some body ∧ value = .json body := by
  constructor
  · intro h
    generalize hkey : cacheKeyForDccLegacyUrl url = key at h
    have hchars := congrArg String.toList hkey
    cases h with
    | @file url' body hfile =>
        have hurl : url = url' := by
          simpa [cacheKeyForDccLegacyUrl, String.toList_append, String.toList_inj] using hchars
        rw [hurl]
        exact ⟨body, hfile, rfl⟩
    | configuration | statement =>
        simp [cacheKeyForDccLegacyUrl, cacheKeyForOidfEntityConfig, cacheKeyForOidfLookup,
          String.toList_append] at hchars
  · rintro ⟨body, hfile, rfl⟩
    exact .file hfile

/-- A copy of an entity configuration is the token behind its URL. -/
theorem isCopy_configuration_iff :
    IsCopy platform site (cacheKeyForOidfEntityConfig url) value ↔
      ∃ jwt, site.token? platform url = some jwt ∧ value = .json (.str jwt) := by
  constructor
  · intro h
    generalize hkey : cacheKeyForOidfEntityConfig url = key at h
    have hchars := congrArg String.toList hkey
    cases h with
    | @configuration url' jwt htoken =>
        have hurl : url = url' := by
          simpa [cacheKeyForOidfEntityConfig, String.toList_append, String.toList_inj] using hchars
        rw [hurl]
        exact ⟨jwt, htoken, rfl⟩
    | file | statement =>
        simp [cacheKeyForDccLegacyUrl, cacheKeyForOidfEntityConfig, cacheKeyForOidfLookup,
          String.toList_append] at hchars
  · rintro ⟨jwt, htoken, rfl⟩
    exact .configuration htoken

/-- A copy of a statement is the token behind its URL. -/
theorem isCopy_statement_iff :
    IsCopy platform site (cacheKeyForOidfLookup url) value ↔
      ∃ jwt, site.token? platform url = some jwt ∧ value = .json (.str jwt) := by
  constructor
  · intro h
    generalize hkey : cacheKeyForOidfLookup url = key at h
    have hchars := congrArg String.toList hkey
    cases h with
    | @statement url' jwt htoken =>
        have hurl : url = url' := by
          simpa [cacheKeyForOidfLookup, String.toList_append, String.toList_inj] using hchars
        rw [hurl]
        exact ⟨jwt, htoken, rfl⟩
    | file | configuration =>
        simp [cacheKeyForDccLegacyUrl, cacheKeyForOidfEntityConfig, cacheKeyForOidfLookup,
          String.toList_append] at hchars
  · rintro ⟨jwt, htoken, rfl⟩
    exact .statement htoken

end

/-! ## What is read from a site -/

/-- A file that is fetched is the one at its URL. -/
theorem file?_of_fetched {site : Site} {url : String} {trace : List PortEvent}
    {loaded : Option (Json × ℚ)} (h : Executes (fetchDccLegacyRegistry url) trace loaded)
    (hsite : ∀ event ∈ trace, AnsweredBy site event) : loaded.map Prod.fst = site.file? url := by
  rcases executes_ask_bind_iff.mp h with ⟨fetched, rest, rfl, hrest⟩
  have hfetched : fetched = site url := hsite _ List.mem_cons_self url fetched rfl
  rw [Site.file?, ← hfetched]
  cases fetched with
  | error error =>
      rcases executes_pure_iff.mp hrest with ⟨_, rfl⟩
      rfl
  | ok result =>
      dsimp only at hrest ⊢
      by_cases hok : result.isOk = true
      · rw [if_neg (by simp [hok])] at hrest
        rw [if_pos hok]
        cases hbody : result.body with
        | none =>
            simp only [hbody] at hrest
            rcases executes_pure_iff.mp hrest with ⟨_, rfl⟩
            rfl
        | some body =>
            simp only [hbody] at hrest
            by_cases hfile : isDccLegacyRegistryBody (some body) = true
            · rw [if_neg (by simp [hfile])] at hrest
              rcases executes_pure_iff.mp hrest with ⟨_, rfl⟩
              rw [Option.filter_some, if_pos hfile, Option.map_some]
            · rw [if_pos (by simp [hfile])] at hrest
              rcases executes_pure_iff.mp hrest with ⟨_, rfl⟩
              rw [Option.filter_some, if_neg hfile, Option.map_none]
      · rw [if_pos (by simp [hok])] at hrest
        rcases executes_pure_iff.mp hrest with ⟨_, rfl⟩
        simp [hok]

/-! ## Only copies are stored -/

/-- What is stored as a file or a token is a copy. -/
def StoresCopies (platform : Platform) (site : Site) (event : PortEvent) : Prop :=
  ∀ key value ttlMs, event.op = .cacheSet key value ttlMs → IsCopyKey key →
    IsCopy platform site key value

section

variable {platform : Platform} {site : Site}

/-- What stores nothing stores only copies. -/
theorem storesCopies_of_ne {op : Port} (h : ∀ key value ttlMs, op ≠ .cacheSet key value ttlMs)
    (given : op.Answer) : StoresCopies platform site ⟨op, given⟩ := by
  intro key value ttlMs hop
  exact absurd hop (h key value ttlMs)

/-- Storing a copy is allowed. -/
theorem storesCopies_of_isCopy {key : String} {value : CacheValue} {ttlMs : Num}
    (h : IsCopy platform site key value) (given : Port.Answer (.cacheSet key value ttlMs)) :
    StoresCopies platform site ⟨.cacheSet key value ttlMs, given⟩ := by
  intro key' value' ttlMs' hop _
  cases hop
  exact h

/-- While the files answer alike, a lookup in a file stores only copies. -/
theorem guarantees_lookupDccLegacyForRegistry (did url : String) :
    Guarantees (AnsweredBy site) (StoresCopies platform site)
      (lookupDccLegacyForRegistry did url) := by
  apply Guarantees.perform_bind (storesCopies_of_ne (by simp))
  intro cached _
  cases cachedDocument cached with
  | some body => exact guarantees_pure _
  | none =>
      apply Guarantees.bind
      · refine (confined_fetchDccLegacyRegistry url).guarantees ?_
        rintro op given hleaves
        apply storesCopies_of_ne
        rintro key value ttlMs rfl
        exact hleaves
      · intro trace loaded hfetched hsite
        have hfile := file?_of_fetched hfetched hsite
        cases loaded with
        | none => exact guarantees_pure _
        | some loaded =>
            apply Guarantees.perform_bind (storesCopies_of_isCopy (.file hfile.symm))
            intro _ _
            exact guarantees_pure _

/-- A token is stored under its key if it is a copy of the one at its URL. -/
theorem TokenSource.guarantees_read {α β : Type} {source : TokenSource α β} {nowMs : ℚ}
    (hcopy : ∀ jwt, site.token? platform source.url = some jwt →
      IsCopy platform site source.key (.json (.str jwt))) :
    Guarantees (AnsweredBy site) (StoresCopies platform site) (source.read platform nowMs) := by
  apply Guarantees.perform_bind (storesCopies_of_ne (by simp))
  intro cached _
  cases (cachedJwt cached).bind source.verify with
  | some a => exact guarantees_pure _
  | none =>
      apply Guarantees.perform_bind (storesCopies_of_ne (by simp))
      intro fetched hfetched
      have hanswer : fetched = site source.url := hfetched source.url fetched rfl
      cases fetched with
      | error error => exact guarantees_pure _
      | ok result =>
          dsimp only
          by_cases hok : result.isOk = true
          · rw [if_neg (by simp [hok])]
            cases hbody : bodyToJwt platform result.body with
            | error error => exact guarantees_pure _
            | ok jwt =>
                have htoken : site.token? platform source.url = some jwt := by
                  rw [Site.token?, ← hanswer]
                  simp [hok, hbody, Except.toOption]
                dsimp only
                cases source.verify jwt with
                | none => exact guarantees_pure _
                | some a =>
                    apply Guarantees.perform_bind (storesCopies_of_isCopy (hcopy jwt htoken))
                    intro _ _
                    exact guarantees_pure _
          · rw [if_pos (by simp [hok])]
            exact guarantees_pure _

/-- While the endpoints answer alike, a lookup of a federation stores only copies. -/
theorem guarantees_lookupOidfForRegistry (did trustAnchorEC : String) :
    Guarantees (AnsweredBy site) (StoresCopies platform site)
      (lookupOidfForRegistry platform did trustAnchorEC) := by
  apply Guarantees.perform_bind (storesCopies_of_ne (by simp))
  intro nowMs _
  apply Guarantees.bind
  · rw [getVerifiedEntityConfiguration_eq]
    exact TokenSource.guarantees_read fun _ htoken => .configuration htoken
  · intro _ configured _ _
    match configured with
    | .error error => exact guarantees_pure _
    | .ok none => exact guarantees_pure _
    | .ok (some ec) =>
        dsimp only
        cases platform.urlWithSub ec.fetchEndpoint did with
        | none => exact guarantees_pure _
        | some lookupUrl =>
            dsimp only
            rw [lookupSubordinateStatement_eq]
            exact TokenSource.guarantees_read fun _ htoken => .statement htoken

/-- A program that writes in another namespace stores no copy at all. -/
theorem guarantees_of_writesIn {α : Type} {program : Async α} {writer : CacheNamespace}
    (hprogram : program.Confined (Port.WritesIn writer)) (hdcc : writer ≠ .dccLegacy)
    (hoidf : writer ≠ .oidf) :
    Guarantees (AnsweredBy site) (StoresCopies platform site) program := by
  refine hprogram.guarantees ?_
  rintro op given hwrites key value ttlMs hop hkey
  have hwriter := hwrites key value ttlMs hop
  rcases hkey with hkey | hkey
  · exact absurd (hwriter.unique hkey) hdcc
  · exact absurd (hwriter.unique hkey) hoidf

/-- In a verifier's hands, each of the default handlers stores only copies while it is answered
by the site. -/
theorem guarantees_defaultHandlers (config : VerifierConfig) (depth : Nat) (type : RegistryType)
    (did : String) (registry : EntityIdentityRegistry) :
    Guarantees (AnsweredBy site) (StoresCopies platform site)
      (defaultHandlers type did registry (handlerContext platform config depth)) := by
  cases type with
  | dccLegacy =>
      cases registry with
      | dccLegacy name url => exact guarantees_lookupDccLegacyForRegistry did url
      | oidf | vcRecognition => exact guarantees_pure _
  | oidf =>
      cases registry with
      | oidf name anchor => exact guarantees_lookupOidfForRegistry did anchor
      | dccLegacy | vcRecognition => exact guarantees_pure _
  | vcRecognition =>
      exact guarantees_of_writesIn (confined_lookupVcRecognition platform config depth did registry)
        (by decide) (by decide)

section

variable {handlers : RegistryHandlerMap} {context : RegistryHandlerContext} {did : String}
  (hhandlers : ∀ type registry, Guarantees (AnsweredBy site) (StoresCopies platform site)
    (handlers type did registry context))

include hhandlers

/-- A walk over registries stores only copies if their handlers do. -/
theorem guarantees_walkRegistries (exhaustive : Bool) (registries : List EntityIdentityRegistry) :
    Guarantees (AnsweredBy site) (StoresCopies platform site)
      (walkRegistries handlers context did exhaustive registries) := by
  induction registries with
  | nil => exact guarantees_pure _
  | cons registry rest ih =>
      apply (hhandlers registry.type registry).bind
      intro _ outcome _ _
      match outcome with
      | .error error => exact guarantees_pure _
      | .ok (.found entity) =>
          dsimp only
          split_ifs
          · exact ih.bind fun _ _ _ _ => guarantees_pure _
          · exact guarantees_pure _
      | .ok .notFound => exact ih
      | .ok .unchecked => exact ih.bind fun _ _ _ _ => guarantees_pure _

/-- A lookup that stores its result stores only copies besides if its handlers do. -/
theorem guarantees_lookupAndStore (exhaustive : Bool) (registries : List EntityIdentityRegistry) :
    Guarantees (AnsweredBy site) (StoresCopies platform site)
      (lookupAndStore handlers context did registries exhaustive) := by
  apply (guarantees_walkRegistries hhandlers exhaustive registries).bind
  intro _ walked _ _
  cases walked with
  | error error => exact guarantees_pure _
  | ok payload =>
      apply Guarantees.perform_bind
      · rintro given key value ttlMs hop hkey
        cases hop
        have hresult := inNamespace_resultCacheKey did registries
        rcases hkey with hkey | hkey
        · cases hresult.unique hkey
        · cases hresult.unique hkey
      · intro _ _
        exact guarantees_pure _

/-- A lookup stores its result besides what its handlers store. -/
theorem guarantees_createRegistryLookup (registries : List EntityIdentityRegistry)
    (options : LookupIssuersOptions) :
    Guarantees (AnsweredBy site) (StoresCopies platform site)
      (createRegistryLookup handlers context did registries options) := by
  unfold createRegistryLookup
  split_ifs
  · exact guarantees_lookupAndStore hhandlers options.exhaustive registries
  · apply Guarantees.perform_bind (storesCopies_of_ne (by simp))
    intro cached _
    cases cachedResult cached with
    | some result => exact guarantees_pure _
    | none => exact guarantees_lookupAndStore hhandlers options.exhaustive registries

end

/-! ## Reading copies -/

/-- Requests are answered by the site, and what is read as a file or a token is a copy. -/
structure ReadsCopies (platform : Platform) (site : Site) (event : PortEvent) : Prop where
  answered : AnsweredBy site event
  copy : ∀ key value, event = ⟨.cacheGet key, some value⟩ → IsCopyKey key →
    IsCopy platform site key value

/-- Besides, the clock reads one time. -/
structure ReadsCopiesAt (platform : Platform) (site : Site) (nowMs : ℚ) (event : PortEvent) : Prop
    extends ReadsCopies platform site event where
  reading : ∀ reading, event = ⟨.dateNowMs, reading⟩ → reading = nowMs

variable {nowMs : ℚ}

/-- Without a cache the file at the URL is asked for the issuer. -/
theorem eval_lookupDccLegacyForRegistry (did url : String) :
    (lookupDccLegacyForRegistry did url).eval (coldAnswer site nowMs) =
      (site.file? url).elim (.ok .unchecked) fun file => dccLegacyAnswer file did := by
  rcases executes_eval (coldAnswer site nowMs) (fetchDccLegacyRegistry url) with
    ⟨trace, hexec, hanswers⟩
  have hsite : ∀ event ∈ trace, AnsweredBy site event := by
    rintro event hevent url' answer rfl
    exact hanswers _ hevent
  have hfile := file?_of_fetched hexec hsite
  unfold lookupDccLegacyForRegistry
  rw [ask, eval_perform_bind]
  have hmiss : cachedDocument (coldAnswer site nowMs (.cacheGet (cacheKeyForDccLegacyUrl url))) =
    none := rfl
  simp only [hmiss]
  rw [eval_bind, ← hfile]
  cases (fetchDccLegacyRegistry url).eval (coldAnswer site nowMs) with
  | none => rfl
  | some loaded => rfl

/-- A request is answered by the site. -/
theorem ReadsCopies.answer_eq {url : String} {given : Except Thrown HttpGetResult}
    (h : ReadsCopies platform site ⟨.httpGet url, given⟩) : given = site url :=
  h.answered url given rfl

/-- A fetched file is the same with a cache and without one. -/
theorem agreesOn_fetchDccLegacyRegistry (url : String) :
    AgreesOn (ReadsCopies platform site) (coldAnswer site nowMs)
      (fetchDccLegacyRegistry url) := by
  apply AgreesOn.perform_bind_of_eq fun given hgiven => ReadsCopies.answer_eq hgiven
  dsimp only [coldAnswer]
  cases site url with
  | error error => exact agreesOn_pure _
  | ok result =>
      dsimp only
      split_ifs
      · exact agreesOn_pure _
      · cases result.body with
        | none => exact agreesOn_pure _
        | some body =>
            dsimp only
            split_ifs
            · exact agreesOn_pure _
            · exact agreesOn_pure _

/-- A lookup in a file reads the same from a copy as from the site. -/
theorem agreesOn_lookupDccLegacyForRegistry (did url : String) :
    AgreesOn (ReadsCopies platform site) (coldAnswer site nowMs)
      (lookupDccLegacyForRegistry did url) := by
  apply AgreesOn.perform_bind
  intro cached hcached
  cases hdocument : cachedDocument cached with
  | some body =>
      refine ⟨agreesOn_pure _, ?_⟩
      rcases cachedDocument_eq_some_iff.mp hdocument with ⟨value, rfl, hvalue, _⟩
      have hcopy := hcached.copy _ _ rfl (isCopyKey_file url)
      rcases isCopy_file_iff.mp hcopy with ⟨file, hfile, rfl⟩
      cases hvalue
      have hcold : (lookupDccLegacyForRegistry did url).eval (coldAnswer site nowMs) =
          (site.file? url).elim (.ok .unchecked) fun file => dccLegacyAnswer file did :=
        eval_lookupDccLegacyForRegistry did url
      rw [hfile] at hcold
      exact hcold.symm
  | none =>
      refine ⟨?_, rfl⟩
      apply (agreesOn_fetchDccLegacyRegistry url).bind
      cases (fetchDccLegacyRegistry url).eval (coldAnswer site nowMs) with
      | none => exact agreesOn_pure _
      | some loaded =>
          apply AgreesOn.perform_bind_of_eq fun _ _ => rfl
          exact agreesOn_pure _

/-- Without a cache a token that verifies is accepted. -/
theorem TokenSource.eval_fetch_of_token {α β : Type} {source : TokenSource α β} {jwt : String}
    {a : α} {at' : ℚ} (htoken : site.token? platform source.url = some jwt)
    (hverified : source.verify jwt = some a) :
    (source.fetch platform at').eval (coldAnswer site nowMs) = .ok (source.accepted a) := by
  unfold Site.token? at htoken
  cases hanswer : site source.url with
  | error error => simp [hanswer] at htoken
  | ok result =>
      rw [hanswer] at htoken
      dsimp only at htoken
      split_ifs at htoken with hok
      cases hbody : bodyToJwt platform result.body with
      | error error => simp [hbody, Except.toOption] at htoken
      | ok body =>
          have hsame : body = jwt := by simpa [hbody, Except.toOption] using htoken
          subst hsame
          rw [TokenSource.fetch, ask, eval_perform_bind]
          simp only [coldAnswer, hanswer, hok, Bool.not_true, Bool.false_eq_true, if_false, hbody,
            hverified]
          rfl

/-- A token that verifies is the one that would be fetched; any other one is fetched. -/
theorem TokenSource.agreesOn_read {α β : Type} {source : TokenSource α β} {at' : ℚ}
    (hcopy : ∀ value, ReadsCopies platform site ⟨.cacheGet source.key, some value⟩ →
      ∃ jwt, site.token? platform source.url = some jwt ∧ value = .json (.str jwt)) :
    AgreesOn (ReadsCopies platform site) (coldAnswer site nowMs)
      (source.read platform at') := by
  have hfetch : AgreesOn (ReadsCopies platform site) (coldAnswer site nowMs)
      (source.fetch platform at') := by
    apply AgreesOn.perform_bind_of_eq fun given hgiven => ReadsCopies.answer_eq hgiven
    dsimp only [coldAnswer]
    cases site source.url with
    | error error => exact agreesOn_pure _
    | ok result =>
        dsimp only
        split_ifs
        · exact agreesOn_pure _
        · cases bodyToJwt platform result.body with
          | error error => exact agreesOn_pure _
          | ok jwt =>
              dsimp only
              cases source.verify jwt with
              | none => exact agreesOn_pure _
              | some a =>
                  apply AgreesOn.perform_bind_of_eq fun _ _ => rfl
                  exact agreesOn_pure _
  apply AgreesOn.perform_bind
  intro cached hcached
  cases hread : (cachedJwt cached).bind source.verify with
  | some a =>
      refine ⟨agreesOn_pure _, ?_⟩
      rcases Option.bind_eq_some_iff.mp hread with ⟨jwt, hjwt, hverified⟩
      rcases cachedJwt_eq_some_iff.mp hjwt with ⟨value, rfl, hvalue, _⟩
      rcases hcopy value hcached with ⟨token, htoken, rfl⟩
      cases hvalue
      exact (TokenSource.eval_fetch_of_token htoken hverified).symm
  | none => exact ⟨hfetch, rfl⟩

/-- A lookup of a federation does so at one reading of the clock. -/
theorem agreesOn_lookupOidfForRegistry (did trustAnchorEC : String) :
    AgreesOn (ReadsCopiesAt platform site nowMs) (coldAnswer site nowMs)
      (lookupOidfForRegistry platform did trustAnchorEC) := by
  apply AgreesOn.perform_bind_of_eq fun given hgiven => hgiven.reading given rfl
  apply AgreesOn.bind
  · rw [getVerifiedEntityConfiguration_eq]
    apply AgreesOn.imp (TokenSource.agreesOn_read _) fun _ hevent => hevent.toReadsCopies
    intro value hvalue
    exact isCopy_configuration_iff.mp (hvalue.copy _ _ rfl (isCopyKey_configuration _))
  · split
    · exact agreesOn_pure _
    · exact agreesOn_pure _
    · split
      · exact agreesOn_pure _
      · rw [lookupSubordinateStatement_eq]
        apply AgreesOn.imp (TokenSource.agreesOn_read _) fun _ hevent => hevent.toReadsCopies
        intro value hvalue
        exact isCopy_statement_iff.mp (hvalue.copy _ _ rfl (isCopyKey_statement _))

/-- The handlers that read through the cache. -/
theorem agreesOn_defaultHandlers {type : RegistryType} (htype : type ≠ .vcRecognition)
    (did : String) (registry : EntityIdentityRegistry) (context : RegistryHandlerContext) :
    AgreesOn (ReadsCopiesAt context.platform site nowMs) (coldAnswer site nowMs)
      (defaultHandlers type did registry context) := by
  cases type with
  | dccLegacy =>
      cases registry with
      | dccLegacy name url =>
          exact (agreesOn_lookupDccLegacyForRegistry did url).imp
            fun _ hevent => hevent.toReadsCopies
      | oidf | vcRecognition => exact agreesOn_pure _
  | oidf =>
      cases registry with
      | oidf name anchor => exact agreesOn_lookupOidfForRegistry did anchor
      | dccLegacy | vcRecognition => exact agreesOn_pure _
  | vcRecognition => exact absurd rfl htype

/-! ## Runs of lookups -/

/-- A verifier's lookup stores copies only. -/
theorem guarantees_verifierLookup {config : VerifierConfig} (depth : Nat)
    (hhandlers : config.registryHandlers = none) (call : ResultCall) :
    Guarantees (AnsweredBy site) (StoresCopies platform site)
      (verifierLookup platform config depth call) := by
  have hconfig : config.handlers = defaultHandlers := by simp [VerifierConfig.handlers, hhandlers]
  have hdefault (type : RegistryType) (registry : EntityIdentityRegistry) :
      Guarantees (AnsweredBy site) (StoresCopies platform site)
        (config.handlers type call.did registry (handlerContext platform config depth)) := by
    rw [hconfig]
    exact guarantees_defaultHandlers config depth type call.did registry
  exact guarantees_createRegistryLookup hdefault call.registries call.options

section

variable {config : VerifierConfig} {depth : Nat} {run : Run ResultCall ℚ Port Port.Answer}
  (hhandlers : config.registryHandlers = none)
  (hfollows : run.Follows (verifierLookup platform config depth))
  (hcache : SharedCache run.history)
  (hsite : ∀ stamped ∈ run.history, AnsweredBy site stamped.event)

include hhandlers hfollows hcache hsite

/-- What a call of the run reads as a file or a token is a copy. -/
theorem readsCopies_of_run {i : Nat} {event : PortEvent} (hevent : event ∈ own run.history i) :
    ReadsCopies platform site event := by
  obtain ⟨stamped, hmem, _, rfl⟩ := mem_own_iff.mp hevent
  refine ⟨hsite stamped hmem, ?_⟩
  intro key value hhit hkey
  have hcopies := Run.guaranteed hfollows
    (fun call _ => guarantees_verifierLookup depth hhandlers call) hsite
  rcases List.append_of_mem hmem with ⟨before, after, hsplit⟩
  rcases hcache before stamped after hsplit ⟨key, value, hhit⟩ with
    ⟨earlier, write, later, rfl, key', value', ttlMs, hwrite, hread, _⟩
  rw [hhit] at hread
  cases hread
  have hstored := hcopies write (by simp [hsplit])
  rw [hwrite] at hstored
  exact hstored key value ttlMs rfl hkey

/-- While the documents of a site do not change, a `dcc-legacy` or `oidf` handler answers
throughout a run of lookups that share a cache as it does without a cache at the same
reading of the clock. -/
theorem handlers_readThrough {i : Nat} {registry : EntityIdentityRegistry} {did : String}
    (htype : registry.type ≠ .vcRecognition) {events : List PortEvent}
    {outcome : Except Thrown HandlerResult} (hinside : events <:+: own run.history i)
    (hruns : Executes (defaultHandlers registry.type did registry
      (handlerContext platform config depth)) events outcome)
    (hreading : ∀ reading, ⟨.dateNowMs, reading⟩ ∈ events → reading = nowMs) :
    outcome = (defaultHandlers registry.type did registry
      (handlerContext platform config depth)).eval (coldAnswer site nowMs) := by
  apply agreesOn_defaultHandlers htype did registry _ events outcome hruns
  intro event hevent
  refine ⟨readsCopies_of_run hhandlers hfollows hcache hsite (hinside.subset hevent), ?_⟩
  rintro reading rfl
  exact hreading reading hevent

end

end

/-! ### A file that is fetched once -/

namespace ListedIssuer

/-- A runtime without URLs and dates. -/
def platform : Platform :=
  PlatformTable.platform {}

/-- The response with the file. -/
def response : HttpGetResult where
  body := some dccBody
  headers := []
  status := 200

/-- The file is the only document. -/
def site : Site := fun url =>
  if url = "https://dcc" then .ok response else .error .null

/-- The registry of the file. -/
def registry : EntityIdentityRegistry :=
  .dccLegacy "DCC" "https://dcc"

/-- A lookup of an issuer in the registry. -/
def call (did : String) : ResultCall :=
  ⟨did, [registry], {}⟩

/-- The key that the result of the lookup is stored under. -/
def resultKey (did : String) : String :=
  resultCacheKey did [registry]

/-- What a lookup of the listed issuer finds. -/
def listed : RegistryLookupResult :=
  lookupResultOf
    { matchesFound :=
        [{ registry := { name := "DCC", type := .dccLegacy, url := "https://dcc" }
           entity := some (dccLegacyEntity (.obj [("name", .str "Issuer")])) }]
      uncheckedRegistries := [] }

/-- What a lookup of another issuer finds. -/
def unlisted : RegistryLookupResult :=
  lookupResultOf { matchesFound := [], uncheckedRegistries := [] }

/-- The handler of the second lookup reads the file from the cache. -/
def cachedVisit : List PortEvent :=
  [⟨.cacheGet "dcc-legacy:https://dcc", some (.json dccBody)⟩]

/-- A listed issuer is looked up, and then one that is not. -/
def lookups : List (ResultCall × List (ℚ × PortEvent)) :=
  [(call "did:example:issuer",
      [(0, ⟨.cacheGet (resultKey "did:example:issuer"), none⟩),
        (0, ⟨.cacheGet "dcc-legacy:https://dcc", none⟩),
        (0, ⟨.httpGet "https://dcc", .ok response⟩),
        (0, ⟨.cacheSet "dcc-legacy:https://dcc" (.json dccBody) ((3600000 : ℚ) : WithTop ℚ), ()⟩),
        (0, ⟨.cacheSet (resultKey "did:example:issuer") (.lookupResult listed)
          ((3600000 : ℚ) : WithTop ℚ), ()⟩)]),
    (call "did:example:other",
      (0, ⟨.cacheGet (resultKey "did:example:other"), none⟩) ::
        cachedVisit.map (fun event => (0, event)) ++
        [(0, ⟨.cacheSet (resultKey "did:example:other") (.lookupResult unlisted)
          ((3600000 : ℚ) : WithTop ℚ), ()⟩)])]

/-- Each of the calls executes the lookup. -/
theorem executes_lookups : ∀ part ∈ lookups, ∃ result,
    Executes (verifierLookup platform {} 0 part.1) (part.2.map Prod.snd) result := by
  intro part hpart
  simp only [lookups, List.mem_cons, List.not_mem_nil, or_false] at hpart
  rcases hpart with rfl | rfl
  · exact ⟨.ok listed, replay_eq_some_iff.mp (by decide +kernel)⟩
  · exact ⟨.ok unlisted, replay_eq_some_iff.mp (by decide +kernel)⟩

/-- One after another they are a run of lookups. -/
theorem follows : (Run.sequential lookups).Follows (verifierLookup platform {} 0) :=
  Run.follows_sequential executes_lookups

/-- What they read from the cache was stored before. -/
theorem sharedCache : SharedCache (Run.sequential lookups).history := by
  apply sharedCache_of_allAllowed
  decide +kernel

/-- The site answers their requests. -/
theorem answeredBy :
    ∀ stamped ∈ (Run.sequential lookups).history, AnsweredBy site stamped.event := by
  intro stamped hmem url answer hevent
  simp only [Run.sequential, lookups, Run.sequence, cachedVisit, List.map_cons, List.map_nil,
    List.cons_append, List.nil_append, List.append_nil, List.mem_cons, List.not_mem_nil,
    or_false] at hmem
  rcases hmem with rfl | rfl | rfl | rfl | rfl | rfl | rfl | rfl <;> cases hevent
  rfl

end ListedIssuer

/-- The handler that reads the file from the cache answers as if it fetched it. -/
theorem handlers_readThrough_listed :
    (.ok .notFound : Except Thrown HandlerResult) =
      (defaultHandlers ListedIssuer.registry.type "did:example:other" ListedIssuer.registry
        (handlerContext ListedIssuer.platform {} 0)).eval (coldAnswer ListedIssuer.site 0) := by
  have htype : ListedIssuer.registry.type ≠ .vcRecognition := by decide
  have hinside : ListedIssuer.cachedVisit <:+: own (Run.sequential ListedIssuer.lookups).history 1 :=
    ⟨[_], [_], rfl⟩
  have hruns : Executes (defaultHandlers ListedIssuer.registry.type "did:example:other"
      ListedIssuer.registry (handlerContext ListedIssuer.platform {} 0)) ListedIssuer.cachedVisit
      (.ok .notFound) := replay_eq_some_iff.mp (by decide +kernel)
  exact handlers_readThrough rfl ListedIssuer.follows ListedIssuer.sharedCache
    ListedIssuer.answeredBy htype hinside hruns (by simp [ListedIssuer.cachedVisit])

end VerifierCore
