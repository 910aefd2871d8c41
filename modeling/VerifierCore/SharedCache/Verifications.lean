import VerifierCore.Foundations.Restriction
import VerifierCore.SharedCache.Listings
import VerifierCore.Suites.IssuerRegistry
import VerifierCore.Verifier.AdditionalSuites

/-!
# Verifications on a shared cache

A verification looks the issuer up once, or not at all, and does nothing else with the
cache.  So a run of verifications on one cache is, on the calls of their lookups, a run of
lookups on it, and what holds of every lookup in such a run is reported by the registry
checks.

Main results:

- Theorem {lit}`hosts_verifyCredential`: the calls of a verification are those of one lookup
  and calls that leave the cache alone.
- Theorem {lit}`verifications_reportListings`: the registry check of every verification
  reports what the files list.
-/

namespace VerifierCore

open Foundations Program

/-! ## The registry check -/

/-- The outcome of the registry check, and what its lookup returned, if it made one.  Behind a
halt the check is only listed; otherwise it runs. -/
inductive LookedUp (issuer : Option String) (registries : List EntityIdentityRegistry)
    (halted : Bool) : CheckOutcome → Option (Except Thrown RegistryLookupResult) → Prop where
  | notRun {halter : String} :
      halted = true → LookedUp issuer registries halted (notRunOutcome halter) none
  | noRegistries :
      halted = false → registries = [] →
      LookedUp issuer registries halted
        (.skipped "No registries configured in verification context.") none
  | noIssuer :
      halted = false → registries ≠ [] → issuer = none →
      LookedUp issuer registries halted (failWith ProblemTypes.issuerNotFound "Issuer Not Found"
        "Credential has no issuer or issuer ID is missing.") none
  | looked {issuerDid : String} {result : RegistryLookupResult} :
      halted = false → registries ≠ [] → issuer = some issuerDid →
      LookedUp issuer registries halted (registryOutcome issuerDid registries result)
        (some (.ok result))
  | threw {issuerDid : String} {error : Thrown} :
      halted = false → registries ≠ [] → issuer = some issuerDid →
      LookedUp issuer registries halted (registryErrorOutcome error) (some (.error error))

/-- The rows of the registry suite, if it is asked, and what its lookup returned. -/
inductive RegistryRows (asked : Prop) (issuer : Option String)
    (registries : List EntityIdentityRegistry) (halted : Bool) :
    List CheckResult → Option (Except Thrown RegistryLookupResult) → Prop where
  | notAsked : ¬asked → RegistryRows asked issuer registries halted [] none
  | asked {row : CheckResult} {looked : Option (Except Thrown RegistryLookupResult)} :
      asked → row.suite = "registry" → LookedUp issuer registries halted row.outcome looked →
      RegistryRows asked issuer registries halted [row] looked

/-- The registry rows among all rows: they are halted by the rows in front of them. -/
def RegistryRowsIn (asked : Prop) (issuer : Option String)
    (registries : List EntityIdentityRegistry) (results : List CheckResult)
    (looked : Option (Except Thrown RegistryLookupResult)) : Prop :=
  ∃ front rows back, results = front ++ rows ++ back ∧ rowsOf "registry" front = [] ∧
    rowsOf "registry" back = [] ∧
    RegistryRows asked issuer registries (front.any CheckResult.isHaltingFailure) rows looked

section

variable {platform : Platform} {subject : VerificationSubject} {context : VerificationContext}
  {options : RunSuitesOptions} {credential : Json} {lookupIssuers : LookupIssuers}

/-- The check makes no call, or those of its lookup. -/
theorem lookedUp_of_issuerRegistryCheck
    (hcredential : subject.verifiableCredential = some credential)
    (htruthy : credential.truthy = true) (hlookup : context.lookupIssuers = some lookupIssuers)
    {store store' : ContextStore} {asked : List PortEvent} {found : Except Thrown CheckOutcome}
    (h : Executes (issuerRegistryCheck.execute subject context store) asked (found, store')) :
    ∃ outcome, found = .ok outcome ∧
      ((asked = [] ∧
          LookedUp (credentialIssuerId credential) (context.registries.getD []) false outcome
            none) ∨
        ∃ looked, Executes (lookupIssuers ((credentialIssuerId credential).getD "")
            (context.registries.getD []) {}) asked looked ∧
          LookedUp (credentialIssuerId credential) (context.registries.getD []) false outcome
            (some looked)) := by
  have hpresent : subject.verifiableCredential.filter Json.truthy = some credential := by
    rw [hcredential, Option.filter_some, if_pos htruthy]
  simp only [issuerRegistryCheck, hpresent] at h
  cases hregistries : context.registries.getD [] with
  | nil =>
      simp only [hregistries] at h
      obtain ⟨rfl, hpair⟩ := executes_pure_iff.mp h
      cases hpair
      exact ⟨_, rfl, .inl ⟨rfl, .noRegistries rfl rfl⟩⟩
  | cons registry registries =>
      have hsome : registry :: registries ≠ [] := List.cons_ne_nil _ _
      cases hissuer : credentialIssuerId credential with
      | none =>
          simp only [hregistries, hissuer] at h
          obtain ⟨rfl, hpair⟩ := executes_pure_iff.mp h
          cases hpair
          exact ⟨_, rfl, .inl ⟨rfl, .noIssuer rfl hsome rfl⟩⟩
      | some issuerDid =>
          simp only [hregistries, hissuer, hlookup] at h
          obtain ⟨first, rest, looked, rfl, hlooked, hrest⟩ := executes_bind_iff.mp h
          cases looked with
          | ok result =>
              obtain ⟨rfl, hpair⟩ := executes_pure_iff.mp hrest
              cases hpair
              exact ⟨_, rfl, .inr ⟨_, by simpa using hlooked, .looked rfl hsome rfl⟩⟩
          | error error =>
              obtain ⟨rfl, hpair⟩ := executes_pure_iff.mp hrest
              cases hpair
              exact ⟨_, rfl, .inr ⟨_, by simpa using hlooked, .threw rfl hsome rfl⟩⟩

/-- Reading a clock does not use the cache. -/
theorem ClockReadings.leavesCache {events : List PortEvent} (h : ClockReadings events) :
    ∀ event ∈ events, event.op.LeavesCache :=
  fun event hmem => Port.leavesCache_of_isClock _ (h event hmem)

/-- The calls of the registry suite are the lookup of its check. -/
theorem hosts_registrySuite (hcredential : subject.verifiableCredential = some credential)
    (htruthy : credential.truthy = true) (hlookup : context.lookupIssuers = some lookupIssuers)
    (state : RunState) :
    Hosts Port.LeavesCache
      (fun ran : List CheckResult × RunState =>
        RegistryRows (suiteRunsInPhases registrySuite options.phases = true)
          (subject.verifiableCredential.bind credentialIssuerId) (context.registries.getD [])
          state.haltedBy.isSome ran.1)
      (runSuite platform subject context options registrySuite state)
      (lookupIssuers ((subject.verifiableCredential.bind credentialIssuerId).getD "")
        (context.registries.getD []) {}) := by
  have hissuer : subject.verifiableCredential.bind credentialIssuerId =
      credentialIssuerId credential := by rw [hcredential, Option.bind_some]
  rw [hissuer]
  rintro trace ⟨rows, state'⟩ hrun
  rcases executes_runSuite _ _ _ _ _ hrun with ⟨entries, hreported, rfl, rfl, _⟩
  cases hreported with
  | outsidePhases hout =>
      refine ⟨⟨[], [], []⟩, rfl, by simp [Parted.Within], .inl ⟨rfl, .notAsked ?_⟩⟩
      rw [hout]
      exact Bool.false_ne_true
  | appliesThrew _ hthrew => cases hthrew
  | declined _ hdeclined => cases hdeclined
  | declinedExplicit _ hdeclined => cases hdeclined
  | @ran parts hphases _ hitems hparts =>
      rcases List.map_eq_singleton_iff.mp hitems with ⟨⟨check, left⟩, rfl, rfl⟩
      have hreported := hparts [] (_, left) [] rfl
      simp only [List.flatMap_nil, firstHalt_nil, Option.or_none] at hreported
      cases hreported with
      | notAdmitted hnot =>
          simp [appliesToSubject, checkAppliesTo, issuerRegistryCheck, subjectTypes,
            hcredential] at hnot
      | @notRun halter entry _ hhalted hrowOf houtcome hclock =>
          refine ⟨⟨entry.events, [], []⟩, by simp [Parted.whole], ?_,
            .inl ⟨rfl, .asked hphases hrowOf.2.2.1 ?_⟩⟩
          · simpa [Parted.Within] using hclock.leavesCache
          · rw [houtcome, hhalted]
            exact .notRun rfl
      | @ran entry store store' started asked finished found _ hrunning hrowOf hexec houtcome hevents
          hstarted hfinished =>
          obtain ⟨outcome, rfl, hlooked⟩ :=
            lookedUp_of_issuerRegistryCheck hcredential htruthy hlookup hexec
          have houtcome : entry.row.outcome = outcome := houtcome
          rw [← houtcome] at hlooked
          rw [hrunning]
          refine ⟨⟨started, asked, finished⟩, by simp [Parted.whole, hevents], ?_, ?_⟩
          · intro event hmem
            rcases List.mem_append.mp hmem with hfront | hback
            · exact hstarted.leavesCache event hfront
            · exact hfinished.leavesCache event hback
          · rcases hlooked with ⟨hnil, hlooked⟩ | ⟨looked, hran, hlooked⟩
            · exact .inl ⟨hnil, .asked hphases hrowOf.2.2.1 hlooked⟩
            · exact .inr ⟨looked, hran, .asked hphases hrowOf.2.2.1 hlooked⟩

end

/-! ## The other suites -/

/-- Suites that do not use the cache, under other ids than the registry suite. -/
structure KeepApart (suites : List VerificationSuite) : Prop where
  id : ∀ suite ∈ suites, suite.id ≠ "registry"
  leavesCache : ∀ suite ∈ suites, ∀ check ∈ suite.checks, ∀ subject context store,
    (check.execute subject context store).Confined Port.LeavesCache

theorem keepApart_nil : KeepApart [] :=
  ⟨by simp, by simp⟩

section

variable {platform : Platform}

/-- Suites that keep apart, followed by others that do. -/
theorem KeepApart.append {suites others : List VerificationSuite} (h : KeepApart suites)
    (h' : KeepApart others) : KeepApart (suites ++ others) := by
  constructor
  · intro suite hmem
    exact (List.mem_append.mp hmem).elim (h.id suite) (h'.id suite)
  · intro suite hmem
    exact (List.mem_append.mp hmem).elim (h.leavesCache suite) (h'.leavesCache suite)

/-- The suites in front of the registry suite keep apart. -/
theorem keepApart_frontSuites :
    KeepApart [coreSuite platform, recognitionSuite, proofSuite platform] := by
  constructor
  · simp [coreSuite, recognitionSuite, proofSuite]
  · intro suite hsuite check hcheck subject context store
    simp only [List.mem_cons, List.not_mem_nil, or_false] at hsuite
    rcases hsuite with rfl | rfl | rfl
    · simp only [coreSuite, List.mem_cons, List.not_mem_nil, or_false] at hcheck
      rcases hcheck with rfl | rfl | rfl | rfl | rfl | rfl <;> exact confined_pure _
    · simp only [recognitionSuite, List.mem_singleton] at hcheck
      subst hcheck
      exact confined_pure _
    · simp only [proofSuite, List.mem_cons, List.not_mem_nil, or_false] at hcheck
      rcases hcheck with rfl | rfl | rfl
      · exact leavesCache_signatureCheck subject context store
      · exact leavesCache_unsupportedProofsCheck subject context store
      · exact confined_pure _

/-- The status suite behind the registry suite keeps apart. -/
theorem keepApart_statusSuite : KeepApart [statusSuite platform] := by
  constructor
  · simp [statusSuite]
  · intro suite hsuite check hcheck subject context store
    rw [List.mem_singleton.mp hsuite] at hcheck
    simp only [statusSuite, List.mem_cons, List.not_mem_nil, or_false] at hcheck
    rcases hcheck with rfl | rfl
    · exact leavesCache_bitstringStatusCheck platform subject context store
    · exact leavesCache_statusListIssuerCheck subject context store

section

variable {suites : List VerificationSuite} {subject : VerificationSubject}
  {context : VerificationContext} {options : RunSuitesOptions} {state : RunState}

/-- The loop over suites that keep apart does not use the cache. -/
theorem KeepApart.confined_collect (h : KeepApart suites) :
    (collect (runSuite platform subject context options) suites state).Confined
      Port.LeavesCache := by
  apply Foundations.confined_collect
  intro suite hsuite state
  apply confined_runSuite Port.leavesCache_of_isClock
  intro check hcheck store
  exact h.leavesCache suite hsuite check hcheck subject context store

/-- The loop over them leaves no registry row. -/
theorem KeepApart.rowsOf_eq_nil (h : KeepApart suites) {state' : RunState}
    {events : List PortEvent} {rows : List CheckResult}
    (hrun : Executes (collect (runSuite platform subject context options) suites state) events
      (rows, state')) : rowsOf "registry" rows = [] := by
  apply VerifierCore.rowsOf_eq_nil (rowsFrom_collect hrun)
  intro hmem
  obtain ⟨suite, hsuite, hid⟩ := List.mem_map.mp hmem
  exact h.id suite hsuite hid

end

end

/-- One row of the registry suite stands among the others if the suite is asked, and none
otherwise. -/
theorem RegistryRowsIn.rowsOf_eq {asked : Prop} {issuer : Option String}
    {registries : List EntityIdentityRegistry} {results : List CheckResult}
    {looked : Option (Except Thrown RegistryLookupResult)}
    (h : RegistryRowsIn asked issuer registries results looked) :
    (asked → ∃ front row back, results = front ++ row :: back ∧
      rowsOf "registry" results = [row] ∧
      LookedUp issuer registries (front.any CheckResult.isHaltingFailure) row.outcome looked) ∧
    (¬asked → rowsOf "registry" results = []) := by
  obtain ⟨front, rows, back, rfl, hfront, hback, hrows⟩ := h
  simp only [rowsOf, List.filter_append] at hfront hback ⊢
  rw [hfront, hback, List.nil_append, List.append_nil]
  cases hrows with
  | notAsked hnot => exact ⟨fun hasked => absurd hasked hnot, fun _ => rfl⟩
  | @asked row looked hasked hsuite hlooked =>
      refine ⟨fun _ => ⟨front, row, back, by simp, ?_, hlooked⟩, fun hnot => absurd hasked hnot⟩
      simp [hsuite]

/-- The calls of the default suites and the added ones are those of the registry suite. -/
theorem hosts_runSuites {platform : Platform} {suites : List VerificationSuite}
    {subject : VerificationSubject} {context : VerificationContext} {options : RunSuitesOptions}
    {credential : Json} {lookupIssuers : LookupIssuers} (hsuites : KeepApart suites)
    (hcredential : subject.verifiableCredential = some credential)
    (htruthy : credential.truthy = true) (hlookup : context.lookupIssuers = some lookupIssuers) :
    Hosts Port.LeavesCache
      (fun ran : List CheckResult × ContextStore =>
        RegistryRowsIn (suiteRunsInPhases registrySuite options.phases = true)
          (subject.verifiableCredential.bind credentialIssuerId) (context.registries.getD []) ran.1)
      (runSuites platform (defaultSuites platform ++ suites) subject context options {})
      (lookupIssuers ((subject.verifiableCredential.bind credentialIssuerId).getD "")
        (context.registries.getD []) {}) := by
  have hsplit : defaultSuites platform ++ suites =
      [coreSuite platform, recognitionSuite, proofSuite platform] ++
        ([registrySuite] ++ ([statusSuite platform] ++ suites)) := rfl
  have hback : KeepApart ([statusSuite platform] ++ suites) :=
    keepApart_statusSuite.append hsuites
  rw [runSuites, hsplit, collect_append]
  simp only [collect_append [registrySuite], collect_singleton, bind_assoc, pure_bind]
  apply Hosts.of_bind keepApart_frontSuites.confined_collect
  rintro _ ⟨front, middle⟩ hfront
  apply Hosts.bind (hosts_registrySuite hcredential htruthy hlookup _)
  · intro ran
    apply Confined.bind hback.confined_collect
    intro rest
    exact confined_pure _
  · rintro ⟨rows, middle'⟩ trace ran hrest looked hrows
    obtain ⟨_, _, ⟨back, last⟩, _, hran, hpure⟩ := executes_bind_iff.mp hrest
    rw [(executes_pure_iff.mp hpure).2]
    rw [haltedBy_isSome_of_collect hfront] at hrows
    exact ⟨front, rows, back, by simp, keepApart_frontSuites.rowsOf_eq_nil hfront,
      hback.rowsOf_eq_nil hran, hrows⟩

/-! ## The lookup of a verification -/

/-- The lookup that the registry check of a call makes. -/
def lookupOf (config : VerifierConfig) (call : VerifyCredentialCall) : ResultCall where
  did := (call.credential.bind credentialIssuerId).getD ""
  registries := (call.registries.or config.registries).getD []
  options := {}

/-- The credential parses, and the phases let the registry suite run. -/
def VerifyCredentialCall.AsksRegistries (config : VerifierConfig) (call : VerifyCredentialCall) :
    Prop :=
  parseCredential call.credential = [] ∧
    suiteRunsInPhases registrySuite (expandPhases (call.phases.or config.phases)) = true

/-- A credential that does not parse is reported by the parsing suite alone. -/
theorem executes_parseFailure {platform : Platform} {credential : Option Json}
    {messages : List String} {timing : Bool} {topLevel : Option InProgressTiming}
    {trace : List PortEvent} {result : CredentialVerificationResult}
    (hrun : Executes (parseFailureCredentialResult platform credential messages timing >>= fun failed =>
      finalizeCredentialResult platform failed topLevel) trace result) :
    rowsOf "registry" result.results = [] := by
  obtain ⟨_, _, failed, _, hfailed, hfinal⟩ := executes_bind_iff.mp hrun
  obtain ⟨_, _, check, _, hcheck, hpure⟩ := executes_bind_iff.mp hfailed
  have hsuite : check.suite = "parsing" := (executes_syntheticResult hcheck).1.2.2.1
  rw [(executes_finalizeCredentialResult hfinal).2, (executes_pure_iff.mp hpure).2]
  simp [rowsOf, hsuite]

/-- A verification makes one lookup, or none, and does not use the cache otherwise. -/
theorem hosts_verifyCredential {platform : Platform} {config : VerifierConfig}
    {lookupIssuers : LookupIssuers} {call : VerifyCredentialCall}
    (hsuites : KeepApart (call.additionalSuites.getD [])) :
    Hosts Port.LeavesCache
      (fun result : CredentialVerificationResult =>
        RegistryRowsIn (call.AsksRegistries config) (call.credential.bind credentialIssuerId)
          (lookupOf config call).registries result.results)
      (verifyCredentialWith platform config lookupIssuers call)
      (lookupIssuers (lookupOf config call).did (lookupOf config call).registries {}) := by
  have hfinal := fun result topLevel =>
    confined_finalizeCredentialResult Port.leavesCache_of_isClock platform result topLevel
  apply Hosts.of_bind (confined_startIfTimed Port.leavesCache_of_isClock platform _)
  intro _ topLevel _
  cases hparsed : parseCredential call.credential with
  | cons message messages =>
      apply Hosts.of_confined
      · apply Confined.bind
        · apply Confined.bind (confined_syntheticResult Port.leavesCache_of_isClock _ _ _ _ _ _ _)
          intro check
          exact confined_pure _
        · intro result
          exact hfinal result topLevel
      · intro trace result hrun
        refine ⟨[], [], result.results, rfl, rfl, executes_parseFailure hrun, .notAsked ?_⟩
        rintro ⟨hnil, _⟩
        rw [hparsed] at hnil
        cases hnil
  | nil =>
      obtain ⟨members, hcredential, _⟩ := parseCredential_eq_nil_iff.mp hparsed
      have hsuitesRun (nowMs : ℚ) : Hosts Port.LeavesCache
          (fun ran : List CheckResult × ContextStore =>
            RegistryRowsIn (suiteRunsInPhases registrySuite
                (expandPhases (call.phases.or config.phases)) = true)
              (call.credential.bind credentialIssuerId) (lookupOf config call).registries ran.1)
          (runSuites platform (defaultSuites platform ++ call.additionalSuites.getD [])
            { verifiableCredential := call.credential }
            (credentialContext config lookupIssuers call nowMs) (credentialOptions config call) {})
          (lookupIssuers (lookupOf config call).did (lookupOf config call).registries {}) :=
        hosts_runSuites hsuites hcredential rfl rfl
      apply Hosts.of_bind (confined_perform trivial)
      intro _ nowMs _
      apply Hosts.bind (hsuitesRun nowMs)
      · intro ran
        exact hfinal _ topLevel
      · intro ran trace result hrun looked hrows
        rw [(executes_finalizeCredentialResult hrun).2, credentialResult, results_foldCheckResults]
        obtain ⟨front, rows, back, hsplit, hfront, hback, hrows⟩ := hrows
        refine ⟨front, rows, back, hsplit, hfront, hback, ?_⟩
        cases hrows with
        | notAsked hnot => exact .notAsked fun hasks => hnot hasks.2
        | asked hphases hsuite hlooked => exact .asked ⟨hparsed, hphases⟩ hsuite hlooked

/-! ## The lookups of a run -/

section

variable {platform : Platform} {config : VerifierConfig} {depth : Nat}
  {run : Run VerifyCredentialCall ℚ Port Port.Answer}

/-- The lookups of the verifications are a run on the same cache, and what they return is
reported by the registry rows. -/
structure LookupsOf (platform : Platform) (config : VerifierConfig) (depth : Nat)
    (run : Run VerifyCredentialCall ℚ Port Port.Answer)
    (lookups : Run ResultCall ℚ Port Port.Answer) : Prop where
  calls : lookups.calls = run.calls.map (lookupOf config)
  follows : lookups.Follows (verifierLookup platform config depth)
  cache : SharedCache lookups.history
  sublist : lookups.history.Sublist run.history
  own_inside : ∀ i, own lookups.history i <:+: own run.history i
  returned : ∀ i call result,
    run.Returns (createVerifier platform config (depth + 1)).verifyCredential i call result →
    ∃ looked,
      RegistryRowsIn (call.AsksRegistries config) (call.credential.bind credentialIssuerId)
        (lookupOf config call).registries result.results looked ∧
      ∀ outcome, looked = some outcome →
        lookups.Returns (verifierLookup platform config depth) i (lookupOf config call) outcome

/-- The lookups of verifications on one cache are a run of lookups on it. -/
theorem exists_lookupsOf
    (hfollows : run.Follows (createVerifier platform config (depth + 1)).verifyCredential)
    (hcache : SharedCache run.history)
    (hsuites : ∀ call ∈ run.calls, KeepApart (call.additionalSuites.getD [])) :
    ∃ lookups, LookupsOf platform config depth run lookups := by
  have hhosts : ∀ call ∈ run.calls, Hosts Port.LeavesCache
      (fun result : CredentialVerificationResult =>
        RegistryRowsIn (call.AsksRegistries config) (call.credential.bind credentialIssuerId)
          (lookupOf config call).registries result.results)
      ((createVerifier platform config (depth + 1)).verifyCredential call)
      (verifierLookup platform config depth (lookupOf config call)) :=
    fun call hcall => hosts_verifyCredential (hsuites call hcall)
  obtain ⟨lookups, hcalls, hthinned, hfollows', hinside, hparts⟩ :=
    Run.exists_inner hfollows hhosts
  refine ⟨lookups, hcalls, hfollows', ?_, hthinned.sublist, hinside, ?_⟩
  · -- Only what leaves the cache alone is left out.
    apply hcache.thinned hthinned
    rintro write read ⟨key, value, ttlMs, hwrite, _⟩ hleaves
    rw [hwrite] at hleaves
    exact hleaves
  · intro i call result hreturns
    rcases hparts i call result hreturns with hnone | ⟨found, hreturned, hsome⟩
    · exact ⟨none, hnone, by simp⟩
    · refine ⟨some found, hsome, ?_⟩
      rintro _ ⟨⟩
      exact hreturned

end

/-! ## Registry rows of unchanging files -/

/-- What the registry row of a call says of files: it is the outcome of a lookup that reports
what the files list, unless a row in front of it halts or there is nothing to look up; it
succeeds only for an issuer that a file lists, and it fails for none. -/
structure ReportsSite (site : Site) (config : VerifierConfig) (call : VerifyCredentialCall)
    (halted : Bool) (outcome : CheckOutcome) : Prop where
  looked : ∃ looked,
    LookedUp (call.credential.bind credentialIssuerId) (lookupOf config call).registries halted
      outcome looked ∧
    ∀ found, looked = some found →
      ∃ result, found = .ok result ∧ ReportsListings site (lookupOf config call) result
  success : outcome.isSuccess = true → ∃ name url,
    .dccLegacy name url ∈ (lookupOf config call).registries ∧
      (site.entry? url (lookupOf config call).did).isSome
  failure : outcome.isFailure = true → ∀ issuerDid,
    call.credential.bind credentialIssuerId = some issuerDid → ∀ name url,
    .dccLegacy name url ∈ (lookupOf config call).registries → site.entry? url issuerDid = none

/-- The registry rows of a verification report what a lookup found, as the files of the
registries say it. -/
theorem LookedUp.reportsSite {site : Site} {config : VerifierConfig} {call : VerifyCredentialCall}
    {halted : Bool} {outcome : CheckOutcome}
    {looked : Option (Except Thrown RegistryLookupResult)}
    (h : LookedUp (call.credential.bind credentialIssuerId) (lookupOf config call).registries
      halted outcome looked)
    (hlistings : ∀ found, looked = some found →
      ∃ result, found = .ok result ∧ ReportsListings site (lookupOf config call) result) :
    ReportsSite site config call halted outcome := by
  refine ⟨⟨looked, h, hlistings⟩, ?_, ?_⟩
  · intro hsuccess
    cases h with
    | notRun | noRegistries | noIssuer | threw => cases hsuccess
    | @looked issuerDid result =>
        obtain ⟨_, ⟨⟩, hreport⟩ := hlistings _ rfl
        apply hreport.found.mp
        by_contra hfound
        rw [Bool.not_eq_true] at hfound
        rw [(registryOutcome_of_not_found _ _ hfound).1] at hsuccess
        cases hsuccess
  · intro hfailure issuerDid hissuer name url hmem
    cases h with
    | notRun | noRegistries => cases hfailure
    | noIssuer _ _ hnone =>
        rw [hissuer] at hnone
        cases hnone
    | threw =>
        obtain ⟨_, ⟨⟩, _⟩ := hlistings _ rfl
    | @looked issuerDid' result _ _ hissuer' =>
        obtain ⟨_, ⟨⟩, hreport⟩ := hlistings _ rfl
        by_contra hentry
        have hdid : (lookupOf config call).did = issuerDid := by
          rw [lookupOf, hissuer, Option.getD_some]
        have hfound := hreport.found.mpr ⟨name, url, hmem, by
          rw [hdid]
          exact Option.isSome_iff_ne_none.mpr hentry⟩
        have hsuccess := (registryOutcome_of_found issuerDid'
          (lookupOf config call).registries hfound).1
        cases houtcome : registryOutcome issuerDid' (lookupOf config call).registries result with
        | success => simp [houtcome] at hfailure
        | failure | skipped => simp [houtcome] at hsuccess

section

variable {platform : Platform} {config : VerifierConfig} {depth : Nat} {site : Site}
  {run : Run VerifyCredentialCall ℚ Port Port.Answer}

/-- While the files do not change, the registry check of every verification in `dcc-legacy`
registries on a shared cache reports what the files list, whichever verifications were made
before or are made at the same time. -/
theorem verifications_reportListings (hhandlers : config.registryHandlers = none)
    (hfollows : run.Follows (createVerifier platform config (depth + 1)).verifyCredential)
    (hcache : SharedCache run.history)
    (hsite : ∀ stamped ∈ run.history, AnsweredBy site stamped.event)
    (hfiles : ∀ call ∈ run.calls, ∀ registry ∈ (lookupOf config call).registries,
      registry.type = .dccLegacy)
    (hsuites : ∀ call ∈ run.calls, KeepApart (call.additionalSuites.getD []))
    {i : Nat} {call : VerifyCredentialCall} {result : CredentialVerificationResult}
    (hreturns : run.Returns (createVerifier platform config (depth + 1)).verifyCredential i call
      result) :
    (call.AsksRegistries config → ∃ front row back, result.results = front ++ row :: back ∧
      rowsOf "registry" result.results = [row] ∧
      ReportsSite site config call (front.any CheckResult.isHaltingFailure) row.outcome) ∧
    (¬call.AsksRegistries config → rowsOf "registry" result.results = []) := by
  obtain ⟨lookups, hlookups⟩ := exists_lookupsOf hfollows hcache hsuites
  have hsite' : ∀ stamped ∈ lookups.history, AnsweredBy site stamped.event :=
    fun stamped hmem => hsite stamped (hlookups.sublist.subset hmem)
  have hfiles' : ∀ call ∈ lookups.calls, ∀ registry ∈ call.registries,
      registry.type = .dccLegacy := by
    rw [hlookups.calls]
    exact List.forall_mem_map.mpr hfiles
  obtain ⟨looked, hrows, hreturned⟩ := hlookups.returned i call result hreturns
  have hlistings : ∀ found, looked = some found →
      ∃ result, found = .ok result ∧ ReportsListings site (lookupOf config call) result := by
    intro found hfound
    have hlookup := hreturned found hfound
    obtain ⟨payload, rfl, hreport⟩ := reportsFixedAnswers_of_site hhandlers hlookups.follows
      hlookups.cache hsite' hfiles' hlookup
    exact ⟨_, rfl, hreport.reportsListings (hfiles' _ (List.mem_of_getElem? hlookup.called))⟩
  refine ⟨fun hasks => ?_, hrows.rowsOf_eq.2⟩
  obtain ⟨front, row, back, hsplit, hrow, hlooked⟩ := hrows.rowsOf_eq.1 hasks
  exact ⟨front, row, back, hsplit, hrow, hlooked.reportsSite hlistings⟩

end

namespace ListedIssuer

/-- Only the trust of the badge is asked about. -/
def verification : VerifyCredentialCall where
  credential := some BadgePresentation.badge
  phases := some [.trust]
  registries := some [registry]

/-- The badge is verified, and verified again with what the first lookup found. -/
def verifications : List (VerifyCredentialCall × List (ℚ × PortEvent)) :=
  [(verification, (0, ⟨.dateNowMs, (0 : ℚ)⟩) :: (lookups.map Prod.snd).headD []),
    (verification,
      [(0, ⟨.dateNowMs, (0 : ℚ)⟩),
        (0, ⟨.cacheGet (resultKey "did:example:issuer"), some (.lookupResult listed)⟩)])]

/-- Each of the calls executes a verification. -/
theorem executes_verifications : ∀ part ∈ verifications, ∃ result,
    Executes ((createVerifier platform {} 1).verifyCredential part.1) (part.2.map Prod.snd)
      result := by
  have hreplays : ∀ part ∈ verifications,
      (replay ((createVerifier platform {} 1).verifyCredential part.1)
        (part.2.map Prod.snd)).isSome = true := by decide +kernel
  intro part hpart
  obtain ⟨result, hresult⟩ := Option.isSome_iff_exists.mp (hreplays part hpart)
  exact ⟨result, replay_eq_some_iff.mp hresult⟩

/-- What the verifications read from the cache was stored before. -/
theorem sharedCache_verifications : SharedCache (Run.sequential verifications).history := by
  apply sharedCache_of_allAllowed
  decide +kernel

/-- The site answers the requests of the verifications. -/
theorem answeredBy_verifications :
    ∀ stamped ∈ (Run.sequential verifications).history, AnsweredBy site stamped.event := by
  intro stamped hmem url answer hevent
  simp only [Run.sequential, verifications, lookups, Run.sequence, List.map_cons, List.headD_cons,
    List.map_nil, List.cons_append, List.nil_append, List.append_nil, List.mem_cons,
    List.not_mem_nil, or_false] at hmem
  rcases hmem with rfl | rfl | rfl | rfl | rfl | rfl | rfl | rfl <;> cases hevent
  rfl

end ListedIssuer

/-- The registry check of the second verification reports the file too. -/
theorem verifications_reportListings_listed : ∃ result front row back,
    (Run.sequential ListedIssuer.verifications).Returns
      (createVerifier ListedIssuer.platform {} 1).verifyCredential 1 ListedIssuer.verification
      result ∧
    result.results = front ++ row :: back ∧ rowsOf "registry" result.results = [row] ∧
    ReportsSite ListedIssuer.site {} ListedIssuer.verification
      (front.any CheckResult.isHaltingFailure) row.outcome := by
  obtain ⟨result, hexec⟩ := ListedIssuer.executes_verifications _
    (List.mem_cons_of_mem _ List.mem_cons_self)
  have hfiles : ∀ call ∈ (Run.sequential ListedIssuer.verifications).calls,
      ∀ registry ∈ (lookupOf {} call).registries, registry.type = .dccLegacy := by
    decide +kernel
  have hsuites : ∀ call ∈ (Run.sequential ListedIssuer.verifications).calls,
      KeepApart (call.additionalSuites.getD []) := by
    simp [Run.sequential, ListedIssuer.verifications, ListedIssuer.verification, keepApart_nil]
  have hasks : ListedIssuer.verification.AsksRegistries {} := by
    constructor
    · decide +kernel
    · decide
  have hreturns : (Run.sequential ListedIssuer.verifications).Returns
      (createVerifier ListedIssuer.platform {} 1).verifyCredential 1 ListedIssuer.verification
      result := ⟨rfl, hexec⟩
  obtain ⟨front, row, back, hsplit, hrow, hreports⟩ := (verifications_reportListings rfl
    (Run.follows_sequential ListedIssuer.executes_verifications)
    ListedIssuer.sharedCache_verifications ListedIssuer.answeredBy_verifications hfiles hsuites
    hreturns).1 hasks
  exact ⟨result, front, row, back, hreturns, hsplit, hrow, hreports⟩

end VerifierCore
