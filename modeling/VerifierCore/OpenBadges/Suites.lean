import VerifierCore.OpenBadges.AchievementTypes
import VerifierCore.OpenBadges.SchemaValidation
import VerifierCore.RunSuites.Services
import VerifierCore.Verifier.AdditionalSuites

/-!
# The Open Badges suites

The suites that a caller adds to have Open Badges looked at: the semantic checks, the schema
checks, and both in one suite.

Main results:

- Theorem {lit}`regrouped_openBadges`: the one suite has the checks of the two.
- Theorem {lit}`openBadges_verification`: what these suites do to a verification.
-/

namespace VerifierCore

open Foundations Program

/-! ## The suites -/

/-- The subject is a badge. -/
def appliesToOpenBadge (subject : VerificationSubject) : Bool :=
  isOpenBadgeCredential subject.verifiableCredential

/-- The subject is a badge or an endorsement. -/
def appliesToOpenBadgeOrEndorsement (subject : VerificationSubject) : Bool :=
  (getObType subject.verifiableCredential).isSome

/-- The suite of the checks for a badge's contents. -/
def openBadgesSemanticSuite : VerificationSuite where
  id := "openbadges.semantic"
  phase := some .semantic
  applies := some fun subject _ => .ok (appliesToOpenBadge subject)
  checks := [obv3ResultRefCheck, obv3AchievedLevelCheck, obv3MissingResultStatusCheck,
    obv3UnknownAchievementTypeCheck]

/-- The suite of the checks against the published schemas. -/
def openBadgesSchemaSuite (ajv : Ajv) : VerificationSuite where
  id := "openbadges.schema"
  phase := some .semantic
  applies := some fun subject _ => .ok (appliesToOpenBadgeOrEndorsement subject)
  checks := [obv3SchemaCheck ajv, obv3DeclaredSchemaCheck]

/-- The suite with all checks for badges. -/
def openBadgesSuite (ajv : Ajv) : VerificationSuite where
  id := "openbadges"
  phase := some .semantic
  applies := some fun subject _ => .ok (appliesToOpenBadgeOrEndorsement subject)
  checks := openBadgesSemanticSuite.checks ++ (openBadgesSchemaSuite ajv).checks

/-- The suites of the module. -/
def openBadgesSuites (ajv : Ajv) : List VerificationSuite :=
  [openBadgesSemanticSuite, openBadgesSchemaSuite ajv, openBadgesSuite ajv]

/-! ## Their checks -/

/-- The checks of the suites. -/
theorem mem_checks_of_openBadges {ajv : Ajv} {suite : VerificationSuite}
    (hsuite : suite ∈ openBadgesSuites ajv) {check : VerificationCheck}
    (hcheck : check ∈ suite.checks) : check ∈ (openBadgesSuite ajv).checks := by
  simp only [openBadgesSuites, List.mem_cons, List.not_mem_nil, or_false] at hsuite
  rcases hsuite with rfl | rfl | rfl
  · exact List.mem_append_left _ hcheck
  · exact List.mem_append_right _ hcheck
  · exact hcheck

/-- None of the checks is fatal, and none makes a call. -/
theorem openBadges_checks {ajv : Ajv} : ∀ check ∈ (openBadgesSuite ajv).checks,
    check.fatal = some false ∧ ∀ subject context store,
      ∃ result, check.execute subject context store = pure (result, store) := by
  intro check hcheck
  simp only [openBadgesSuite, openBadgesSemanticSuite, openBadgesSchemaSuite, List.cons_append,
    List.nil_append, List.mem_cons, List.not_mem_nil, or_false] at hcheck
  rcases hcheck with rfl | rfl | rfl | rfl | rfl | rfl <;>
    exact ⟨rfl, fun subject context store => ⟨_, rfl⟩⟩

/-- Every suite of the module runs in the semantic phase. -/
theorem suiteRunsInPhases_openBadges {ajv : Ajv} {suite : VerificationSuite}
    (hsuite : suite ∈ openBadgesSuites ajv) (phases : Option (List SuitePhase)) :
    suiteRunsInPhases suite phases = suiteRunsInPhases openBadgesSemanticSuite phases := by
  simp only [openBadgesSuites, List.mem_cons, List.not_mem_nil, or_false] at hsuite
  rcases hsuite with rfl | rfl | rfl <;> rfl

/-- On a badge the one suite has the checks of the two. -/
theorem regrouped_openBadges {credential : Option Json}
    (hcredential : isOpenBadgeCredential credential = true) (ajv : Ajv)
    (phases : Option (List SuitePhase)) :
    Regrouped credential phases [openBadgesSuite ajv]
      [openBadgesSemanticSuite, openBadgesSchemaSuite ajv] := by
  have hobType : getObType credential = some .openBadgeCredential := if_pos hcredential
  have happlies : ∀ suite ∈ openBadgesSuites ajv, ∀ context,
      evaluateApplies suite { verifiableCredential := credential } context = .ok true := by
    intro suite hsuite context
    simp only [openBadgesSuites, List.mem_cons, List.not_mem_nil, or_false] at hsuite
    rcases hsuite with rfl | rfl | rfl
    · exact congrArg Except.ok hcredential
    · exact congrArg (fun obType : Option ObType => Except.ok obType.isSome) hobType
    · exact congrArg (fun obType : Option ObType => Except.ok obType.isSome) hobType
  refine ⟨?_, ?_, ?_⟩
  · intro context suite hsuite
    have hmem := List.mem_singleton.mp (List.mem_filter.mp hsuite).1
    exact happlies suite (by simp [openBadgesSuites, hmem]) context
  · intro context suite hsuite
    have hmem := (List.mem_filter.mp hsuite).1
    apply happlies suite _ context
    simp only [List.mem_cons, List.not_mem_nil, or_false] at hmem
    rcases hmem with rfl | rfl <;> simp [openBadgesSuites]
  · have hwhole := @suiteRunsInPhases_openBadges ajv (openBadgesSuite ajv) (by simp [openBadgesSuites])
      (expandPhases phases)
    have hschema := @suiteRunsInPhases_openBadges ajv (openBadgesSchemaSuite ajv)
      (by simp [openBadgesSuites]) (expandPhases phases)
    unfold checksInPhases suitesInPhases
    by_cases hphases : suiteRunsInPhases openBadgesSemanticSuite (expandPhases phases) = true
    · have hchecks : (openBadgesSuite ajv).checks =
          openBadgesSemanticSuite.checks ++ (openBadgesSchemaSuite ajv).checks := rfl
      simp [hwhole, hschema, hphases, hchecks]
    · simp [hwhole, hschema, hphases]

/-! ## What they do to a verification -/

/-- An explicit suite whose predicate declines leaves one skipped row. -/
theorem outcomes_of_declined {platform : Platform} {subject : VerificationSubject}
    {context : VerificationContext} {options : RunSuitesOptions} {suite : VerificationSuite}
    (hdeclined : evaluateApplies suite subject context = .ok false)
    (hexplicit : suite.id ∈ options.explicitSuiteIds) {state state' : RunState}
    {trace : List PortEvent} {rows : List CheckResult}
    (h : Executes (runSuite platform subject context options suite state) trace (rows, state')) :
    rows.map CheckResult.outcome =
      if suiteRunsInPhases suite options.phases then [declinedOutcome] else [] := by
  rcases executes_runSuite suite state trace rows state' h with ⟨entries, hentries, rfl, _, _⟩
  cases hentries with
  | outsidePhases hout => simp [hout]
  | appliesThrew _ hthrew =>
      rw [hdeclined] at hthrew
      cases hthrew
  | declined hphases _ hnot => exact absurd hexplicit hnot
  | declinedExplicit hphases _ _ _ houtcome => simp [hphases, houtcome]
  | ran _ happlies =>
      rw [hdeclined] at happlies
      rcases happlies with happlied | ⟨hthrew, _⟩
      · cases happlied
      · cases hthrew

section

variable {platform : Platform} {config : VerifierConfig} {lookupIssuers : LookupIssuers}
  {call : VerifyCredentialCall} {ajv : Ajv} {suites : List VerificationSuite}

/-- The loop over suites of the module makes no calls but clock readings. -/
theorem clockReadings_addedRun (hsuites : ∀ suite ∈ suites, suite ∈ openBadgesSuites ajv)
    {nowMs : ℚ} {middle : RunState} {added : List PortEvent} {run : List CheckResult × RunState}
    (h : Executes (addedRun platform config lookupIssuers (call.bringing suites) nowMs middle) added
      run) : ClockReadings added := by
  have hconfined : (addedRun platform config lookupIssuers (call.bringing suites) nowMs
      middle).Confined Port.IsClock := by
    apply confined_collect
    intro suite hsuite state
    apply confined_runSuite fun _ hclock => hclock
    intro check hcheck store
    rcases (openBadges_checks check (mem_checks_of_openBadges (hsuites suite hsuite) hcheck)).2
      { verifiableCredential := (call.bringing suites).credential }
      (credentialContext config lookupIssuers (call.bringing suites) nowMs) store with
      ⟨result, hpure⟩
    rw [hpure]
    exact confined_pure _
  exact h.forall_of_confined hconfined

/-- On a credential that is no Open Badge each suite of the module leaves one skipped row. -/
theorem outcomes_addedRun (hsuites : ∀ suite ∈ suites, suite ∈ openBadgesSuites ajv)
    (hobType : getObType call.credential = none) {nowMs : ℚ} {middle state : RunState}
    {added : List PortEvent} {rows : List CheckResult}
    (h : Executes (addedRun platform config lookupIssuers (call.bringing suites) nowMs middle) added
      (rows, state)) :
    rows.map CheckResult.outcome =
      (suitesInPhases suites (expandPhases (call.phases.or config.phases))).map fun _ =>
        declinedOutcome := by
  have hbadge : isOpenBadgeCredential call.credential = false := by
    rw [← Bool.not_eq_true]
    intro hbadge
    rw [getObType, if_pos hbadge] at hobType
    cases hobType
  have houtputs : rows.map CheckResult.outcome = suites.flatMap fun suite =>
      if suiteRunsInPhases suite (expandPhases (call.phases.or config.phases)) then
        [declinedOutcome]
      else [] := by
    apply collect_outputs _ h
    intro suite hsuite s trace outs s' hrun
    have hexplicit : suite.id ∈ (credentialOptions config (call.bringing suites)).explicitSuiteIds :=
      List.mem_map_of_mem hsuite
    apply outcomes_of_declined _ hexplicit hrun
    have hmem := hsuites suite hsuite
    simp only [openBadgesSuites, List.mem_cons, List.not_mem_nil, or_false] at hmem
    rcases hmem with rfl | rfl | rfl
    · exact congrArg Except.ok hbadge
    · exact congrArg (fun obType : Option ObType => Except.ok obType.isSome) hobType
    · exact congrArg (fun obType : Option ObType => Except.ok obType.isSome) hobType
  rw [houtputs]
  clear houtputs h hsuites
  induction suites with
  | nil => rfl
  | cons suite suites ih =>
      rw [List.flatMap_cons, ih]
      unfold suitesInPhases
      by_cases hphases :
          suiteRunsInPhases suite (expandPhases (call.phases.or config.phases)) = true
      · simp [hphases]
      · simp [hphases]

end

/-- Suites of the module that a call brings make no calls but clock readings and leave the
verdict as it is.  On a credential that is no Open Badge each of them that runs in the
requested phases leaves one skipped row.  On a badge the one suite finds what the two
find. -/
theorem openBadges_verification (platform : Platform) (config : VerifierConfig) (depth : Nat)
    (ajv : Ajv) (call : VerifyCredentialCall) :
    (∀ suites, (∀ suite ∈ suites, suite ∈ openBadgesSuites ajv) → ∀ trace result,
      Executes ((createVerifier platform config depth).verifyCredential (call.bringing suites))
        trace result →
      ∃ front added back plain rows, trace = front ++ added ++ back ∧ ClockReadings added ∧
        Executes ((createVerifier platform config depth).verifyCredential call.withoutSuites)
          (front ++ back) plain ∧
        result.verified = plain.verified ∧ result.results = plain.results ++ rows ∧
        (parseCredential call.credential = [] → getObType call.credential = none →
          rows.map CheckResult.outcome =
            (suitesInPhases suites (expandPhases (call.phases.or config.phases))).map fun _ =>
              declinedOutcome)) ∧
    (isOpenBadgeCredential call.credential = true → ∀ trace result,
      Executes ((createVerifier platform config depth).verifyCredential
        (call.bringing [openBadgesSuite ajv])) trace result →
      ∃ other,
        Executes ((createVerifier platform config depth).verifyCredential
          (call.bringing [openBadgesSemanticSuite, openBadgesSchemaSuite ajv])) trace other ∧
        SameFindings result other) := by
  rw [createVerifier_verifyCredential]
  constructor
  · intro suites hsuites trace result hrun
    rcases executes_split hrun with
      ⟨front, added, back, plain, rows, htrace, hplain, hextended, hadded⟩
    have hadvisory : ∀ suite ∈ suites, ∀ check ∈ suite.checks, check.fatal ≠ some true := by
      intro suite hsuite check hcheck
      rw [(openBadges_checks check (mem_checks_of_openBadges (hsuites suite hsuite) hcheck)).1]
      decide
    refine ⟨front, added, back, plain, rows, htrace, ?_, hplain, hextended.advisory hadvisory,
      hextended.results, ?_⟩
    · cases hadded with
      | refused => simp [ClockReadings]
      | ran _ _ _ hran => exact clockReadings_addedRun hsuites hran
    · intro hparsed hobType
      cases hadded with
      | refused hnot => exact absurd hparsed hnot
      | ran _ _ _ hran => exact outcomes_addedRun hsuites hobType hran
  · intro hbadge trace result hrun
    exact executes_regroup (regrouped_openBadges hbadge ajv _) hrun

/-! ### An awarded badge -/

namespace AwardedBadge

/-- A badge with a result that its achievement does not describe. -/
def credential : Json :=
  .obj [("@context", .arr [.str vcContextV2,
      .str "https://purl.imsglobal.org/spec/ob/v3p0/context-3.0.3.json"]),
    ("type", .arr [.str "VerifiableCredential", .str "OpenBadgeCredential"]),
    ("issuer", .str "did:example:issuer"),
    ("credentialSubject", .obj [("type", .arr [.str "AchievementSubject"]),
      ("achievement", .obj [("achievementType", .str "Badge")]),
      ("result", .arr [.obj [("resultDescription", .str "urn:missing")]])]),
    ("proof", .obj [("type", .str "DataIntegrityProof")])]

/-- A call for the credential. -/
def call : VerifyCredentialCall where
  credential := some credential

/-- The service accepts the badge. -/
def trace : List PortEvent :=
  [⟨.dateNowMs, (0 : ℚ)⟩, ⟨.canVerify 0 { verifiableCredential := some credential }, .ok true⟩,
    ⟨.verifyCredential 0 credential { now := some 0 }, .ok (.verified none)⟩]

/-- No schema compiles. -/
def ajv : Ajv where
  compile _ := .error .null

end AwardedBadge

/-- A credential that is no Open Badge is verified as before, with one skipped row more.  An
Open Badge whose result is not described is verified too, and the one suite and the two find
the same. -/
theorem openBadges_verification_badge :
    (∃ front added back plain, ∃ rows : List CheckResult,
      BadgePresentation.badgeTrace = front ++ added ++ back ∧
      Executes ((createVerifier BadgePresentation.platform BadgePresentation.config
        0).verifyCredential { credential := some BadgePresentation.badge }) (front ++ back) plain ∧
      plain.verified = true ∧ rows.map CheckResult.outcome = [declinedOutcome]) ∧
    ∃ result other,
      Executes ((createVerifier BadgePresentation.platform BadgePresentation.config
        0).verifyCredential (AwardedBadge.call.bringing [openBadgesSemanticSuite,
          openBadgesSchemaSuite AwardedBadge.ajv])) AwardedBadge.trace other ∧
      SameFindings result other ∧ result.verified = true ∧
      (result.results.filter fun row => row.outcome.isFailure).map CheckResult.id =
        ["semantic.openbadges.schema.obv3.result-ref", "semantic.openbadges.schema.obv3.json"] := by
  let call : VerifyCredentialCall := { credential := some BadgePresentation.badge }
  constructor
  · have hreplay : (replay ((createVerifier BadgePresentation.platform BadgePresentation.config
        0).verifyCredential (call.bringing [openBadgesSuite AwardedBadge.ajv]))
        BadgePresentation.badgeTrace).map CredentialVerificationResult.verified = some true := by
      decide +kernel
    obtain ⟨result, hresult, hverified⟩ := Option.map_eq_some_iff.mp hreplay
    have hsuites : ∀ suite ∈ [openBadgesSuite AwardedBadge.ajv],
        suite ∈ openBadgesSuites AwardedBadge.ajv := by
      simp [openBadgesSuites]
    obtain ⟨front, added, back, plain, rows, htrace, _, hplain, hsame, _, houtcomes⟩ :=
      (openBadges_verification BadgePresentation.platform BadgePresentation.config 0
        AwardedBadge.ajv call).1 [openBadgesSuite AwardedBadge.ajv] hsuites _ _
        (replay_eq_some_iff.mp hresult)
    have hparsed : parseCredential (some BadgePresentation.badge) = [] := by decide +kernel
    have hobType : getObType (some BadgePresentation.badge) = none := by decide +kernel
    exact ⟨front, added, back, plain, rows, htrace, hplain, hsame.symm.trans hverified,
      houtcomes hparsed hobType⟩
  · have hreplay : (replay ((createVerifier BadgePresentation.platform BadgePresentation.config
        0).verifyCredential (AwardedBadge.call.bringing [openBadgesSuite AwardedBadge.ajv]))
        AwardedBadge.trace).map (fun result => (result.verified,
          (result.results.filter fun row => row.outcome.isFailure).map CheckResult.id)) =
        some (true, ["semantic.openbadges.schema.obv3.result-ref",
          "semantic.openbadges.schema.obv3.json"]) := by
      decide +kernel
    obtain ⟨result, hresult, hfound⟩ := Option.map_eq_some_iff.mp hreplay
    obtain ⟨other, hother, hsame⟩ :=
      (openBadges_verification BadgePresentation.platform BadgePresentation.config 0
        AwardedBadge.ajv AwardedBadge.call).2 (by decide +kernel) _ _ (replay_eq_some_iff.mp hresult)
    exact ⟨result, other, hother, hsame, congrArg Prod.fst hfound, congrArg Prod.snd hfound⟩

end VerifierCore
