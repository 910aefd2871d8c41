import VerifierCore.Verifier.AdditionalSuites

/-!
# The issuer details suite

A caller's own registry client can be asked for what it knows of the issuer, in a suite that
the caller adds.  The client is asked at most once in a verification, for the issuer of the
credential, and whatever it answers, or throws, the verdict stays what it is without the
suite.

Main results:

- Theorem {lit}`issuerDetails_verification`: what the suite does to a verification.
-/

namespace VerifierCore

open Foundations Program

section

variable {TIssuer : Type} (asData : TIssuer → Json)
  (lookupDid : String → Async (Except Thrown (List TIssuer)))

/-! ## The suite -/

/-- The outcome of a lookup that returned. -/
def issuerDetailsOutcome (matchingIssuers : List TIssuer) : CheckOutcome :=
  let count := matchingIssuers.length
  let ending := if count = 1 then "y" else "ies"
  .success
    (if count > 0 then s!"Issuer found in {count} registr{ending}."
      else "Issuer not found in any configured registry.")
    (some (.data (.obj [("matchingIssuers", .arr (matchingIssuers.map asData))])))

/-- The check that hands on what the injected lookup knows of the issuer.  The elements of
its answer are the caller's own; the outcome carries them as data. -/
def createIssuerDetailsCheck : VerificationCheck where
  id := "trust.issuer-details"
  fatal := some false
  appliesTo := some [.verifiableCredential]
  execute subject _ store :=
    match subject.verifiableCredential.filter Json.truthy with
    | none => pure (.ok (.skipped "No verifiable credential found in subject."), store)
    | some credential =>
        match credentialIssuerId credential with
        | none => pure (.ok (.skipped "Credential has no issuer DID."), store)
        | some issuerDid => do
            let looked ← lookupDid issuerDid
            pure (looked.map (issuerDetailsOutcome asData), store)

/-- The suite that asks for the details of an issuer. -/
def createIssuerDetailsSuite : VerificationSuite where
  id := "trust"
  phase := some .trust
  checks := [createIssuerDetailsCheck asData lookupDid]

/-! ## One run of the check -/

/-- What the check finds out about the issuer, and the calls made for it. -/
inductive DetailsLooked (credential : Json) : List PortEvent → Except Thrown CheckOutcome → Prop
    where
  | noIssuer :
      credentialIssuerId credential = none →
      DetailsLooked credential [] (.ok (.skipped "Credential has no issuer DID."))
  | looked {issuerDid : String} {asked : List PortEvent}
      {answer : Except Thrown (List TIssuer)} :
      credentialIssuerId credential = some issuerDid →
      Executes (lookupDid issuerDid) asked answer →
      DetailsLooked credential asked (answer.map (issuerDetailsOutcome asData))

/-- A run of the check on a credential asks the lookup as described. -/
theorem executes_issuerDetailsCheck {subject : VerificationSubject} {context : VerificationContext}
    {credential : Json} (hcredential : subject.verifiableCredential = some credential)
    (htruthy : credential.truthy = true) {store store' : ContextStore} {asked : List PortEvent}
    {found : Except Thrown CheckOutcome}
    (h : Executes ((createIssuerDetailsCheck asData lookupDid).execute subject context store) asked
      (found, store')) : DetailsLooked asData lookupDid credential asked found := by
  have hpresent : subject.verifiableCredential.filter Json.truthy = some credential := by
    rw [hcredential, Option.filter_some, if_pos htruthy]
  simp only [createIssuerDetailsCheck, hpresent] at h
  cases hissuer : credentialIssuerId credential with
  | none =>
      simp only [hissuer] at h
      rcases executes_pure_iff.mp h with ⟨rfl, hpair⟩
      cases hpair
      exact .noIssuer hissuer
  | some issuerDid =>
      simp only [hissuer] at h
      rcases executes_bind_iff.mp h with ⟨first, _, answer, rfl, hlooked, hpure⟩
      rcases executes_pure_iff.mp hpure with ⟨rfl, hpair⟩
      cases hpair
      rw [List.append_nil]
      exact .looked hissuer hlooked

end

/-- What the loop over the suite leaves.  Behind a halt the check is only listed; otherwise
it runs. -/
inductive DetailsReported {TIssuer : Type} (asData : TIssuer → Json)
    (lookupDid : String → Async (Except Thrown (List TIssuer))) (credential : Json)
    (halted : Bool) : List PortEvent → CheckOutcome → Prop where
  | notRun {halter : String} {added : List PortEvent} :
      halted = true → ClockReadings added →
      DetailsReported asData lookupDid credential halted added (notRunOutcome halter)
  | ran {started asked finished : List PortEvent} {found : Except Thrown CheckOutcome} :
      halted = false → ClockReadings started → ClockReadings finished →
      DetailsLooked asData lookupDid credential asked found →
      DetailsReported asData lookupDid credential halted (started ++ asked ++ finished)
        (outcomeOf "trust.issuer-details" found)

section

variable {TIssuer : Type} {asData : TIssuer → Json}
  {lookupDid : String → Async (Except Thrown (List TIssuer))} {platform : Platform}
  {config : VerifierConfig} {lookupIssuers : LookupIssuers} {call : VerifyCredentialCall}

theorem detailsReported_of_addedRun {credential : Json}
    (hcredential : call.credential = some credential) (htruthy : credential.truthy = true)
    {nowMs : ℚ} {middle state : RunState} {added : List PortEvent} {rows : List CheckResult}
    (h : Executes (addedRun platform config lookupIssuers
      (call.bringing [createIssuerDetailsSuite asData lookupDid]) nowMs middle) added
      (rows, state)) :
    if suiteRunsInPhases (createIssuerDetailsSuite asData lookupDid)
        (expandPhases (call.phases.or config.phases)) then
      ∃ row, rows = [row] ∧ DetailsReported asData lookupDid credential middle.haltedBy.isSome added
        row.outcome
    else added = [] ∧ rows = [] := by
  have hsuites : (call.bringing [createIssuerDetailsSuite asData lookupDid]).additionalSuites.getD [] =
      [createIssuerDetailsSuite asData lookupDid] := rfl
  rw [addedRun, hsuites, collect_singleton] at h
  rcases executes_runSuite _ _ _ _ _ h with ⟨entries, hreported, rfl, rfl, _⟩
  cases hreported with
  | outsidePhases hout =>
      have hphases : suiteRunsInPhases (createIssuerDetailsSuite asData lookupDid)
        (expandPhases (call.phases.or config.phases)) = false := hout
      rw [hphases]
      exact ⟨rfl, rfl⟩
  | appliesThrew _ hthrew => cases hthrew
  | declined _ hdeclined => cases hdeclined
  | declinedExplicit _ hdeclined => cases hdeclined
  | @ran parts hin _ hitems hparts =>
      have hphases : suiteRunsInPhases (createIssuerDetailsSuite asData lookupDid)
        (expandPhases (call.phases.or config.phases)) = true := hin
      rcases List.map_eq_singleton_iff.mp hitems with ⟨⟨check, left⟩, rfl, rfl⟩
      have hreported := hparts [] (_, left) [] rfl
      simp only [List.flatMap_nil, firstHalt_nil, Option.or_none] at hreported
      rw [if_pos hphases]
      cases hreported with
      | notAdmitted hnot =>
          simp [appliesToSubject, checkAppliesTo, createIssuerDetailsCheck, subjectTypes,
            VerifyCredentialCall.bringing, hcredential] at hnot
      | @notRun halter entry _ hhalted _ houtcome hclock =>
          refine ⟨entry.row, by simp, ?_⟩
          rw [houtcome, hhalted]
          simpa using DetailsReported.notRun rfl hclock
      | @ran entry store store' started asked finished found _ hrunning _ hexec houtcome hevents
          hstarted hfinished =>
          refine ⟨entry.row, by simp, ?_⟩
          have hid : (createIssuerDetailsCheck asData lookupDid).id = "trust.issuer-details" := rfl
          rw [houtcome, hrunning, hid]
          simpa [hevents] using DetailsReported.ran rfl hstarted hfinished
            (executes_issuerDetailsCheck asData lookupDid hcredential htruthy hexec)

/-- A suite with the issuer details leaves the verdict and the other rows as they are,
whatever its lookup answers, or throws.  Where the suite runs it leaves one row.  Its lookup is
asked once, for the issuer of the credential, if there is one and no row of the default
suites halts; otherwise it is not asked. -/
theorem issuerDetails_verification {depth : Nat} {credential : Json}
    (hcredential : call.credential = some credential) {trace : List PortEvent}
    {result : CredentialVerificationResult}
    (h : Executes ((createVerifier platform config depth).verifyCredential
      (call.bringing [createIssuerDetailsSuite asData lookupDid])) trace result) :
    ∃ front added back plain rows, trace = front ++ added ++ back ∧
      Executes ((createVerifier platform config depth).verifyCredential call.withoutSuites)
        (front ++ back) plain ∧
      result.verified = plain.verified ∧ result.results = plain.results ++ rows ∧
      if parseCredential call.credential = [] ∧
          suiteRunsInPhases (createIssuerDetailsSuite asData lookupDid)
            (expandPhases (call.phases.or config.phases)) then
        ∃ row, rows = [row] ∧ DetailsReported asData lookupDid credential
          (plain.results.any CheckResult.isHaltingFailure) added row.outcome
      else added = [] ∧ rows = [] := by
  rw [createVerifier_verifyCredential] at h ⊢
  rcases executes_split h with ⟨front, added, back, plain, rows, htrace, hplain, hextended, hadded⟩
  have hadvisory : ∀ suite ∈ [createIssuerDetailsSuite asData lookupDid],
      ∀ check ∈ suite.checks, check.fatal ≠ some true := by
    intro suite hsuite check hcheck
    rw [List.mem_singleton.mp hsuite] at hcheck
    have hfatal : check.fatal = some false := by
      rw [List.mem_singleton.mp hcheck]
      rfl
    rw [hfatal]
    decide
  refine ⟨front, added, back, plain, rows, htrace, hplain, hextended.advisory hadvisory,
    hextended.results, ?_⟩
  cases hadded with
  | refused hnot =>
      rw [if_neg fun hboth => hnot hboth.1]
      exact ⟨rfl, rfl⟩
  | ran hparsed _ hran hadded =>
      rcases parseCredential_eq_nil_iff.mp hparsed with ⟨members, hmembers, _⟩
      have htruthy : credential.truthy = true := by
        have hobject : credential = .obj members :=
          Option.some.inj (hcredential.symm.trans hmembers)
        rw [hobject]
        rfl
      have hsame : parseCredential call.credential = [] := hparsed
      have hreported := detailsReported_of_addedRun hcredential htruthy hadded
      rw [haltedBy_isSome_of_collect hran] at hreported
      simp only [hsame, true_and]
      exact hreported

end

/-! ### A client that cannot be reached -/

namespace UnreachableClient

/-- The URL that the details are asked from. -/
def url : String :=
  "https://registry.example/issuers"

/-- A client that fetches one file, and throws when it cannot. -/
def lookupDid (_ : String) : Async (Except Thrown (List Json)) := do
  let fetched ← ask (.httpGet url)
  pure (fetched.map fun response => response.body.toList)

/-- The suite over the lookup. -/
def suite : VerificationSuite :=
  createIssuerDetailsSuite id lookupDid

/-- The request for the details fails. -/
def trace : List PortEvent :=
  BadgePresentation.badgeTrace ++ [⟨.httpGet url, .error (.str "unreachable")⟩]

end UnreachableClient

/-- The badge is verified as it is without the client. -/
theorem issuerDetails_verification_badge : ∃ front added back plain, ∃ row : CheckResult,
    UnreachableClient.trace = front ++ added ++ back ∧
    Executes ((createVerifier BadgePresentation.platform BadgePresentation.config 0).verifyCredential
      { credential := some BadgePresentation.badge }) (front ++ back) plain ∧
    plain.verified = true ∧
    DetailsReported id UnreachableClient.lookupDid BadgePresentation.badge
      (plain.results.any CheckResult.isHaltingFailure) added row.outcome := by
  let call : VerifyCredentialCall := { credential := some BadgePresentation.badge }
  have hreplay : (replay ((createVerifier BadgePresentation.platform BadgePresentation.config
      0).verifyCredential (call.bringing [UnreachableClient.suite]))
      UnreachableClient.trace).map CredentialVerificationResult.verified = some true := by
    decide +kernel
  obtain ⟨result, hresult, hverified⟩ := Option.map_eq_some_iff.mp hreplay
  obtain ⟨front, added, back, plain, rows, htrace, hplain, hsame, _, hreported⟩ :=
    @issuerDetails_verification _ id UnreachableClient.lookupDid _ _ call 0 _ rfl _ _
      (replay_eq_some_iff.mp hresult)
  have hruns : parseCredential call.credential = [] ∧ suiteRunsInPhases UnreachableClient.suite
      (expandPhases (call.phases.or BadgePresentation.config.phases)) = true := by decide +kernel
  rw [if_pos (by exact hruns)] at hreported
  obtain ⟨row, _, hrow⟩ := hreported
  exact ⟨front, added, back, plain, row, htrace, hplain, hsame.symm.trans hverified, hrow⟩

end VerifierCore
