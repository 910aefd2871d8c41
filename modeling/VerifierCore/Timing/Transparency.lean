import VerifierCore.Foundations.Elision
import VerifierCore.Timing.Untimed
import VerifierCore.Verifier.Recursion

/-!
# The timing of a call changes nothing else

A timed call makes the calls of the untimed one and some clock readings in between, and
returns the untimed result with timings added.  The suites a caller brings must not look
at the timing flag themselves.

Main results:

- Theorem {lit}`elides_runSuites`: a timed run of the suites and an untimed one.
- Theorem {lit}`verifyCredential_timing`: a timed verification of a credential is an
  untimed one, and every untimed one is what is left of a timed one.
- Theorem {lit}`verifyPresentation_timing`: the same for presentations.
-/

namespace VerifierCore

open Foundations Program

/-! ## Suites that do not look at the timing flag -/

/-- The context of an untimed call. -/
def VerificationContext.untimed (context : VerificationContext) : VerificationContext :=
  { context with timing := false }

/-- Neither the predicate of the suite nor one of its checks looks at the timing flag. -/
structure VerificationSuite.IgnoresTiming (suite : VerificationSuite) : Prop where
  applies : ∀ subject context,
    evaluateApplies suite subject context.untimed = evaluateApplies suite subject context
  checks : ∀ check ∈ suite.checks, ∀ subject context store,
    check.execute subject context.untimed store = check.execute subject context store

/-- The default suites do not look at the timing flag. -/
theorem ignoresTiming_defaultSuites (platform : Platform) :
    ∀ suite ∈ defaultSuites platform, suite.IgnoresTiming := by
  intro suite hsuite
  simp only [defaultSuites, List.mem_cons, List.not_mem_nil, or_false] at hsuite
  rcases hsuite with rfl | rfl | rfl | rfl | rfl
  · refine ⟨fun _ _ => rfl, ?_⟩
    intro check hcheck subject context store
    simp only [coreSuite, List.mem_cons, List.not_mem_nil, or_false] at hcheck
    rcases hcheck with rfl | rfl | rfl | rfl | rfl | rfl <;> rfl
  · refine ⟨fun _ _ => rfl, ?_⟩
    intro check hcheck subject context store
    simp only [recognitionSuite, List.mem_singleton] at hcheck
    subst hcheck
    rfl
  · refine ⟨fun _ _ => rfl, ?_⟩
    intro check hcheck subject context store
    simp only [proofSuite, List.mem_cons, List.not_mem_nil, or_false] at hcheck
    rcases hcheck with rfl | rfl | rfl <;> rfl
  · refine ⟨fun _ _ => rfl, ?_⟩
    intro check hcheck subject context store
    simp only [registrySuite, List.mem_singleton] at hcheck
    subst hcheck
    rfl
  · refine ⟨fun _ _ => rfl, ?_⟩
    intro check hcheck subject context store
    simp only [statusSuite, List.mem_cons, List.not_mem_nil, or_false] at hcheck
    rcases hcheck with rfl | rfl <;> rfl

/-! ## Rows -/

/-- A row of a timed run and the one of the untimed run. -/
def RowsAlike (rows rows' : List CheckResult × RunState) : Prop :=
  List.Forall₂ (fun row row' => row.untimed = row') rows.1 rows'.1 ∧ rows.2 = rows'.2

section

variable {platform : Platform} {subject : VerificationSubject} {context : VerificationContext}

/-- Behind the start of a timing, leaving out its end as well. -/
theorem elides_syntheticResult (suite : VerificationSuite) (checkId : String)
    (outcome : CheckOutcome) (fatal halts : Option Bool) (timing : Bool) :
    Elides Port.IsClock (fun row row' => row.untimed = row')
      (syntheticResult platform suite checkId outcome fatal halts timing)
      (syntheticResult platform suite checkId outcome fatal halts false) := by
  have hclock : ∀ port : Port, port.IsClock → port.IsClock := fun _ h => h
  apply elides_bind_of_confined (confined_startIfTimed hclock platform timing)
  intro started
  apply elides_bind_of_confined (confined_finishIfStarted hclock platform started)
  intro taskTiming
  exact elides_pure rfl

/-- Timing a check only adds clock readings and timings. -/
theorem elides_runCheck {suite : VerificationSuite} {check : VerificationCheck}
    (hcheck : ∀ store, check.execute subject context.untimed store =
      check.execute subject context store) (state : RunState) :
    Elides Port.IsClock RowsAlike (runCheck platform suite subject context check state)
      (runCheck platform suite subject context.untimed check state) := by
  have hclock : ∀ port : Port, port.IsClock → port.IsClock := fun _ h => h
  unfold runCheck
  split_ifs
  · exact elides_pure ⟨.nil, rfl⟩
  · cases state.haltedBy with
    | some haltedBy =>
        apply Elides.bind (elides_syntheticResult suite check.id _ _ _ _)
        intro row row' hrow
        exact elides_pure ⟨.cons hrow .nil, rfl⟩
    | none =>
        rw [hcheck]
        apply elides_bind_of_confined (confined_startIfTimed hclock platform _)
        intro taskTiming
        apply Elides.bind (elides_refl (R := Eq) (fun _ => rfl) _)
        rintro executed _ rfl
        apply elides_bind_of_confined (confined_finishIfStarted hclock platform taskTiming)
        intro finishedTiming
        exact elides_pure ⟨.cons rfl .nil, rfl⟩

/-- Timing a suite only adds clock readings and timings. -/
theorem elides_runSuite {suite : VerificationSuite} (hsuite : suite.IgnoresTiming)
    (options : RunSuitesOptions) (state : RunState) :
    Elides Port.IsClock RowsAlike (runSuite platform subject context options suite state)
      (runSuite platform subject context.untimed options suite state) := by
  have hlone (checkId : String) (outcome : CheckOutcome) (fatal : Option Bool) (next : RunState) :
      Elides Port.IsClock RowsAlike
        (syntheticResult platform suite checkId outcome fatal none context.timing >>= fun row =>
          pure ([row], next))
        (syntheticResult platform suite checkId outcome fatal none false >>= fun row =>
          pure ([row], next)) := by
    apply Elides.bind (elides_syntheticResult suite checkId outcome fatal none context.timing)
    intro row row' hrow
    exact elides_pure ⟨.cons hrow .nil, rfl⟩
  have hloop : Elides Port.IsClock RowsAlike
      (collect (runCheck platform suite subject context) suite.checks state)
      (collect (runCheck platform suite subject context.untimed) suite.checks state) := by
    apply elides_collect (S := Eq) _ rfl
    rintro check hmem next _ rfl
    exact elides_runCheck (fun store => hsuite.checks check hmem subject context store) next
  unfold runSuite
  rw [hsuite.applies]
  by_cases hphases : (!suiteRunsInPhases suite options.phases) = true
  · rw [if_pos hphases, if_pos hphases]
    exact elides_pure ⟨.nil, rfl⟩
  · rw [if_neg hphases, if_neg hphases]
    cases evaluateApplies suite subject context with
    | error error =>
        cases state.haltedBy with
        | none => exact hlone _ _ _ _
        | some haltedBy => exact hloop
    | ok applies =>
        cases applies with
        | true => exact hloop
        | false =>
            dsimp only
            by_cases hexplicit : suite.id ∈ options.explicitSuiteIds
            · rw [if_pos hexplicit, if_pos hexplicit]
              exact hlone _ _ _ _
            · rw [if_neg hexplicit, if_neg hexplicit]
              exact elides_pure ⟨.nil, rfl⟩

/-- A timed run of the suites and an untimed one. -/
theorem elides_runSuites (context : VerificationContext) {suites : List VerificationSuite}
    (hsuites : ∀ suite ∈ suites, suite.IgnoresTiming) (options : RunSuitesOptions)
    (store : ContextStore) :
    Elides Port.IsClock (fun ran ran' => (ran.1.map CheckResult.untimed, ran.2) = ran')
      (runSuites platform suites subject context options store)
      (runSuites platform suites subject context.untimed options store) := by
  apply Elides.bind
  · apply elides_collect (R := fun row row' => row.untimed = row') (S := Eq) _ rfl
    rintro suite hmem state _ rfl
    exact elides_runSuite (hsuites suite hmem) options state
  · rintro ⟨rows, state⟩ ⟨rows', state'⟩ ⟨hrows, hstate⟩
    apply elides_pure
    have hmap : rows.map CheckResult.untimed = rows' := by
      rw [← List.forall₂_eq_eq_eq, List.forall₂_map_left_iff]
      exact hrows
    simp only at hstate
    rw [hmap, hstate]

end

/-! ## Credentials -/

/-- The call with its timing off. -/
def VerifyCredentialCall.untimed (call : VerifyCredentialCall) : VerifyCredentialCall :=
  { call with timing := some false }

/-- The summary of a refusal is the same without its timing. -/
theorem syntheticFailureSummary_untimed (check : CheckResult) (suite : VerificationSuite) :
    syntheticFailureSummary check.untimed suite =
      (syntheticFailureSummary check suite).map SuiteSummary.untimed :=
  foldCheckResults_untimed [check] [suite]

/-- Finishing a timed result and its untimed form. -/
theorem elides_finalizeCredentialResult (platform : Platform)
    {result plain : CredentialVerificationResult} (h : result.untimed = plain)
    (topLevel : Option InProgressTiming) :
    Elides Port.IsClock (fun result plain => result.untimed = plain)
      (finalizeCredentialResult platform result topLevel)
      (finalizeCredentialResult platform plain none) := by
  apply elides_bind_of_confined (confined_finishIfStarted (fun _ h => h) platform topLevel)
  intro timing
  subst h
  exact elides_pure rfl

/-- Timing a credential's verification only adds clock readings and timings. -/
theorem elides_verifyCredentialWith (platform : Platform) (config : VerifierConfig)
    (lookupIssuers : LookupIssuers) {call : VerifyCredentialCall}
    (hsuites : ∀ suite ∈ call.additionalSuites.getD [], suite.IgnoresTiming) :
    Elides Port.IsClock (fun result plain => result.untimed = plain)
      (verifyCredentialWith platform config lookupIssuers call)
      (verifyCredentialWith platform config lookupIssuers call.untimed) := by
  unfold verifyCredentialWith
  dsimp only
  have hoff : startIfTimed platform ((call.untimed.timing.or config.timing).getD false) =
      pure none := rfl
  rw [hoff, pure_bind]
  apply elides_bind_of_confined (confined_startIfTimed (fun _ h => h) platform _)
  intro topLevel
  have hsame : call.untimed.credential = call.credential := rfl
  rw [hsame]
  cases parseCredential call.credential with
  | cons message messages =>
      apply Elides.bind (R := fun result plain => result.untimed = plain)
      · apply Elides.bind (elides_syntheticResult parsingSuite "parsing.envelope" _ _ _ _)
        rintro check _ rfl
        rw [syntheticFailureSummary_untimed]
        exact elides_pure rfl
      · intro result plain h
        exact elides_finalizeCredentialResult platform h topLevel
  | nil =>
      apply Elides.bind (R := Eq) (elides_refl (fun _ => rfl) _)
      rintro nowMs _ rfl
      apply Elides.bind
      · apply elides_runSuites (buildContext config lookupIssuers
          (call.registries.or config.registries) nowMs ((call.timing.or config.timing).getD false))
        intro suite hsuite
        rcases List.mem_append.mp hsuite with hdefault | hadditional
        · exact ignoresTiming_defaultSuites platform suite hdefault
        · exact hsuites suite hadditional
      · rintro ran _ rfl
        apply elides_finalizeCredentialResult
        exact (credentialResult_untimed _ _ _ _).symm

/-- A timed verification is an untimed one with clock readings in between and timings
added, and every untimed one is what is left of a timed one. -/
theorem verifyCredential_timing {platform : Platform} {config : VerifierConfig} {depth : Nat}
    {call : VerifyCredentialCall}
    (hsuites : ∀ suite ∈ call.additionalSuites.getD [], suite.IgnoresTiming) :
    (∀ trace result,
      Executes ((createVerifier platform config depth).verifyCredential call) trace result →
      ∃ kept, Elided Port.IsClock trace kept ∧
        Executes ((createVerifier platform config depth).verifyCredential call.untimed) kept
          result.untimed) ∧
    ∀ kept plain,
      Executes ((createVerifier platform config depth).verifyCredential call.untimed) kept plain →
      ∃ trace result, Elided Port.IsClock trace kept ∧ result.untimed = plain ∧
        Executes ((createVerifier platform config depth).verifyCredential call) trace result := by
  rw [createVerifier_verifyCredential]
  have helides := elides_verifyCredentialWith platform config
    (lookupIssuersBelow platform config depth) hsuites
  constructor
  · intro trace result hrun
    rcases hrun.elide helides with ⟨kept, plain, hplain, helided, rfl⟩
    exact ⟨kept, helided, hplain⟩
  · intro kept plain hplain
    rcases hplain.instrument (fun port => Classical.arbitrary _) helides with
      ⟨trace, result, hrun, helided, hresult⟩
    exact ⟨trace, result, helided, hresult, hrun⟩

/-! ### A badge and a caller's suite -/

namespace TimedBadge

/-- A suite of the caller's that only reports. -/
def auditSuite : VerificationSuite where
  id := "audit"
  checks := [{ id := "audit.note", execute := pureBody fun _ _ => .ok (.success "Noted.") }]

/-- The suite does not look at the timing flag. -/
theorem ignoresTiming : ∀ suite ∈ [auditSuite], suite.IgnoresTiming := by
  intro suite hsuite
  rw [List.mem_singleton] at hsuite
  subst hsuite
  refine ⟨fun _ _ => rfl, ?_⟩
  intro check hcheck subject context store
  simp only [auditSuite, List.mem_singleton] at hcheck
  subst hcheck
  rfl

/-- A call for the badge, timed. -/
def credentialCall : VerifyCredentialCall where
  credential := some BadgePresentation.badge
  additionalSuites := some [auditSuite]
  timing := some true

/-- A call for the badge's presentation, timed. -/
def presentationCall : VerifyPresentationCall :=
  { BadgePresentation.call with additionalSuites := some [auditSuite], timing := some true }

end TimedBadge

/-- The badge is also verified when the call is timed. -/
theorem verifyCredential_timing_badge : ∃ trace result,
    Elided Port.IsClock trace BadgePresentation.badgeTrace ∧ result.verified = true ∧
    Executes ((createVerifier BadgePresentation.platform BadgePresentation.config 0).verifyCredential
      TimedBadge.credentialCall) trace result := by
  have hreplay : (replay ((createVerifier BadgePresentation.platform BadgePresentation.config
      0).verifyCredential TimedBadge.credentialCall.untimed) BadgePresentation.badgeTrace).map
      CredentialVerificationResult.verified = some true := by decide +kernel
  obtain ⟨plain, hplain, hverified⟩ := Option.map_eq_some_iff.mp hreplay
  obtain ⟨trace, result, helided, rfl, hrun⟩ :=
    (verifyCredential_timing (by exact TimedBadge.ignoresTiming)).2 _ _
      (replay_eq_some_iff.mp hplain)
  exact ⟨trace, result, helided, hverified, hrun⟩

/-! ## Presentations -/

/-- The call for a presentation with its timing off. -/
def VerifyPresentationCall.untimed (call : VerifyPresentationCall) : VerifyPresentationCall :=
  { call with timing := some false }

/-- Timing the end of a presentation's verification only adds clock readings and timings. -/
theorem elides_finalizePresentationResult (platform : Platform)
    {result plain : PresentationVerificationResult} (h : result.untimed = plain)
    (topLevel : Option InProgressTiming) :
    Elides Port.IsClock (fun result plain => result.untimed = plain)
      (finalizePresentationResult platform result topLevel)
      (finalizePresentationResult platform plain none) := by
  apply elides_bind_of_confined (confined_finishIfStarted (fun _ h => h) platform topLevel)
  intro timing
  subst h
  exact elides_pure rfl

/-- Timing a presentation's verification only adds clock readings and timings. -/
theorem elides_verifyPresentationWith (platform : Platform) (config : VerifierConfig)
    (lookupIssuers : LookupIssuers) {verifier : Verifier} {call : VerifyPresentationCall}
    (hsuites : ∀ suite ∈ call.additionalSuites.getD [], suite.IgnoresTiming)
    (hverifier : ∀ embedded, embedded.additionalSuites = call.additionalSuites →
      Elides Port.IsClock (fun result plain => result.untimed = plain)
        (verifier.verifyCredential embedded) (verifier.verifyCredential embedded.untimed)) :
    Elides Port.IsClock (fun result plain => result.untimed = plain)
      (verifyPresentationWith platform config lookupIssuers verifier call)
      (verifyPresentationWith platform config lookupIssuers verifier call.untimed) := by
  unfold verifyPresentationWith
  dsimp only
  have hoff : startIfTimed platform ((call.untimed.timing.or config.timing).getD false) =
      pure none := rfl
  have hpresentation : call.untimed.presentation = call.presentation := rfl
  have hoptions : invalidChallengeOptions call.untimed = invalidChallengeOptions call := rfl
  rw [hoff, pure_bind, hpresentation, hoptions]
  apply elides_bind_of_confined (confined_startIfTimed (fun _ h => h) platform _)
  intro topLevel
  cases parsePresentation call.presentation with
  | cons message messages =>
      apply Elides.bind (R := fun result plain => result.untimed = plain)
      · apply Elides.bind (elides_syntheticResult parsingSuite "parsing.envelope" _ _ _ _)
        rintro check _ rfl
        rw [syntheticFailureSummary_untimed]
        exact elides_pure rfl
      · intro result plain h
        exact elides_finalizePresentationResult platform h topLevel
  | nil =>
      cases invalidChallengeOptions call with
      | some problem =>
          apply Elides.bind (R := fun result plain => result.untimed = plain)
          · apply Elides.bind (elides_syntheticResult (proofSuite platform) "proof.signature" _ _ _ _)
            rintro check _ rfl
            rw [syntheticFailureSummary_untimed]
            exact elides_pure rfl
          · intro result plain h
            exact elides_finalizePresentationResult platform h topLevel
      | none =>
          apply Elides.bind (R := Eq) (elides_refl (fun _ => rfl) _)
          rintro nowMs _ rfl
          apply Elides.bind
          · apply elides_runSuites (presentationContext config lookupIssuers call nowMs
              ((call.timing.or config.timing).getD false))
            intro suite hsuite
            rcases List.mem_append.mp hsuite with hdefault | hadditional
            · apply ignoresTiming_defaultSuites platform suite
              simp only [List.mem_cons, List.not_mem_nil, or_false] at hdefault
              rcases hdefault with rfl | rfl <;> simp [defaultSuites]
            · exact hsuites suite hadditional
          · rintro ran _ rfl
            apply Elides.bind
            · apply elides_mapM
              intro credential _
              exact hverifier (embeddedCall call _ credential) rfl
            · intro results plain hresults
              have hmap : results.map CredentialVerificationResult.untimed = plain := by
                rw [← List.forall₂_eq_eq_eq, List.forall₂_map_left_iff]
                exact hresults
              subst hmap
              apply elides_finalizePresentationResult
              exact (presentationResult_untimed _ _ _ _ _).symm

/-- A presentation verified with timing, its credentials timed along, makes the calls of one
without and finds the same. -/
theorem verifyPresentation_timing {platform : Platform} {config : VerifierConfig} {depth : Nat}
    {call : VerifyPresentationCall}
    (hsuites : ∀ suite ∈ call.additionalSuites.getD [], suite.IgnoresTiming) :
    (∀ trace result, Executes (verifyPresentation platform config depth call) trace result →
      ∃ kept, Elided Port.IsClock trace kept ∧
        Executes (verifyPresentation platform config depth call.untimed) kept result.untimed) ∧
    ∀ kept plain, Executes (verifyPresentation platform config depth call.untimed) kept plain →
      ∃ trace result, Elided Port.IsClock trace kept ∧ result.untimed = plain ∧
        Executes (verifyPresentation platform config depth call) trace result := by
  have hembedded : ∀ embedded : VerifyCredentialCall,
      embedded.additionalSuites = call.additionalSuites →
      Elides Port.IsClock (fun result plain => result.untimed = plain)
        ((createVerifier platform config depth).verifyCredential embedded)
        ((createVerifier platform config depth).verifyCredential embedded.untimed) := by
    intro embedded hsame
    rw [createVerifier_verifyCredential]
    apply elides_verifyCredentialWith
    rw [hsame]
    exact hsuites
  have helides := elides_verifyPresentationWith platform config
    (lookupIssuersBelow platform config depth) hsuites hembedded
  constructor
  · intro trace result hrun
    rcases hrun.elide helides with ⟨kept, plain, hplain, helided, rfl⟩
    exact ⟨kept, helided, hplain⟩
  · intro kept plain hplain
    rcases hplain.instrument (fun port => Classical.arbitrary _) helides with
      ⟨trace, result, hrun, helided, hresult⟩
    exact ⟨trace, result, helided, hresult, hrun⟩

/-- The presentation is verified with timing by the same calls and clock readings. -/
theorem verifyPresentation_timing_badge : ∃ trace result,
    Elided Port.IsClock trace BadgePresentation.trace ∧ result.verified = true ∧
    Executes (verifyPresentation BadgePresentation.platform BadgePresentation.config 0
      TimedBadge.presentationCall) trace result := by
  have hreplay : (replay (verifyPresentation BadgePresentation.platform BadgePresentation.config 0
      TimedBadge.presentationCall.untimed) BadgePresentation.trace).map
      PresentationVerificationResult.verified = some true := by decide +kernel
  obtain ⟨plain, hplain, hverified⟩ := Option.map_eq_some_iff.mp hreplay
  obtain ⟨trace, result, helided, rfl, hrun⟩ :=
    (verifyPresentation_timing (by exact TimedBadge.ignoresTiming)).2 _ _
      (replay_eq_some_iff.mp hplain)
  exact ⟨trace, result, helided, hverified, hrun⟩

end VerifierCore
