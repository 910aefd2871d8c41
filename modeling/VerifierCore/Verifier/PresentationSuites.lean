import Mathlib.Data.List.Forall2
import VerifierCore.Verifier.AdditionalSuites

/-!
# The suites a caller adds to a presentation

The suites of a call run over the presentation, behind the core and the proof suite, and
over each of its credentials.  Without them the same presentation is verified with the same
credentials, and they can only fail it.

Main results:

- Theorem {lit}`executes_verifyPresentationWith_iff`: the runs behind the gates.
- Theorem {lit}`verifyPresentation_additionalSuites`: a verification with added suites is one
  without them, extended by the rows of these suites.
-/

namespace VerifierCore

open Foundations Program

/-! ## Calls with added suites -/

/-- The call without the suites it brings. -/
def VerifyPresentationCall.withoutSuites (call : VerifyPresentationCall) :
    VerifyPresentationCall :=
  { call with additionalSuites := none }

/-- The suites that run for every presentation, whatever the caller adds. -/
def ownPresentationSuites (platform : Platform) : List VerificationSuite :=
  [coreSuite platform, proofSuite platform]

theorem applies_of_ownPresentationSuites {platform : Platform} :
    ∀ suite ∈ ownPresentationSuites platform, suite.applies = none := by
  intro suite hsuite
  simp only [ownPresentationSuites, List.mem_cons, List.not_mem_nil, or_false] at hsuite
  rcases hsuite with rfl | rfl <;> rfl

/-- What some suites make of the result for a presentation: their rows stand behind its rows,
and the result of each credential is extended. -/
structure PresentationExtendedBy (platform : Platform) (suites : List VerificationSuite)
    (plain : PresentationVerificationResult)
    (rows : List CheckResult) (result : PresentationVerificationResult) : Prop where
  rowsFrom : RowsFrom suites rows
  presentationResults : result.presentationResults = plain.presentationResults ++ rows
  credentialResults : List.Forall₂
    (fun result plain => ∃ rows, ExtendedBy platform suites plain rows result)
    result.credentialResults plain.credentialResults
  verified : result.verified = (plain.verified && !hasFatalFailures rows &&
    result.credentialResults.all CredentialVerificationResult.verified)
  /-- Suites that only advise leave the verdict to the default ones. -/
  advisory : (∀ suite ∈ suites, ∀ check ∈ suite.checks, check.fatal ≠ some true) →
    result.verified = plain.verified
  summary : (suiteIds (ownPresentationSuites platform)).Disjoint (suiteIds suites) →
    result.summary = plain.summary ++ (foldCheckResults rows suites).summaries
  timing : result.timing = plain.timing
  partialPhases : result.partialPhases = plain.partialPhases
  verifiablePresentation : result.verifiablePresentation = plain.verifiablePresentation

/-- What a gate turns away is shown to no suite. -/
theorem presentationExtendedBy_refused {platform : Platform} {suites : List VerificationSuite}
    {result : PresentationVerificationResult} (hunverified : result.verified = false) :
    PresentationExtendedBy platform suites result [] result where
  rowsFrom := ⟨by simp, by simp⟩
  presentationResults := (List.append_nil _).symm
  credentialResults := List.forall₂_same.mpr fun credential _ =>
    ⟨[], extendedBy_nil platform suites credential⟩
  verified := by rw [hunverified, Bool.false_and, Bool.false_and]
  advisory _ := rfl
  summary _ := by simp [summaries_eq]
  timing := rfl
  partialPhases := rfl
  verifiablePresentation := rfl

/-- A credential that is verified with added suites is verified without them. -/
theorem all_verified_of_extended {platform : Platform} {suites : List VerificationSuite}
    {results plains : List CredentialVerificationResult}
    (h : List.Forall₂ (fun result plain => ∃ rows, ExtendedBy platform suites plain rows
      result) results plains) :
    results.all CredentialVerificationResult.verified =
      (plains.all CredentialVerificationResult.verified &&
        results.all CredentialVerificationResult.verified) := by
  induction h with
  | nil => rfl
  | @cons result plain results plains hextended _ ih =>
      rcases hextended with ⟨rows, hextended⟩
      rw [List.all_cons, List.all_cons, ih, hextended.verified]
      cases plain.verified <;> cases plains.all CredentialVerificationResult.verified <;> simp

/-- Suites that only advise leave the verdict on each credential to the default ones. -/
theorem all_verified_of_advisory {platform : Platform} {suites : List VerificationSuite}
    {results plains : List CredentialVerificationResult}
    (hadvisory : ∀ suite ∈ suites, ∀ check ∈ suite.checks, check.fatal ≠ some true)
    (h : List.Forall₂ (fun result plain => ∃ rows, ExtendedBy platform suites plain rows
      result) results plains) :
    results.all CredentialVerificationResult.verified =
      plains.all CredentialVerificationResult.verified := by
  induction h with
  | nil => rfl
  | cons hextended _ ih =>
      rcases hextended with ⟨rows, hextended⟩
      rw [List.all_cons, List.all_cons, ih, hextended.advisory hadvisory]

/-- The result over the rows of two groups of suites. -/
theorem presentationExtendedBy_append {platform : Platform} {presentation : Option Json}
    {suites : List VerificationSuite} {phases : Option (List SuitePhase)}
    {rows rows' : List CheckResult} {results plains : List CredentialVerificationResult}
    {timing : Option TaskTiming} (hrows : RowsFrom (ownPresentationSuites platform) rows)
    (hrows' : RowsFrom suites rows')
    (hresults : List.Forall₂ (fun result plain => ∃ rows, ExtendedBy platform suites plain
      rows result) results plains) :
    PresentationExtendedBy platform suites
      { presentationResult presentation rows (ownPresentationSuites platform) plains phases with
        timing := timing }
      rows'
      { presentationResult presentation (rows ++ rows') (ownPresentationSuites platform ++ suites)
          results phases with
        timing := timing } where
  rowsFrom := hrows'
  presentationResults := by simp only [presentationResult, results_foldCheckResults]
  credentialResults := hresults
  verified := by
    simp only [presentationResult, hasFatalFailures_append, Bool.not_or]
    rw [all_verified_of_extended hresults]
    cases hasFatalFailures rows <;> cases hasFatalFailures rows' <;> simp
  advisory hadvisory := by
    simp only [presentationResult, hasFatalFailures_append,
      hrows'.hasFatalFailures_eq_false hadvisory, Bool.or_false,
      all_verified_of_advisory hadvisory hresults]
  summary hdisjoint := summaries_append hrows hrows' hdisjoint
  timing := rfl
  partialPhases := rfl
  verifiablePresentation := rfl

/-! ## Runs behind the gates -/

section

variable {platform : Platform} {config : VerifierConfig} {lookupIssuers : LookupIssuers}
  {verifier : Verifier} {call : VerifyPresentationCall}

/-- The verification of a credential of the presentation. -/
def embeddedVerification (config : VerifierConfig) (verifier : Verifier)
    (call : VerifyPresentationCall) (credential : Json) : Async CredentialVerificationResult :=
  verifier.verifyCredential
    (embeddedCall call ((call.timing.or config.timing).getD false) credential)

/-- Behind the gates the clock is read, the suites run, the credentials are verified, and the
rows and results are the result. -/
theorem executes_verifyPresentationWith_iff (hparsed : parsePresentation call.presentation = [])
    (hoptions : invalidChallengeOptions call = none)
    {trace : List PortEvent} {result : PresentationVerificationResult} :
    Executes (verifyPresentationWith platform config lookupIssuers verifier call) trace result ↔
      ∃ started topLevel nowMs events ran embedded results finishing timing,
        trace = started ++ ⟨.dateNowMs, nowMs⟩ :: events ++ embedded ++ finishing ∧
        Executes (startIfTimed platform ((call.timing.or config.timing).getD false)) started
          topLevel ∧
        Executes (runSuites platform
          (ownPresentationSuites platform ++ call.additionalSuites.getD [])
          { verifiablePresentation := call.presentation }
          (presentationContext config lookupIssuers call nowMs
            ((call.timing.or config.timing).getD false))
          (presentationOptions config call) {}) events ran ∧
        Executes (((call.presentation.bind extractCredentialsFrom).getD []).mapM
          (embeddedVerification config verifier call)) embedded results ∧
        Executes (finishIfStarted platform topLevel) finishing timing ∧
        result =
          { presentationResult call.presentation ran.1
              (ownPresentationSuites platform ++ call.additionalSuites.getD []) results
              (call.phases.or config.phases) with
            timing := timing } := by
  unfold verifyPresentationWith
  simp only [hparsed, hoptions]
  constructor
  · intro h
    rcases executes_bind_iff.mp h with ⟨started, _, topLevel, rfl, hstart, hread⟩
    rcases executes_ask_bind_iff.mp hread with ⟨nowMs, _, rfl, hran⟩
    rcases executes_bind_iff.mp hran with ⟨events, _, ran, rfl, hsuites, hlater⟩
    rcases executes_bind_iff.mp hlater with ⟨embedded, _, results, rfl, hembedded, hfinal⟩
    rcases executes_bind_iff.mp hfinal with ⟨finishing, _, timing, rfl, hfinish, hpure⟩
    rcases executes_pure_iff.mp hpure with ⟨rfl, rfl⟩
    exact ⟨started, topLevel, nowMs, events, ran, embedded, results, finishing, timing, by simp,
      hstart, hsuites, hembedded, hfinish, rfl⟩
  · rintro ⟨started, topLevel, nowMs, events, ran, embedded, results, finishing, timing, rfl,
      hstart, hsuites, hembedded, hfinish, rfl⟩
    refine executes_bind_iff.mpr ⟨started, ⟨.dateNowMs, nowMs⟩ :: (events ++ embedded ++ finishing),
      topLevel, by simp, hstart, ?_⟩
    refine executes_ask_bind_iff.mpr ⟨nowMs, events ++ embedded ++ finishing, rfl, ?_⟩
    refine executes_bind_iff.mpr ⟨events, embedded ++ finishing, ran, by simp, hsuites, ?_⟩
    refine executes_bind_iff.mpr ⟨embedded, finishing, results, rfl, hembedded, ?_⟩
    exact executes_bind_iff.mpr ⟨finishing, [], timing, by simp, hfinish,
      executes_pure_iff.mpr ⟨rfl, rfl⟩⟩

/-- The loop over the suites that run for every presentation. -/
def ownPresentationRun (platform : Platform) (config : VerifierConfig)
    (lookupIssuers : LookupIssuers) (call : VerifyPresentationCall) (nowMs : ℚ) :
    Async (List CheckResult × RunState) :=
  collect (runSuite platform { verifiablePresentation := call.presentation }
    (presentationContext config lookupIssuers call nowMs
      ((call.timing.or config.timing).getD false))
    (presentationOptions config call.withoutSuites)) (ownPresentationSuites platform) {}

/-- The loop over the suites that a call brings, from where the others stopped. -/
def addedPresentationRun (platform : Platform) (config : VerifierConfig)
    (lookupIssuers : LookupIssuers) (call : VerifyPresentationCall) (nowMs : ℚ)
    (state : RunState) : Async (List CheckResult × RunState) :=
  collect (runSuite platform { verifiablePresentation := call.presentation }
    (presentationContext config lookupIssuers call nowMs
      ((call.timing.or config.timing).getD false))
    (presentationOptions config call)) (call.additionalSuites.getD []) state

/-- The runs of a call, split where the suites it brings begin. -/
theorem executes_presentation_withSuites_iff
    (hparsed : parsePresentation call.presentation = [])
    (hoptions : invalidChallengeOptions call = none)
    {trace : List PortEvent} {result : PresentationVerificationResult} :
    Executes (verifyPresentationWith platform config lookupIssuers verifier call) trace result ↔
      ∃ started topLevel nowMs events rows middle added rows' state embedded results finishing
          timing,
        trace = started ++ ⟨.dateNowMs, nowMs⟩ :: events ++ added ++ embedded ++ finishing ∧
        Executes (startIfTimed platform ((call.timing.or config.timing).getD false)) started
          topLevel ∧
        Executes (ownPresentationRun platform config lookupIssuers call nowMs) events
          (rows, middle) ∧
        Executes (addedPresentationRun platform config lookupIssuers call nowMs middle) added
          (rows', state) ∧
        Executes (((call.presentation.bind extractCredentialsFrom).getD []).mapM
          (embeddedVerification config verifier call)) embedded results ∧
        Executes (finishIfStarted platform topLevel) finishing timing ∧
        result =
          { presentationResult call.presentation (rows ++ rows')
              (ownPresentationSuites platform ++ call.additionalSuites.getD []) results
              (call.phases.or config.phases) with
            timing := timing } := by
  have hphases : (presentationOptions config call).phases =
      (presentationOptions config call.withoutSuites).phases := rfl
  rw [executes_verifyPresentationWith_iff hparsed hoptions]
  simp only [executes_runSuites_append_iff applies_of_ownPresentationSuites hphases]
  constructor
  · rintro ⟨started, topLevel, nowMs, _, ran, embedded, results, finishing, timing, rfl, hstart,
      ⟨events, added, rows, rows', middle, state, rfl, hrows, hran, hadded, _⟩, hembedded, hfinish,
      rfl⟩
    exact ⟨started, topLevel, nowMs, events, rows, middle, added, rows', state, embedded, results,
      finishing, timing, by simp, hstart, hran, hadded, hembedded, hfinish, by rw [hrows]⟩
  · rintro ⟨started, topLevel, nowMs, events, rows, middle, added, rows', state, embedded, results,
      finishing, timing, rfl, hstart, hran, hadded, hembedded, hfinish, rfl⟩
    exact ⟨started, topLevel, nowMs, events ++ added, (rows ++ rows', state.store), embedded,
      results, finishing, timing, by simp, hstart, ⟨events, added, rows, rows', middle, state, rfl,
      rfl, hran, hadded, rfl⟩, hembedded, hfinish, rfl⟩

/-- The runs of a call that brings no suites. -/
theorem executes_presentation_withoutSuites_iff
    (hparsed : parsePresentation call.presentation = [])
    (hoptions : invalidChallengeOptions call = none)
    {trace : List PortEvent} {result : PresentationVerificationResult} :
    Executes (verifyPresentationWith platform config lookupIssuers verifier call.withoutSuites) trace
        result ↔
      ∃ started topLevel nowMs events rows state embedded results finishing timing,
        trace = started ++ ⟨.dateNowMs, nowMs⟩ :: events ++ embedded ++ finishing ∧
        Executes (startIfTimed platform ((call.timing.or config.timing).getD false)) started
          topLevel ∧
        Executes (ownPresentationRun platform config lookupIssuers call nowMs) events
          (rows, state) ∧
        Executes (((call.presentation.bind extractCredentialsFrom).getD []).mapM
          (embeddedVerification config verifier call.withoutSuites)) embedded results ∧
        Executes (finishIfStarted platform topLevel) finishing timing ∧
        result =
          { presentationResult call.presentation rows (ownPresentationSuites platform) results
              (call.phases.or config.phases) with
            timing := timing } := by
  have hplain : call.withoutSuites.additionalSuites.getD [] = [] := rfl
  have hsame : parsePresentation call.withoutSuites.presentation = [] := hparsed
  have hsameOptions : invalidChallengeOptions call.withoutSuites = none := hoptions
  rw [executes_verifyPresentationWith_iff hsame hsameOptions]
  simp only [hplain, List.append_nil, executes_runSuites_iff]
  constructor
  · rintro ⟨started, topLevel, nowMs, events, ran, embedded, results, finishing, timing, htrace,
      hstart, ⟨state, hran, _⟩, hembedded, hfinish, hresult⟩
    exact ⟨started, topLevel, nowMs, events, ran.1, state, embedded, results, finishing, timing,
      htrace, hstart, hran, hembedded, hfinish, hresult⟩
  · rintro ⟨started, topLevel, nowMs, events, rows, state, embedded, results, finishing, timing,
      htrace, hstart, hran, hembedded, hfinish, hresult⟩
    exact ⟨started, topLevel, nowMs, events, (rows, state.store), embedded, results, finishing,
      timing, htrace, hstart, ⟨state, hran, rfl⟩, hembedded, hfinish, hresult⟩

/-- A presentation that a gate turns away is not shown to any suite. -/
theorem verifyPresentationWith_withoutSuites
    (h : ¬(parsePresentation call.presentation = [] ∧ invalidChallengeOptions call = none)) :
    verifyPresentationWith platform config lookupIssuers verifier call.withoutSuites =
      verifyPresentationWith platform config lookupIssuers verifier call := by
  have hsame : parsePresentation call.withoutSuites.presentation =
    parsePresentation call.presentation := rfl
  have hsameOptions : invalidChallengeOptions call.withoutSuites = invalidChallengeOptions call :=
    rfl
  unfold verifyPresentationWith
  simp only [hsame, hsameOptions]
  cases hparsed : parsePresentation call.presentation with
  | cons message messages => rfl
  | nil =>
      cases hoptions : invalidChallengeOptions call with
      | some problem => rfl
      | none => exact absurd ⟨hparsed, hoptions⟩ h

end

/-! ## Verifications with and without them -/

/-- The verification of a credential of the presentation beside the one without the added
suites: what was called for these stands between the calls of the other. -/
structure ExtendedRun where
  credential : Json
  front : List PortEvent
  added : List PortEvent
  back : List PortEvent
  plain : CredentialVerificationResult
  rows : List CheckResult
  result : CredentialVerificationResult

namespace ExtendedRun

/-- The calls made without the added suites. -/
def kept (run : ExtendedRun) : List PortEvent :=
  run.front ++ run.back

/-- All that the extended run did. -/
def events (run : ExtendedRun) : List PortEvent :=
  run.front ++ run.added ++ run.back

theorem kept_sublist_events (run : ExtendedRun) : run.kept.Sublist run.events :=
  (List.sublist_append_left run.front run.added).append_right run.back

/-- Both are verifications of the credential, and the added suites of the call ran over it
where the default ones had stopped. -/
structure Verifies (platform : Platform) (config : VerifierConfig) (depth : Nat)
    (call : VerifyPresentationCall) (run : ExtendedRun) : Prop where
  executes : Executes (embeddedVerification config (createVerifier platform config depth) call
    run.credential) run.events run.result
  executesPlain : Executes (embeddedVerification config (createVerifier platform config depth)
    call.withoutSuites run.credential) run.kept run.plain
  extended : ExtendedBy platform (call.additionalSuites.getD []) run.plain run.rows run.result
  suitesAdded : SuitesAdded platform config (lookupIssuersBelow platform config depth)
    (embeddedCall call ((call.timing.or config.timing).getD false) run.credential) run.front
    run.plain run.added run.rows

end ExtendedRun

/-- The suites that a call brings were run over the presentation, from where its own suites
stopped, and over each of its credentials; what a gate turns away is shown to none. -/
inductive PresentationSuitesAdded (platform : Platform) (config : VerifierConfig) (depth : Nat)
    (call : VerifyPresentationCall) (plain result : PresentationVerificationResult) :
    List PortEvent → List PortEvent → List CheckResult → Prop where
  | refused {trace : List PortEvent} :
      ¬(parsePresentation call.presentation = [] ∧ invalidChallengeOptions call = none) →
      PresentationSuitesAdded platform config depth call plain result trace trace []
  | ran {started events added finishing : List PortEvent} {nowMs : ℚ} {middle state : RunState}
      {rows : List CheckResult} {runs : List ExtendedRun} :
      parsePresentation call.presentation = [] →
      invalidChallengeOptions call = none →
      Executes (ownPresentationRun platform config (lookupIssuersBelow platform config depth) call
        nowMs) events (plain.presentationResults, middle) →
      Executes (addedPresentationRun platform config (lookupIssuersBelow platform config depth)
        call nowMs middle) added (rows, state) →
      runs.map ExtendedRun.credential =
        (call.presentation.bind extractCredentialsFrom).getD [] →
      runs.map ExtendedRun.plain = plain.credentialResults →
      runs.map ExtendedRun.result = result.credentialResults →
      (∀ run ∈ runs, run.Verifies platform config depth call) →
      PresentationSuitesAdded platform config depth call plain result
        (started ++ ⟨.dateNowMs, nowMs⟩ :: events ++ runs.flatMap ExtendedRun.kept ++ finishing)
        (started ++ ⟨.dateNowMs, nowMs⟩ :: events ++ added ++ runs.flatMap ExtendedRun.events ++
          finishing) rows

section

variable {platform : Platform} {config : VerifierConfig} {depth : Nat}
  {call : VerifyPresentationCall}

/-- Apart from what was called for the added suites, the calls are the same. -/
theorem PresentationSuitesAdded.sublist {plain result : PresentationVerificationResult}
    {kept trace : List PortEvent} {rows : List CheckResult}
    (h : PresentationSuitesAdded platform config depth call plain result kept trace rows) :
    kept.Sublist trace := by
  cases h with
  | refused => exact .refl _
  | @ran started events added finishing nowMs middle state rows runs =>
      have hruns : (runs.flatMap ExtendedRun.kept).Sublist (runs.flatMap ExtendedRun.events) :=
        List.Sublist.flatMap_right runs fun run _ => run.kept_sublist_events
      exact ((List.sublist_append_left _ added).append hruns).append_right finishing

/-- The results of the credentials are those without the suites, each extended. -/
theorem extended_of_runs {runs : List ExtendedRun}
    (h : ∀ run ∈ runs, run.Verifies platform config depth call) :
    List.Forall₂ (fun result plain => ∃ rows, ExtendedBy platform
        (call.additionalSuites.getD []) plain rows result)
      (runs.map ExtendedRun.result) (runs.map ExtendedRun.plain) := by
  rw [List.forall₂_map_left_iff, List.forall₂_map_right_iff, List.forall₂_same]
  intro run hrun
  exact ⟨run.rows, (h run hrun).extended⟩

/-- The verification of a credential with the suites of the call, beside the one without. -/
theorem embedded_split (credential : Json) (trace : List PortEvent)
    (result : CredentialVerificationResult)
    (h : Executes (embeddedVerification config (createVerifier platform config depth) call
      credential) trace result) :
    ∃ run : ExtendedRun, run.Verifies platform config depth call ∧ run.credential = credential ∧
      run.events = trace ∧ run.result = result := by
  have hrun := h
  unfold embeddedVerification at hrun
  rw [createVerifier_verifyCredential] at hrun
  rcases executes_split hrun with ⟨front, added, back, plain, rows, rfl, hplain, hextended, hadded⟩
  refine ⟨⟨credential, front, added, back, plain, rows, result⟩, ⟨h, ?_, hextended, hadded⟩, rfl,
    rfl, rfl⟩
  unfold embeddedVerification
  rw [createVerifier_verifyCredential]
  exact hplain

/-- The verification of a credential without suites can be continued by any suites. -/
theorem embedded_extend (credential : Json) (trace : List PortEvent)
    (plain : CredentialVerificationResult)
    (h : Executes (embeddedVerification config (createVerifier platform config depth)
      call.withoutSuites credential) trace plain) :
    ∃ run : ExtendedRun, run.Verifies platform config depth call ∧ run.credential = credential ∧
      run.kept = trace ∧ run.plain = plain := by
  have hrun := h
  unfold embeddedVerification at hrun
  rw [createVerifier_verifyCredential] at hrun
  have hplain : Executes (verifyCredentialWith platform config
      (lookupIssuersBelow platform config depth)
      (embeddedCall call ((call.timing.or config.timing).getD false) credential).withoutSuites)
      trace plain := hrun
  rcases executes_extend hplain with
    ⟨front, added, back, result, rows, rfl, hresult, hextended, hadded⟩
  refine ⟨⟨credential, front, added, back, plain, rows, result⟩, ⟨?_, h, hextended, hadded⟩, rfl,
    rfl, rfl⟩
  unfold embeddedVerification
  rw [createVerifier_verifyCredential]
  exact hresult

/-- A run behind the gates is one of the call without the suites it brings, with the calls
made for these left out. -/
theorem executes_presentation_split (hparsed : parsePresentation call.presentation = [])
    (hoptions : invalidChallengeOptions call = none) {trace : List PortEvent}
    {result : PresentationVerificationResult}
    (h : Executes (verifyPresentation platform config depth call) trace result) :
    ∃ kept plain rows,
      Executes (verifyPresentation platform config depth call.withoutSuites) kept plain ∧
      PresentationExtendedBy platform (call.additionalSuites.getD []) plain rows result ∧
      PresentationSuitesAdded platform config depth call plain result kept trace rows := by
  unfold verifyPresentation at h ⊢
  rcases (executes_presentation_withSuites_iff hparsed hoptions).mp h with
    ⟨started, topLevel, nowMs, events, rows, middle, added, rows', state, embedded, results,
      finishing, timing, rfl, hstart, hran, hadded, hembedded, hfinish, rfl⟩
  rcases exists_runs_of_mapM ExtendedRun.credential ExtendedRun.events ExtendedRun.result
    embedded_split hembedded with ⟨runs, hcredentials, rfl, rfl, hruns⟩
  have hplains := executes_mapM_of_runs ExtendedRun.credential ExtendedRun.kept ExtendedRun.plain
    fun run hrun => (hruns run hrun).executesPlain
  rw [hcredentials] at hplains
  refine ⟨_, _, rows', (executes_presentation_withoutSuites_iff hparsed hoptions).mpr ⟨started,
    topLevel, nowMs, events, rows, middle, _, _, finishing, timing, rfl, hstart, hran, hplains,
    hfinish, rfl⟩, presentationExtendedBy_append (rowsFrom_collect hran)
      (rowsFrom_collect hadded) (extended_of_runs hruns),
    .ran hparsed hoptions ?_ hadded hcredentials rfl rfl hruns⟩
  simp only [presentationResult, results_foldCheckResults]
  exact hran

/-- A run behind the gates of a call without suites can be continued by any suites. -/
theorem executes_presentation_extend (hparsed : parsePresentation call.presentation = [])
    (hoptions : invalidChallengeOptions call = none) {trace : List PortEvent}
    {plain : PresentationVerificationResult}
    (h : Executes (verifyPresentation platform config depth call.withoutSuites) trace plain) :
    ∃ longer result rows,
      Executes (verifyPresentation platform config depth call) longer result ∧
      PresentationExtendedBy platform (call.additionalSuites.getD []) plain rows result ∧
      PresentationSuitesAdded platform config depth call plain result trace longer rows := by
  unfold verifyPresentation at h ⊢
  rcases (executes_presentation_withoutSuites_iff hparsed hoptions).mp h with
    ⟨started, topLevel, nowMs, events, rows, middle, embedded, plains, finishing, timing, rfl,
      hstart, hran, hembedded, hfinish, rfl⟩
  -- Whatever answered the own suites can answer the others as well.
  rcases exists_executes (addedPresentationRun platform config
    (lookupIssuersBelow platform config depth) call nowMs middle) with ⟨added, ⟨rows', state⟩, hadded⟩
  rcases exists_runs_of_mapM ExtendedRun.credential ExtendedRun.kept ExtendedRun.plain
    embedded_extend hembedded with ⟨runs, hcredentials, rfl, rfl, hruns⟩
  have hresults := executes_mapM_of_runs ExtendedRun.credential ExtendedRun.events
    ExtendedRun.result fun run hrun => (hruns run hrun).executes
  rw [hcredentials] at hresults
  refine ⟨_, _, rows', (executes_presentation_withSuites_iff hparsed hoptions).mpr ⟨started,
    topLevel, nowMs, events, rows, middle, added, rows', state, _, _, finishing, timing, rfl, hstart,
    hran, hadded, hresults, hfinish, rfl⟩, presentationExtendedBy_append (rowsFrom_collect hran)
      (rowsFrom_collect hadded) (extended_of_runs hruns),
    .ran hparsed hoptions ?_ hadded hcredentials rfl rfl hruns⟩
  simp only [presentationResult, results_foldCheckResults]
  exact hran

/-- The suites that a call brings run behind the others, over the presentation and over each
credential.  Without the calls made for them a run is one of the call without them, whose
result it extends; and every run of that call can be continued so. -/
theorem verifyPresentation_additionalSuites (platform : Platform) (config : VerifierConfig)
    (depth : Nat) (call : VerifyPresentationCall) :
    (∀ trace result, Executes (verifyPresentation platform config depth call) trace result →
      ∃ kept plain rows, kept.Sublist trace ∧
        Executes (verifyPresentation platform config depth call.withoutSuites) kept plain ∧
        PresentationExtendedBy platform (call.additionalSuites.getD []) plain rows result ∧
        PresentationSuitesAdded platform config depth call plain result kept trace rows) ∧
    ∀ trace plain,
      Executes (verifyPresentation platform config depth call.withoutSuites) trace plain →
      ∃ longer result rows, trace.Sublist longer ∧
        Executes (verifyPresentation platform config depth call) longer result ∧
        PresentationExtendedBy platform (call.additionalSuites.getD []) plain rows result ∧
        PresentationSuitesAdded platform config depth call plain result trace longer rows := by
  by_cases hgates : parsePresentation call.presentation = [] ∧ invalidChallengeOptions call = none
  · rcases hgates with ⟨hparsed, hoptions⟩
    constructor
    · intro trace result hrun
      rcases executes_presentation_split hparsed hoptions hrun with
        ⟨kept, plain, rows, hplain, hextended, hadded⟩
      exact ⟨kept, plain, rows, hadded.sublist, hplain, hextended, hadded⟩
    · intro trace plain hrun
      rcases executes_presentation_extend hparsed hoptions hrun with
        ⟨longer, result, rows, hresult, hextended, hadded⟩
      exact ⟨longer, result, rows, hadded.sublist, hresult, hextended, hadded⟩
  · have hsame : verifyPresentation platform config depth call.withoutSuites =
        verifyPresentation platform config depth call :=
      verifyPresentationWith_withoutSuites hgates
    have hunverified {trace : List PortEvent} {result : PresentationVerificationResult}
        (hrun : Executes (verifyPresentation platform config depth call) trace result) :
        result.verified = false := by
      rw [← Bool.not_eq_true]
      intro hverified
      exact hgates (gates_of_verified hrun hverified)
    rw [hsame]
    constructor
    · intro trace result hrun
      exact ⟨trace, result, [], .refl _, hrun, presentationExtendedBy_refused (hunverified hrun),
        .refused hgates⟩
    · intro trace plain hrun
      exact ⟨trace, plain, [], .refl _, hrun, presentationExtendedBy_refused (hunverified hrun),
        .refused hgates⟩

end

/-! ### A presentation and a strict suite -/

/-- The presentation of the badge, with the suite that no credential passes. -/
def StrictBadge.presentationCall : VerifyPresentationCall :=
  { BadgePresentation.call with additionalSuites := some [StrictBadge.strictSuite] }

/-- The strict suite fails the presentation, and without it the presentation is verified by
the same calls. -/
theorem verifyPresentation_additionalSuites_badge : ∃ kept plain rows result,
    kept.Sublist BadgePresentation.trace ∧ result.verified = false ∧
    Executes (verifyPresentation BadgePresentation.platform BadgePresentation.config 0
      StrictBadge.presentationCall.withoutSuites) kept plain ∧
    PresentationExtendedBy BadgePresentation.platform [StrictBadge.strictSuite] plain rows result ∧
    PresentationSuitesAdded BadgePresentation.platform BadgePresentation.config 0
      StrictBadge.presentationCall plain result kept BadgePresentation.trace rows := by
  have hreplay : (replay (verifyPresentation BadgePresentation.platform BadgePresentation.config 0
      StrictBadge.presentationCall) BadgePresentation.trace).map
      PresentationVerificationResult.verified = some false := by decide +kernel
  obtain ⟨result, hresult, hverified⟩ := Option.map_eq_some_iff.mp hreplay
  obtain ⟨kept, plain, rows, hkept, hplain, hextended, hadded⟩ :=
    (verifyPresentation_additionalSuites BadgePresentation.platform BadgePresentation.config 0
      StrictBadge.presentationCall).1 _ _ (replay_eq_some_iff.mp hresult)
  exact ⟨kept, plain, rows, result, hkept, hverified, hplain, hextended, hadded⟩

end VerifierCore
