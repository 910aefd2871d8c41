import VerifierCore.RunSuites.Regrouping
import VerifierCore.Verifier.Presentation

/-!
# The suites a caller adds

A caller's suites run behind the default ones.  They can fail a credential that would be
verified without them, and nothing else: the rows of the default suites, the recognized
form and the summaries stay what they are without them.

Main results:

- Theorem {lit}`executes_verifyCredentialWith_iff`: the runs behind the parser.
- Theorem {lit}`summaries_append`: the summaries of two groups of suites.
- Theorem {lit}`verifyCredential_additionalSuites`: a verification with added suites is one
  without them, extended by the rows of these suites.
- Theorem {lit}`verifyCredential_regroup`: how the added checks are grouped into suites does
  not matter.
-/

namespace VerifierCore

open Foundations Program

/-! ## Runs behind the parser -/

section

variable {platform : Platform} {config : VerifierConfig} {lookupIssuers : LookupIssuers}
  {call : VerifyCredentialCall}

/-- The options the suites of a call run with. -/
def credentialOptions (config : VerifierConfig) (call : VerifyCredentialCall) :
    RunSuitesOptions where
  explicitSuiteIds := (call.additionalSuites.getD []).map VerificationSuite.id
  phases := expandPhases (call.phases.or config.phases)

/-- The context of a call's checks, from a reading of the clock on. -/
def credentialContext (config : VerifierConfig) (lookupIssuers : LookupIssuers)
    (call : VerifyCredentialCall) (nowMs : ℚ) : VerificationContext :=
  buildContext config lookupIssuers (call.registries.or config.registries) nowMs
    ((call.timing.or config.timing).getD false)

/-- Behind the parser the clock is read, the suites run, and their rows are the result. -/
theorem executes_verifyCredentialWith_iff (hparsed : parseCredential call.credential = [])
    {trace : List PortEvent} {result : CredentialVerificationResult} :
    Executes (verifyCredentialWith platform config lookupIssuers call) trace result ↔
      ∃ started topLevel nowMs events ran finishing timing,
        trace = started ++ ⟨.dateNowMs, nowMs⟩ :: events ++ finishing ∧
        Executes (startIfTimed platform ((call.timing.or config.timing).getD false)) started
          topLevel ∧
        Executes (runSuites platform (defaultSuites platform ++ call.additionalSuites.getD [])
          { verifiableCredential := call.credential }
          (credentialContext config lookupIssuers call nowMs) (credentialOptions config call) {})
          events ran ∧
        Executes (finishIfStarted platform topLevel) finishing timing ∧
        result =
          { credentialResult call.credential ran.1
              (defaultSuites platform ++ call.additionalSuites.getD [])
              (call.phases.or config.phases) with
            timing := timing } := by
  unfold verifyCredentialWith
  simp only [hparsed]
  constructor
  · intro h
    rcases executes_bind_iff.mp h with ⟨started, _, topLevel, rfl, hstart, hread⟩
    rcases executes_ask_bind_iff.mp hread with ⟨nowMs, _, rfl, hran⟩
    rcases executes_bind_iff.mp hran with ⟨events, _, ran, rfl, hsuites, hfinal⟩
    rcases executes_bind_iff.mp hfinal with ⟨finishing, _, timing, rfl, hfinish, hpure⟩
    rcases executes_pure_iff.mp hpure with ⟨rfl, rfl⟩
    exact ⟨started, topLevel, nowMs, events, ran, finishing, timing, by simp, hstart, hsuites,
      hfinish, rfl⟩
  · rintro ⟨started, topLevel, nowMs, events, ran, finishing, timing, rfl, hstart, hsuites, hfinish,
      rfl⟩
    refine executes_bind_iff.mpr ⟨started, ⟨.dateNowMs, nowMs⟩ :: (events ++ finishing), topLevel,
      by simp, hstart, ?_⟩
    refine executes_ask_bind_iff.mpr ⟨nowMs, events ++ finishing, rfl, ?_⟩
    refine executes_bind_iff.mpr ⟨events, finishing, ran, rfl, hsuites, ?_⟩
    exact executes_bind_iff.mpr ⟨finishing, [], timing, by simp, hfinish,
      executes_pure_iff.mpr ⟨rfl, rfl⟩⟩

end

/-! ## Suites without a predicate -/

/-- Only a suite whose predicate declined looks at the explicit ids. -/
theorem runSuite_congr_options {platform : Platform} {subject : VerificationSubject}
    {context : VerificationContext} {options options' : RunSuitesOptions}
    {suite : VerificationSuite} (happlies : suite.applies = none)
    (hphases : options.phases = options'.phases) (state : RunState) :
    runSuite platform subject context options suite state =
      runSuite platform subject context options' suite state := by
  have hevaluated : evaluateApplies suite subject context = .ok true := by
    rw [evaluateApplies, happlies]
  unfold runSuite
  rw [hevaluated, hphases]

/-- The default suites apply to every subject. -/
theorem applies_of_defaultSuites {platform : Platform} :
    ∀ suite ∈ defaultSuites platform, suite.applies = none := by
  intro suite hsuite
  simp only [defaultSuites, List.mem_cons, List.not_mem_nil, or_false] at hsuite
  rcases hsuite with rfl | rfl | rfl | rfl | rfl <;> rfl

/-! ## Rows of given suites -/

/-- Rows that only suites of the list report. -/
structure RowsFrom (suites : List VerificationSuite) (rows : List CheckResult) : Prop where
  suite : ∀ row ∈ rows, ∃ suite ∈ suites, row.suite = suite.id
  fatal : ∀ row ∈ rows, row.fatal = some true →
    ∃ suite ∈ suites, ∃ check ∈ suite.checks, check.fatal = some true

/-- A row is fatal exactly as its check is. -/
theorem CheckReported.fatal_eq {suite : VerificationSuite} {subject : VerificationSubject}
    {context : VerificationContext} {haltedBy : Option String} {check : VerificationCheck}
    {entries : List ReportEntry}
    (h : CheckReported suite subject context haltedBy check entries) :
    ∀ entry ∈ entries, entry.row.fatal = check.fatal := by
  intro entry hentry
  exact (h.isRowOf entry hentry).2.2.2.1

/-- A fatal row of a suite comes from a fatal check of it. -/
theorem SuiteReported.rowsFrom {subject : VerificationSubject} {context : VerificationContext}
    {options : RunSuitesOptions} {haltedBy : Option String} {suite : VerificationSuite}
    {entries : List ReportEntry}
    (h : SuiteReported subject context options haltedBy suite entries) :
    RowsFrom [suite] (entries.map ReportEntry.row) := by
  constructor
  · intro row hrow
    rcases List.mem_map.mp hrow with ⟨entry, hentry, rfl⟩
    rcases h.isRowOf entry hentry with ⟨_, _, hrowOf⟩
    exact ⟨suite, List.mem_cons_self, hrowOf.2.2.1⟩
  · intro row hrow hfatal
    rcases List.mem_map.mp hrow with ⟨entry, hentry, rfl⟩
    refine ⟨suite, List.mem_cons_self, ?_⟩
    cases h with
    | outsidePhases => cases hentry
    | declined => cases hentry
    | appliesThrew _ _ _ hrowOf =>
        rw [List.mem_singleton.mp hentry, hrowOf.2.2.2.1, Option.some.injEq, List.any_eq_true]
          at hfatal
        rcases hfatal with ⟨check, hcheck, hboth⟩
        rw [Bool.and_eq_true, decide_eq_true_eq] at hboth
        exact ⟨check, hcheck, hboth.1⟩
    | declinedExplicit _ _ _ hrowOf =>
        rw [List.mem_singleton.mp hentry, hrowOf.2.2.2.1] at hfatal
        cases hfatal
    | @ran parts _ _ hitems hparts =>
        rcases List.mem_flatMap.mp hentry with ⟨part, hpart, hmem⟩
        rcases List.append_of_mem hpart with ⟨before, after, hsplit⟩
        rw [(hparts before part after hsplit).fatal_eq entry hmem] at hfatal
        refine ⟨part.1, ?_, hfatal⟩
        rw [← hitems]
        exact List.mem_map_of_mem hpart

/-- Rows of given suites, followed by others of them. -/
theorem RowsFrom.append {suites : List VerificationSuite} {rows rows' : List CheckResult}
    (h : RowsFrom suites rows) (h' : RowsFrom suites rows') : RowsFrom suites (rows ++ rows') := by
  constructor
  · intro row hrow
    rcases List.mem_append.mp hrow with hmem | hmem
    · exact h.suite row hmem
    · exact h'.suite row hmem
  · intro row hrow
    rcases List.mem_append.mp hrow with hmem | hmem
    · exact h.fatal row hmem
    · exact h'.fatal row hmem

/-- Rows of given suites are rows of more suites. -/
theorem RowsFrom.mono {suites others : List VerificationSuite} {rows : List CheckResult}
    (h : RowsFrom suites rows) (hsub : suites ⊆ others) : RowsFrom others rows := by
  constructor
  · intro row hrow
    rcases h.suite row hrow with ⟨suite, hsuite, hid⟩
    exact ⟨suite, hsub hsuite, hid⟩
  · intro row hrow hfatal
    rcases h.fatal row hrow hfatal with ⟨suite, hsuite, hcheck⟩
    exact ⟨suite, hsub hsuite, hcheck⟩

/-- The loop over some suites reports rows of them. -/
theorem rowsFrom_collect {platform : Platform} {subject : VerificationSubject}
    {context : VerificationContext} {options : RunSuitesOptions} {suites : List VerificationSuite}
    {state state' : RunState} {events : List PortEvent} {rows : List CheckResult}
    (h : Executes (collect (runSuite platform subject context options) suites state) events
      (rows, state')) : RowsFrom suites rows := by
  apply collect_closed (P := fun _ rows => RowsFrom suites rows) ⟨by simp, by simp⟩ _ _ h
  · intro _ _ _ _ hfirst hsecond
    exact hfirst.append hsecond
  · intro suite hsuite start trace outs stop hrun
    rcases executes_runSuite suite start trace outs stop hrun with ⟨entries, hentries, rfl, _, _⟩
    apply hentries.rowsFrom.mono
    intro other hother
    rw [List.mem_singleton.mp hother]
    exact hsuite

/-- Rows of suites that run in the phases. -/
def RowsInPhases (phases : Option (List SuitePhase)) (rows : List CheckResult) : Prop :=
  ∀ row ∈ rows, ∃ suite checkId, suiteRunsInPhases suite phases = true ∧
    row.id = computeId suite.phase suite.id checkId

/-- A suite that leaves a row runs in the phases. -/
theorem SuiteReported.rowsInPhases {subject : VerificationSubject} {context : VerificationContext}
    {options : RunSuitesOptions} {haltedBy : Option String} {suite : VerificationSuite}
    {entries : List ReportEntry}
    (h : SuiteReported subject context options haltedBy suite entries) :
    RowsInPhases options.phases (entries.map ReportEntry.row) := by
  intro row hrow
  rcases List.mem_map.mp hrow with ⟨entry, hentry, rfl⟩
  rcases h.isRowOf entry hentry with ⟨_, _, hrowOf⟩
  refine ⟨suite, entry.checkId, ?_, hrowOf.2.1⟩
  cases h with
  | outsidePhases => cases hentry
  | appliesThrew hphases | declined hphases | declinedExplicit hphases | ran hphases =>
      exact hphases

/-- The loop over suites leaves rows of those that run in the phases. -/
theorem rowsInPhases_collect {platform : Platform} {subject : VerificationSubject}
    {context : VerificationContext} {options : RunSuitesOptions} {suites : List VerificationSuite}
    {state state' : RunState} {events : List PortEvent} {rows : List CheckResult}
    (h : Executes (collect (runSuite platform subject context options) suites state) events
      (rows, state')) : RowsInPhases options.phases rows := by
  apply collect_closed (P := fun _ rows => RowsInPhases options.phases rows) (by simp [RowsInPhases])
    _ _ h
  · intro _ _ _ _ hfirst hsecond row hrow
    rcases List.mem_append.mp hrow with hmem | hmem
    · exact hfirst row hmem
    · exact hsecond row hmem
  · intro suite _ start trace outs stop hrun
    rcases executes_runSuite suite start trace outs stop hrun with ⟨entries, hentries, rfl, _, _⟩
    exact hentries.rowsInPhases

/-- Where the recognition suite does not run, no row has the id of its check. -/
theorem RowsInPhases.no_recognition {phases : Option (List SuitePhase)} {rows : List CheckResult}
    (h : RowsInPhases phases rows) (hphases : suiteRunsInPhases recognitionSuite phases = false) :
    ∀ row ∈ rows, row.id ≠ "recognition.profile" := by
  intro row hrow hid
  rcases h row hrow with ⟨suite, checkId, hruns, hrowId⟩
  have hrecognition : computeId (some .recognition) "recognition" "recognition.profile" =
      "recognition.profile" := by decide
  rw [hid, ← hrecognition] at hrowId
  have hphase : recognitionSuite.phase = suite.phase := phase_eq_of_computeId_eq hrowId
  unfold suiteRunsInPhases at hphases hruns
  rw [hphase, hruns] at hphases
  cases hphases

/-- Rows of suites without a fatal check do not fail a subject. -/
theorem RowsFrom.hasFatalFailures_eq_false {suites : List VerificationSuite}
    {rows : List CheckResult} (h : RowsFrom suites rows)
    (hsuites : ∀ suite ∈ suites, ∀ check ∈ suite.checks, check.fatal ≠ some true) :
    hasFatalFailures rows = false := by
  rw [hasFatalFailures_eq_false_iff]
  intro row hrow hfatal
  rcases h.fatal row hrow hfatal with ⟨suite, hsuite, check, hcheck, hcheckFatal⟩
  exact absurd hcheckFatal (hsuites suite hsuite check hcheck)

/-- A check that applies leaves a row, whatever came before it. -/
theorem exists_row {platform : Platform} {suites : List VerificationSuite}
    {subject : VerificationSubject} {context : VerificationContext} {options : RunSuitesOptions}
    {store store' : ContextStore} {trace : List PortEvent} {rows : List CheckResult}
    (h : Executes (runSuites platform suites subject context options store) trace (rows, store'))
    {suite : VerificationSuite} (hsuite : suite ∈ suites)
    (hphases : suiteRunsInPhases suite options.phases = true)
    (happlies : evaluateApplies suite subject context = .ok true)
    {check : VerificationCheck} (hcheck : check ∈ suite.checks)
    (hadmitted : appliesToSubject check subject = true) :
    ∃ row ∈ rows, row.id = computeId suite.phase suite.id check.id := by
  rcases exists_report h with ⟨report, hreported, rfl, rfl⟩
  rw [← hreported.1] at hsuite
  rcases List.mem_map.mp hsuite with ⟨⟨suite, entries⟩, hpart, rfl⟩
  rcases List.append_of_mem hpart with ⟨before, after, hsplit⟩
  have hran := hreported.2 before (suite, entries) after hsplit
  simp only at hran hphases happlies hcheck
  have hrow : ∃ entry ∈ entries, entry.row.id = computeId suite.phase suite.id check.id := by
    cases hran with
    | outsidePhases hout =>
        rw [hphases] at hout
        cases hout
    | appliesThrew _ hthrew =>
        rw [happlies] at hthrew
        cases hthrew
    | declined _ hdeclined =>
        rw [happlies] at hdeclined
        cases hdeclined
    | declinedExplicit _ hdeclined =>
        rw [happlies] at hdeclined
        cases hdeclined
    | @ran parts _ _ hitems hparts =>
        rw [← hitems] at hcheck
        rcases List.mem_map.mp hcheck with ⟨⟨check, left⟩, hmem, rfl⟩
        rcases List.append_of_mem hmem with ⟨front, rest, hparted⟩
        have hreported := hparts front (check, left) rest hparted
        simp only at hreported hadmitted
        have hleft : ∃ entry ∈ left, entry.row.id = computeId suite.phase suite.id check.id := by
          cases hreported with
          | notAdmitted hnot =>
              rw [hadmitted] at hnot
              cases hnot
          | notRun _ _ hrowOf => exact ⟨_, List.mem_cons_self, hrowOf.2.1⟩
          | ran _ _ hrowOf => exact ⟨_, List.mem_cons_self, hrowOf.2.1⟩
        rcases hleft with ⟨entry, hentry, hid⟩
        exact ⟨entry, List.mem_flatMap.mpr ⟨(check, left), hmem, hentry⟩, hid⟩
  rcases hrow with ⟨entry, hentry, hid⟩
  exact ⟨entry.row, List.mem_map_of_mem (List.mem_flatMap.mpr ⟨(suite, entries), hpart, hentry⟩),
    hid⟩

/-! ## Summaries -/

/-- The ids of some suites. -/
def suiteIds (suites : List VerificationSuite) : List String :=
  suites.map VerificationSuite.id

/-- Rows are found under the ids of their suites. -/
theorem RowsFrom.suite_mem {suites : List VerificationSuite} {rows : List CheckResult}
    (h : RowsFrom suites rows) : ∀ id ∈ rows.map CheckResult.suite, id ∈ suiteIds suites := by
  intro id hid
  rcases List.mem_map.mp hid with ⟨row, hrow, rfl⟩
  rcases h.suite row hrow with ⟨suite, hsuite, heq⟩
  rw [heq]
  exact List.mem_map_of_mem hsuite

/-- No suite is found under an id that none has. -/
theorem indexSuitesById_eq_none {suites : List VerificationSuite} {id : String}
    (h : id ∉ suiteIds suites) : indexSuitesById suites id = none := by
  rw [indexSuitesById, List.find?_eq_none]
  intro suite hsuite heq
  rw [decide_eq_true_eq] at heq
  exact h (heq ▸ List.mem_map_of_mem (List.mem_reverse.mp hsuite))

/-- Later suites are found first. -/
theorem indexSuitesById_append (suites others : List VerificationSuite) (id : String) :
    indexSuitesById (suites ++ others) id =
      (indexSuitesById others id).or (indexSuitesById suites id) := by
  rw [indexSuitesById, List.reverse_append, List.find?_append]
  rfl

/-- Under another id there are no rows of the suites. -/
theorem rowsOf_eq_nil {suites : List VerificationSuite} {rows : List CheckResult} {id : String}
    (h : RowsFrom suites rows) (hid : id ∉ suiteIds suites) : rowsOf id rows = [] := by
  rw [rowsOf, List.filter_eq_nil_iff]
  intro row hrow heq
  rw [decide_eq_true_eq] at heq
  exact hid (heq ▸ h.suite_mem _ (List.mem_map_of_mem hrow))

/-- Groups of suites with different ids are summarized apart. -/
theorem summaries_append {suites others : List VerificationSuite} {rows rows' : List CheckResult}
    (hrows : RowsFrom suites rows) (hrows' : RowsFrom others rows')
    (hdisjoint : (suiteIds suites).Disjoint (suiteIds others)) :
    (foldCheckResults (rows ++ rows') (suites ++ others)).summaries =
      (foldCheckResults rows suites).summaries ++ (foldCheckResults rows' others).summaries := by
  have hkeys : (rows'.map CheckResult.suite).removeAll (rows.map CheckResult.suite) =
      rows'.map CheckResult.suite := by
    rw [List.removeAll, List.filter_eq_self]
    intro id hid
    rw [Bool.not_eq_true', List.elem_eq_contains, List.contains_eq_mem, decide_eq_false_iff_not]
    intro hboth
    exact hdisjoint (hrows.suite_mem id hboth) (hrows'.suite_mem id hid)
  simp only [summaries_eq, List.map_append, List.eraseDups_append, hkeys]
  congr 1
  · apply List.map_congr_left
    intro id hid
    have hmem := hrows.suite_mem id (List.mem_eraseDups.mp hid)
    have hnot : id ∉ suiteIds others := fun hother => hdisjoint hmem hother
    have hapart : rowsOf id (rows ++ rows') = rowsOf id rows := by
      have hnil := rowsOf_eq_nil hrows' hnot
      rw [rowsOf] at hnil ⊢
      rw [List.filter_append, hnil, List.append_nil]
      rfl
    rw [summaryOf, summaryOf, hapart, indexSuitesById_append, indexSuitesById_eq_none hnot,
      Option.none_or]
  · apply List.map_congr_left
    intro id hid
    have hmem := hrows'.suite_mem id (List.mem_eraseDups.mp hid)
    have hnot : id ∉ suiteIds suites := fun hother => hdisjoint hother hmem
    have hapart : rowsOf id (rows ++ rows') = rowsOf id rows' := by
      have hnil := rowsOf_eq_nil hrows hnot
      rw [rowsOf] at hnil ⊢
      rw [List.filter_append, hnil, List.nil_append]
      rfl
    rw [summaryOf, summaryOf, hapart, indexSuitesById_append, indexSuitesById_eq_none hnot,
      Option.or_none]

/-! ## Calls with added suites -/

/-- The call without the suites it brings. -/
def VerifyCredentialCall.withoutSuites (call : VerifyCredentialCall) : VerifyCredentialCall :=
  { call with additionalSuites := none }

/-- What some suites make of a result: their rows stand behind its rows, and nothing that
was found without them changes. -/
structure ExtendedBy (platform : Platform) (suites : List VerificationSuite)
    (plain : CredentialVerificationResult) (rows : List CheckResult)
    (result : CredentialVerificationResult) : Prop where
  rowsFrom : RowsFrom suites rows
  results : result.results = plain.results ++ rows
  verified : result.verified = (plain.verified && !hasFatalFailures rows)
  /-- Suites that only advise leave the verdict to the default ones. -/
  advisory : (∀ suite ∈ suites, ∀ check ∈ suite.checks, check.fatal ≠ some true) →
    result.verified = plain.verified
  recognizedProfile : result.recognizedProfile = plain.recognizedProfile
  normalized : result.normalizedVerifiableCredential = plain.normalizedVerifiableCredential
  /-- Suites with ids of their own are summarized behind the default ones. -/
  summary : (suiteIds (defaultSuites platform)).Disjoint (suiteIds suites) →
    result.summary = plain.summary ++ (foldCheckResults rows suites).summaries
  timing : result.timing = plain.timing
  partialPhases : result.partialPhases = plain.partialPhases
  verifiableCredential : result.verifiableCredential = plain.verifiableCredential

/-- Suites that were not run leave the result as it is. -/
theorem extendedBy_nil (platform : Platform) (suites : List VerificationSuite)
    (result : CredentialVerificationResult) :
    ExtendedBy platform suites result [] result where
  rowsFrom := ⟨by simp, by simp⟩
  results := (List.append_nil _).symm
  verified := (Bool.and_true _).symm
  advisory _ := rfl
  recognizedProfile := rfl
  normalized := rfl
  summary _ := by simp [summaries_eq]
  timing := rfl
  partialPhases := rfl
  verifiableCredential := rfl

/-- The recognized form is read off the first row of the recognition check, so rows behind it
and rows of other checks play no part. -/
theorem extractRecognition_append {rows rows' : List CheckResult}
    (h : (∃ row ∈ rows, row.id = "recognition.profile") ∨
      ∀ row ∈ rows', row.id ≠ "recognition.profile") :
    extractRecognition (rows ++ rows') = extractRecognition rows := by
  rw [extractRecognition, extractRecognition, List.find?_append]
  rcases h with ⟨row, hrow, hid⟩ | hnone
  · have hfound : (rows.find? fun row => row.id = "recognition.profile").isSome = true := by
      rw [List.find?_isSome]
      exact ⟨row, hrow, decide_eq_true hid⟩
    rw [Option.or_of_isSome hfound]
  · have hnot : rows'.find? (fun row => row.id = "recognition.profile") = none := by
      rw [List.find?_eq_none]
      intro row hrow hid
      exact hnone row hrow (of_decide_eq_true hid)
    rw [hnot, Option.or_none]

/-- Some row of two groups fails the subject if one of either group does. -/
theorem hasFatalFailures_append (rows rows' : List CheckResult) :
    hasFatalFailures (rows ++ rows') = (hasFatalFailures rows || hasFatalFailures rows') :=
  List.any_append

/-- The result over the rows of two groups of suites. -/
theorem extendedBy_append {platform : Platform} {credential : Json}
    {suites : List VerificationSuite} {phases : Option (List SuitePhase)}
    {rows rows' : List CheckResult} {timing : Option TaskTiming}
    (hrows : RowsFrom (defaultSuites platform) rows) (hrows' : RowsFrom suites rows')
    (hrecognition : (∃ row ∈ rows, row.id = "recognition.profile") ∨
      ∀ row ∈ rows', row.id ≠ "recognition.profile") :
    ExtendedBy platform suites
      { credentialResult (some credential) rows (defaultSuites platform) phases with
        timing := timing }
      rows'
      { credentialResult (some credential) (rows ++ rows') (defaultSuites platform ++ suites)
          phases with
        timing := timing } where
  rowsFrom := hrows'
  results := by simp only [credentialResult, results_foldCheckResults]
  verified := by simp only [credentialResult, hasFatalFailures_append, Bool.not_or]
  advisory hsuites := by
    simp only [credentialResult, hasFatalFailures_append,
      hrows'.hasFatalFailures_eq_false hsuites, Bool.or_false]
  recognizedProfile := by
    simp only [credentialResult, extractRecognition_append hrecognition]
  normalized := by
    simp only [credentialResult, extractRecognition_append hrecognition]
  summary hdisjoint := summaries_append hrows hrows' hdisjoint
  timing := rfl
  partialPhases := rfl
  verifiableCredential := rfl

/-- The runs of suites are those of the loop over them. -/
theorem executes_runSuites_iff {platform : Platform} {suites : List VerificationSuite}
    {subject : VerificationSubject} {context : VerificationContext} {options : RunSuitesOptions}
    {store : ContextStore} {trace : List PortEvent} {ran : List CheckResult × ContextStore} :
    Executes (runSuites platform suites subject context options store) trace ran ↔
      ∃ state, Executes (collect (runSuite platform subject context options) suites
        { store := store }) trace (ran.1, state) ∧ ran.2 = state.store := by
  rw [runSuites, executes_bind_iff]
  constructor
  · rintro ⟨events, _, ⟨rows, state⟩, rfl, hcollect, hpure⟩
    rcases executes_pure_iff.mp hpure with ⟨rfl, rfl⟩
    exact ⟨state, by simpa using hcollect, rfl⟩
  · rintro ⟨state, hcollect, hstore⟩
    refine ⟨trace, [], (ran.1, state), by simp, hcollect, executes_pure_iff.mpr ⟨rfl, ?_⟩⟩
    rw [← hstore]

/-- A run over suites that always apply and some others is one over these suites, followed by
the others in the state it left. -/
theorem executes_runSuites_append_iff {platform : Platform} {front suites : List VerificationSuite}
    {subject : VerificationSubject} {context : VerificationContext}
    {options options' : RunSuitesOptions} (hfront : ∀ suite ∈ front, suite.applies = none)
    (hphases : options.phases = options'.phases)
    {trace : List PortEvent} {ran : List CheckResult × ContextStore} :
    Executes (runSuites platform (front ++ suites) subject context options {}) trace ran ↔
      ∃ first second rows rows' middle state, trace = first ++ second ∧ ran.1 = rows ++ rows' ∧
        Executes (collect (runSuite platform subject context options') front {}) first
          (rows, middle) ∧
        Executes (collect (runSuite platform subject context options) suites middle) second
          (rows', state) ∧
        ran.2 = state.store := by
  have hsame : collect (runSuite platform subject context options) front {} =
      collect (runSuite platform subject context options') front {} := by
    apply collect_congr
    intro suite hsuite state
    exact runSuite_congr_options (hfront suite hsuite) hphases state
  simp only [executes_runSuites_iff, executes_collect_append_iff]
  constructor
  · rintro ⟨state, ⟨first, second, rows, rows', middle, rfl, hran, hfirst, hsecond⟩, hstore⟩
    rw [hsame] at hfirst
    exact ⟨first, second, rows, rows', middle, state, rfl, hran, hfirst, hsecond, hstore⟩
  · rintro ⟨first, second, rows, rows', middle, state, rfl, hran, hfirst, hsecond, hstore⟩
    rw [← hsame] at hfirst
    exact ⟨state, ⟨first, second, rows, rows', middle, rfl, hran, hfirst, hsecond⟩, hstore⟩

section

variable {platform : Platform} {config : VerifierConfig} {lookupIssuers : LookupIssuers}
  {call : VerifyCredentialCall}

/-- The loop over the default suites of a call, from a reading of the clock on. -/
def defaultRun (platform : Platform) (config : VerifierConfig) (lookupIssuers : LookupIssuers)
    (call : VerifyCredentialCall) (nowMs : ℚ) : Async (List CheckResult × RunState) :=
  collect (runSuite platform { verifiableCredential := call.credential }
    (credentialContext config lookupIssuers call nowMs) (credentialOptions config call.withoutSuites))
    (defaultSuites platform) {}

/-- The loop over the suites that a call brings, from where the default ones stopped. -/
def addedRun (platform : Platform) (config : VerifierConfig) (lookupIssuers : LookupIssuers)
    (call : VerifyCredentialCall) (nowMs : ℚ) (state : RunState) :
    Async (List CheckResult × RunState) :=
  collect (runSuite platform { verifiableCredential := call.credential }
    (credentialContext config lookupIssuers call nowMs) (credentialOptions config call))
    (call.additionalSuites.getD []) state

/-- The runs of a call that brings no suites. -/
theorem executes_withoutSuites_iff (hparsed : parseCredential call.credential = [])
    {trace : List PortEvent} {result : CredentialVerificationResult} :
    Executes (verifyCredentialWith platform config lookupIssuers call.withoutSuites) trace result ↔
      ∃ started topLevel nowMs events rows state finishing timing,
        trace = started ++ ⟨.dateNowMs, nowMs⟩ :: events ++ finishing ∧
        Executes (startIfTimed platform ((call.timing.or config.timing).getD false)) started
          topLevel ∧
        Executes (defaultRun platform config lookupIssuers call nowMs) events (rows, state) ∧
        Executes (finishIfStarted platform topLevel) finishing timing ∧
        result =
          { credentialResult call.credential rows (defaultSuites platform)
              (call.phases.or config.phases) with
            timing := timing } := by
  have hplain : call.withoutSuites.additionalSuites.getD [] = [] := rfl
  have hsame : parseCredential call.withoutSuites.credential = [] := hparsed
  rw [executes_verifyCredentialWith_iff hsame]
  simp only [hplain, List.append_nil, executes_runSuites_iff]
  constructor
  · rintro ⟨started, topLevel, nowMs, events, ran, finishing, timing, htrace, hstart,
      ⟨state, hran, _⟩, hfinish, hresult⟩
    exact ⟨started, topLevel, nowMs, events, ran.1, state, finishing, timing, htrace, hstart, hran,
      hfinish, hresult⟩
  · rintro ⟨started, topLevel, nowMs, events, rows, state, finishing, timing, htrace, hstart, hran,
      hfinish, hresult⟩
    exact ⟨started, topLevel, nowMs, events, (rows, state.store), finishing, timing, htrace, hstart,
      ⟨state, hran, rfl⟩, hfinish, hresult⟩

/-- The runs of a call, split where the suites it brings begin. -/
theorem executes_withSuites_iff (hparsed : parseCredential call.credential = [])
    {trace : List PortEvent} {result : CredentialVerificationResult} :
    Executes (verifyCredentialWith platform config lookupIssuers call) trace result ↔
      ∃ started topLevel nowMs events rows middle added rows' state finishing timing,
        trace = started ++ ⟨.dateNowMs, nowMs⟩ :: events ++ added ++ finishing ∧
        Executes (startIfTimed platform ((call.timing.or config.timing).getD false)) started
          topLevel ∧
        Executes (defaultRun platform config lookupIssuers call nowMs) events (rows, middle) ∧
        Executes (addedRun platform config lookupIssuers call nowMs middle) added (rows', state) ∧
        Executes (finishIfStarted platform topLevel) finishing timing ∧
        result =
          { credentialResult call.credential (rows ++ rows')
              (defaultSuites platform ++ call.additionalSuites.getD [])
              (call.phases.or config.phases) with
            timing := timing } := by
  have hphases : (credentialOptions config call).phases =
      (credentialOptions config call.withoutSuites).phases := rfl
  rw [executes_verifyCredentialWith_iff hparsed]
  simp only [executes_runSuites_append_iff applies_of_defaultSuites hphases]
  constructor
  · rintro ⟨started, topLevel, nowMs, _, ran, finishing, timing, rfl, hstart,
      ⟨events, added, rows, rows', middle, state, rfl, hrows, hran, hadded, _⟩, hfinish, rfl⟩
    refine ⟨started, topLevel, nowMs, events, rows, middle, added, rows', state, finishing, timing,
      by simp, hstart, hran, hadded, hfinish, by rw [hrows]⟩
  · rintro ⟨started, topLevel, nowMs, events, rows, middle, added, rows', state, finishing, timing,
      rfl, hstart, hran, hadded, hfinish, rfl⟩
    exact ⟨started, topLevel, nowMs, events ++ added, (rows ++ rows', state.store), finishing,
      timing, by simp, hstart, ⟨events, added, rows, rows', middle, state, rfl, rfl, hran, hadded,
      rfl⟩, hfinish, rfl⟩

/-- The default suites of a credential leave a recognition row in every request that names
the phase. -/
theorem exists_recognition_row {nowMs : ℚ} {events : List PortEvent} {rows : List CheckResult}
    {state : RunState} {credential : Json} (hcredential : call.credential = some credential)
    (hrun : Executes (defaultRun platform config lookupIssuers call nowMs) events (rows, state))
    (hphases : suiteRunsInPhases recognitionSuite
      (expandPhases (call.phases.or config.phases)) = true) :
    ∃ row ∈ rows, row.id = "recognition.profile" := by
  have hsuites : Executes (runSuites platform (defaultSuites platform)
      { verifiableCredential := call.credential } (credentialContext config lookupIssuers call nowMs)
      (credentialOptions config call.withoutSuites) {}) events (rows, state.store) :=
    executes_runSuites_iff.mpr ⟨state, hrun, rfl⟩
  have hsuite : recognitionSuite ∈ defaultSuites platform := by simp [defaultSuites]
  have hcheck : recognitionProfileCheck ∈ recognitionSuite.checks := by simp [recognitionSuite]
  have hadmitted : appliesToSubject recognitionProfileCheck
      { verifiableCredential := call.credential } = true := by
    simp [hcredential, appliesToSubject, checkAppliesTo, recognitionProfileCheck, subjectTypes]
  have hid : computeId recognitionSuite.phase recognitionSuite.id recognitionProfileCheck.id =
      "recognition.profile" := by decide
  rw [← hid]
  exact exists_row hsuites hsuite hphases rfl hcheck hadmitted

/-- Behind the parser, the rows of the two loops give a result and its extension. -/
theorem extendedBy_of_runs {nowMs : ℚ} {events added : List PortEvent}
    {rows rows' : List CheckResult} {middle state : RunState} {timing : Option TaskTiming}
    {credential : Json} (hcredential : call.credential = some credential)
    (hrun : Executes (defaultRun platform config lookupIssuers call nowMs) events (rows, middle))
    (hadded : Executes (addedRun platform config lookupIssuers call nowMs middle) added
      (rows', state)) :
    ExtendedBy platform (call.additionalSuites.getD [])
      { credentialResult call.credential rows (defaultSuites platform)
          (call.phases.or config.phases) with
        timing := timing }
      rows'
      { credentialResult call.credential (rows ++ rows')
          (defaultSuites platform ++ call.additionalSuites.getD [])
          (call.phases.or config.phases) with
        timing := timing } := by
  have hrecognition : (∃ row ∈ rows, row.id = "recognition.profile") ∨
      ∀ row ∈ rows', row.id ≠ "recognition.profile" := by
    cases hphases : suiteRunsInPhases recognitionSuite
        (expandPhases (call.phases.or config.phases)) with
    | true => exact .inl (exists_recognition_row hcredential hrun hphases)
    | false => exact .inr ((rowsInPhases_collect hadded).no_recognition hphases)
  rw [hcredential]
  exact extendedBy_append (rowsFrom_collect hrun) (rowsFrom_collect hadded) hrecognition

/-- The suites that a call brings were run over the credential, from where the default
suites of the plain run stopped; a credential that the parser rejects is shown to none. -/
inductive SuitesAdded (platform : Platform) (config : VerifierConfig)
    (lookupIssuers : LookupIssuers) (call : VerifyCredentialCall) (front : List PortEvent)
    (plain : CredentialVerificationResult) : List PortEvent → List CheckResult → Prop where
  | refused :
      parseCredential call.credential ≠ [] →
      SuitesAdded platform config lookupIssuers call front plain [] []
  | ran {started events added : List PortEvent} {nowMs : ℚ} {middle state : RunState}
      {rows : List CheckResult} :
      parseCredential call.credential = [] →
      front = started ++ ⟨.dateNowMs, nowMs⟩ :: events →
      Executes (defaultRun platform config lookupIssuers call nowMs) events
        (plain.results, middle) →
      Executes (addedRun platform config lookupIssuers call nowMs middle) added (rows, state) →
      SuitesAdded platform config lookupIssuers call front plain added rows

/-- An input that the parser rejects is not shown to any suite. -/
theorem verifyCredentialWith_withoutSuites {message : String} {messages : List String}
    (hparsed : parseCredential call.credential = message :: messages) :
    verifyCredentialWith platform config lookupIssuers call.withoutSuites =
      verifyCredentialWith platform config lookupIssuers call := by
  have hsame : parseCredential call.withoutSuites.credential = message :: messages := hparsed
  unfold verifyCredentialWith
  simp only [hparsed, hsame]
  rfl

/-- The rows of a plain result are those of the default suites. -/
theorem results_credentialResult (credential : Option Json) (rows : List CheckResult)
    (suites : List VerificationSuite) (phases : Option (List SuitePhase)) :
    (credentialResult credential rows suites phases).results = rows := by
  simp only [credentialResult, results_foldCheckResults]

/-- A run of a call is one of the call without its suites, continued by their loop from where
the default suites stopped; an input that the parser rejects is not continued. -/
theorem executes_split {trace : List PortEvent} {result : CredentialVerificationResult}
    (hrun : Executes (verifyCredentialWith platform config lookupIssuers call) trace result) :
    ∃ front added back plain rows, trace = front ++ added ++ back ∧
      Executes (verifyCredentialWith platform config lookupIssuers call.withoutSuites)
        (front ++ back) plain ∧
      ExtendedBy platform (call.additionalSuites.getD []) plain rows result ∧
      SuitesAdded platform config lookupIssuers call front plain added rows := by
  cases hparsed : parseCredential call.credential with
  | cons message messages =>
      rw [verifyCredentialWith_withoutSuites hparsed]
      refine ⟨[], [], trace, result, [], rfl, hrun, extendedBy_nil _ _ _, .refused ?_⟩
      rw [hparsed]
      exact List.cons_ne_nil _ _
  | nil =>
      rcases parseCredential_eq_nil_iff.mp hparsed with ⟨members, hcredential, _⟩
      rcases (executes_withSuites_iff hparsed).mp hrun with
        ⟨started, topLevel, nowMs, events, rows, middle, added, rows', state, finishing, timing,
          rfl, hstart, hran, hadded, hfinish, rfl⟩
      refine ⟨started ++ ⟨.dateNowMs, nowMs⟩ :: events, added, finishing, _, rows', rfl, ?_,
        extendedBy_of_runs hcredential hran hadded, .ran hparsed rfl ?_ hadded⟩
      · exact (executes_withoutSuites_iff hparsed).mpr ⟨started, topLevel, nowMs, events, rows,
          middle, finishing, timing, rfl, hstart, hran, hfinish, rfl⟩
      · dsimp only
        rw [results_credentialResult]
        exact hran

/-- A run of a call without suites can be continued by any suites. -/
theorem executes_extend {trace : List PortEvent} {plain : CredentialVerificationResult}
    (hrun : Executes (verifyCredentialWith platform config lookupIssuers call.withoutSuites) trace
      plain) :
    ∃ front added back result rows, trace = front ++ back ∧
      Executes (verifyCredentialWith platform config lookupIssuers call) (front ++ added ++ back)
        result ∧
      ExtendedBy platform (call.additionalSuites.getD []) plain rows result ∧
      SuitesAdded platform config lookupIssuers call front plain added rows := by
  cases hparsed : parseCredential call.credential with
  | cons message messages =>
      rw [verifyCredentialWith_withoutSuites hparsed] at hrun
      refine ⟨[], [], trace, plain, [], rfl, hrun, extendedBy_nil _ _ _, .refused ?_⟩
      rw [hparsed]
      exact List.cons_ne_nil _ _
  | nil =>
      rcases parseCredential_eq_nil_iff.mp hparsed with ⟨members, hcredential, _⟩
      rcases (executes_withoutSuites_iff hparsed).mp hrun with
        ⟨started, topLevel, nowMs, events, rows, middle, finishing, timing, rfl, hstart, hran,
          hfinish, rfl⟩
      -- Whatever answered the default suites can answer the others as well.
      rcases exists_executes (addedRun platform config lookupIssuers call nowMs middle) with
        ⟨added, ⟨rows', state⟩, hadded⟩
      refine ⟨started ++ ⟨.dateNowMs, nowMs⟩ :: events, added, finishing, _, rows', rfl, ?_,
        extendedBy_of_runs hcredential hran hadded, .ran hparsed rfl ?_ hadded⟩
      · exact (executes_withSuites_iff hparsed).mpr ⟨started, topLevel, nowMs, events, rows, middle,
          added, rows', state, finishing, timing, rfl, hstart, hran, hadded, hfinish, rfl⟩
      · dsimp only
        rw [results_credentialResult]
        exact hran

/-- The suites that a call brings are run over the credential, behind the others: without the
calls made for them, a run is one of the call without them, whose result it extends; and
every run of that call can be continued so. -/
theorem verifyCredential_additionalSuites (platform : Platform) (config : VerifierConfig)
    (depth : Nat) (call : VerifyCredentialCall) :
    (∀ trace result,
      Executes ((createVerifier platform config depth).verifyCredential call) trace result →
      ∃ front added back plain rows, trace = front ++ added ++ back ∧
        Executes ((createVerifier platform config depth).verifyCredential call.withoutSuites)
          (front ++ back) plain ∧
        ExtendedBy platform (call.additionalSuites.getD []) plain rows result ∧
        SuitesAdded platform config (lookupIssuersBelow platform config depth) call front plain
          added rows) ∧
    ∀ trace plain,
      Executes ((createVerifier platform config depth).verifyCredential call.withoutSuites) trace
        plain →
      ∃ front added back result rows, trace = front ++ back ∧
        Executes ((createVerifier platform config depth).verifyCredential call)
          (front ++ added ++ back) result ∧
        ExtendedBy platform (call.additionalSuites.getD []) plain rows result ∧
        SuitesAdded platform config (lookupIssuersBelow platform config depth) call front plain
          added rows := by
  rw [createVerifier_verifyCredential]
  exact ⟨fun _ _ hrun => executes_split hrun, fun _ _ hrun => executes_extend hrun⟩

end

/-! ### A badge and a strict suite -/

namespace StrictBadge

/-- A suite of the caller's that no credential passes. -/
def strictSuite : VerificationSuite where
  id := "strict"
  checks :=
    [{ id := "strict.never"
       fatal := some true
       execute := pureBody fun _ _ => .ok (.failure []) }]

/-- The badge, with the strict suite. -/
def call : VerifyCredentialCall where
  credential := some BadgePresentation.badge
  additionalSuites := some [strictSuite]

end StrictBadge

/-- The strict suite fails the badge, whose other rows are those it has without it. -/
theorem verifyCredential_additionalSuites_badge : ∃ front added back plain rows result,
    BadgePresentation.badgeTrace = front ++ added ++ back ∧ result.verified = false ∧
    Executes ((createVerifier BadgePresentation.platform BadgePresentation.config 0).verifyCredential
      StrictBadge.call.withoutSuites) (front ++ back) plain ∧
    ExtendedBy BadgePresentation.platform [StrictBadge.strictSuite] plain rows result ∧
    SuitesAdded BadgePresentation.platform BadgePresentation.config
      (lookupIssuersBelow BadgePresentation.platform BadgePresentation.config 0) StrictBadge.call
      front plain added rows := by
  have hreplay : (replay ((createVerifier BadgePresentation.platform BadgePresentation.config
      0).verifyCredential StrictBadge.call) BadgePresentation.badgeTrace).map
      CredentialVerificationResult.verified = some false := by decide +kernel
  obtain ⟨result, hresult, hverified⟩ := Option.map_eq_some_iff.mp hreplay
  obtain ⟨front, added, back, plain, rows, htrace, hplain, hextended, hadded⟩ :=
    (verifyCredential_additionalSuites BadgePresentation.platform BadgePresentation.config 0
      StrictBadge.call).1 _ _ (replay_eq_some_iff.mp hresult)
  exact ⟨front, added, back, plain, rows, result, htrace, hverified, hplain, hextended, hadded⟩

/-! ## Grouping the added checks -/

/-- Two results found the same, though under other names. -/
structure SameFindings (result other : CredentialVerificationResult) : Prop where
  verified : other.verified = result.verified
  results : other.results.map CheckResult.unnamed = result.results.map CheckResult.unnamed
  recognizedProfile : other.recognizedProfile = result.recognizedProfile
  normalized : other.normalizedVerifiableCredential = result.normalizedVerifiableCredential
  timing : other.timing = result.timing
  partialPhases : other.partialPhases = result.partialPhases
  verifiableCredential : other.verifiableCredential = result.verifiableCredential

/-- The call with these suites instead of its own. -/
def VerifyCredentialCall.bringing (call : VerifyCredentialCall)
    (suites : List VerificationSuite) : VerifyCredentialCall :=
  { call with additionalSuites := some suites }

/-- Both groups of suites apply to the credential, and they have the same checks. -/
structure Regrouped (credential : Option Json) (phases : Option (List SuitePhase))
    (suites others : List VerificationSuite) : Prop where
  applies : ∀ context, AllApply suites { verifiableCredential := credential } context
    (expandPhases phases)
  applies' : ∀ context, AllApply others { verifiableCredential := credential } context
    (expandPhases phases)
  checks : checksInPhases suites (expandPhases phases) =
    checksInPhases others (expandPhases phases)

/-- Regrouping goes both ways. -/
theorem Regrouped.symm {credential : Option Json} {phases : Option (List SuitePhase)}
    {suites others : List VerificationSuite} (h : Regrouped credential phases suites others) :
    Regrouped credential phases others suites :=
  ⟨h.applies', h.applies, h.checks.symm⟩

/-- Results that extend one result by the same rows under other names. -/
theorem sameFindings_of_extendedBy {platform : Platform} {suites others : List VerificationSuite}
    {plain result other : CredentialVerificationResult}
    {rows rows' : List CheckResult} (h : ExtendedBy platform suites plain rows result)
    (h' : ExtendedBy platform others plain rows' other)
    (hrows : rows.map CheckResult.unnamed = rows'.map CheckResult.unnamed) :
    SameFindings result other where
  verified := by rw [h.verified, h'.verified, hasFatalFailures_congr hrows]
  results := by rw [h.results, h'.results, List.map_append, List.map_append, hrows]
  recognizedProfile := h'.recognizedProfile.trans h.recognizedProfile.symm
  normalized := h'.normalized.trans h.normalized.symm
  timing := h'.timing.trans h.timing.symm
  partialPhases := h'.partialPhases.trans h.partialPhases.symm
  verifiableCredential := h'.verifiableCredential.trans h.verifiableCredential.symm

/-- A result has the findings it has. -/
theorem sameFindings_refl (result : CredentialVerificationResult) : SameFindings result result :=
  ⟨rfl, rfl, rfl, rfl, rfl, rfl, rfl⟩

section

variable {platform : Platform} {config : VerifierConfig} {lookupIssuers : LookupIssuers}
  {call : VerifyCredentialCall} {suites others : List VerificationSuite}

/-- The added suites of such calls run alike. -/
theorem unnamed_addedRun
    (h : Regrouped call.credential (call.phases.or config.phases) suites others) (nowMs : ℚ)
    (state : RunState) :
    unnamedRun <$> addedRun platform config lookupIssuers (call.bringing suites) nowMs state =
      unnamedRun <$> addedRun platform config lookupIssuers (call.bringing others) nowMs state := by
  unfold addedRun
  apply collect_runSuite_regroup
  · rfl
  · exact h.applies _
  · exact h.applies' _
  · exact h.checks

/-- A run with one grouping is a run with the other, with the same findings. -/
theorem executes_regroup
    (h : Regrouped call.credential (call.phases.or config.phases) suites others)
    {trace : List PortEvent} {result : CredentialVerificationResult}
    (hrun : Executes (verifyCredentialWith platform config lookupIssuers (call.bringing suites))
      trace result) :
    ∃ other, Executes (verifyCredentialWith platform config lookupIssuers (call.bringing others))
        trace other ∧
      SameFindings result other := by
  cases hparsed : parseCredential call.credential with
  | cons message messages =>
      have hsuites : parseCredential (call.bringing suites).credential = message :: messages :=
        hparsed
      have hothers : parseCredential (call.bringing others).credential = message :: messages :=
        hparsed
      rw [← verifyCredentialWith_withoutSuites hsuites] at hrun
      rw [← verifyCredentialWith_withoutSuites hothers]
      exact ⟨result, hrun, sameFindings_refl _⟩
  | nil =>
      have hsuites : parseCredential (call.bringing suites).credential = [] := hparsed
      have hothers : parseCredential (call.bringing others).credential = [] := hparsed
      rcases parseCredential_eq_nil_iff.mp hparsed with ⟨members, hmembers, _⟩
      have hmembersSuites : (call.bringing suites).credential = some (.obj members) := hmembers
      have hmembersOthers : (call.bringing others).credential = some (.obj members) := hmembers
      rcases (executes_withSuites_iff hsuites).mp hrun with
        ⟨started, topLevel, nowMs, events, rows, middle, added, rows', state, finishing, timing,
          rfl, hstart, hran, hadded, hfinish, rfl⟩
      -- The other suites make the same calls, and find the same under their own names.
      have hview : Executes (unnamedRun <$> addedRun platform config lookupIssuers
          (call.bringing suites) nowMs middle) added (unnamedRun (rows', state)) :=
        executes_map_iff.mpr ⟨_, hadded, rfl⟩
      rw [unnamed_addedRun h] at hview
      rcases executes_map_iff.mp hview with ⟨⟨found, state'⟩, hfound, heq⟩
      rw [unnamedRun, unnamedRun, Prod.mk.injEq] at heq
      have hran' : Executes (defaultRun platform config lookupIssuers (call.bringing others) nowMs)
          events (rows, middle) := hran
      have hextended := @extendedBy_of_runs platform config lookupIssuers _ nowMs events added rows
        rows' middle state timing _ hmembersSuites hran hadded
      have hextended' := @extendedBy_of_runs platform config lookupIssuers _ nowMs events added rows
        found middle state' timing _ hmembersOthers hran' hfound
      exact ⟨_, (executes_withSuites_iff hothers).mpr ⟨started, topLevel, nowMs, events, rows,
        middle, added, found, state', finishing, timing, rfl, hstart, hran', hfound, hfinish, rfl⟩,
        sameFindings_of_extendedBy hextended hextended' heq.1⟩

/-- Two groups of added suites that apply and have the same checks verify a credential
alike: with the same calls, the same outcomes in the same order and the same verdict. -/
theorem verifyCredential_regroup {depth : Nat}
    (h : Regrouped call.credential (call.phases.or config.phases) suites others) :
    (∀ trace result,
      Executes ((createVerifier platform config depth).verifyCredential (call.bringing suites))
        trace result →
      ∃ other,
        Executes ((createVerifier platform config depth).verifyCredential (call.bringing others))
          trace other ∧
        SameFindings result other) ∧
    ∀ trace other,
      Executes ((createVerifier platform config depth).verifyCredential (call.bringing others))
        trace other →
      ∃ result,
        Executes ((createVerifier platform config depth).verifyCredential (call.bringing suites))
          trace result ∧
        SameFindings other result := by
  rw [createVerifier_verifyCredential]
  exact ⟨fun _ _ hrun => executes_regroup h hrun, fun _ _ hrun => executes_regroup h.symm hrun⟩

end

/-! ### Two checks -/

namespace NotedPair

/-- A check that only reports. -/
def note (id : String) : VerificationCheck where
  id := id
  execute := pureBody fun _ _ => .ok (.success "Noted.")

/-- Both checks in one suite. -/
def pair : VerificationSuite where
  id := "pair"
  checks := [note "pair.first", note "pair.second"]

/-- The first check by itself. -/
def first : VerificationSuite where
  id := "first"
  checks := [note "pair.first"]

/-- The second check by itself. -/
def second : VerificationSuite where
  id := "second"
  checks := [note "pair.second"]

end NotedPair

/-- The badge is verified with two suites as with one. -/
theorem verifyCredential_regroup_badge : ∃ other,
    Executes ((createVerifier BadgePresentation.platform BadgePresentation.config 0).verifyCredential
      (StrictBadge.call.bringing [NotedPair.first, NotedPair.second])) BadgePresentation.badgeTrace
      other ∧ other.verified = true := by
  have hregrouped : Regrouped StrictBadge.call.credential none [NotedPair.pair]
      [NotedPair.first, NotedPair.second] := by
    refine ⟨?_, ?_, rfl⟩
    · intro context suite hsuite
      rw [List.mem_singleton.mp hsuite]
      rfl
    · intro context suite hsuite
      rcases List.mem_cons.mp hsuite with rfl | hsecond
      · rfl
      · rw [List.mem_singleton.mp hsecond]
        rfl
  have hreplay : (replay ((createVerifier BadgePresentation.platform BadgePresentation.config
      0).verifyCredential (StrictBadge.call.bringing [NotedPair.pair]))
      BadgePresentation.badgeTrace).map CredentialVerificationResult.verified = some true := by
    decide +kernel
  obtain ⟨result, hresult, hverified⟩ := Option.map_eq_some_iff.mp hreplay
  obtain ⟨other, hother, hsame⟩ := (verifyCredential_regroup (by exact hregrouped)).1 _ _
    (replay_eq_some_iff.mp hresult)
  exact ⟨other, hother, hsame.verified.trans hverified⟩

end VerifierCore
