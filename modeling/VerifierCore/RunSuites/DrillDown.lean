import VerifierCore.RunSuites.Report

/-!
# From a summary to its rows

A consumer is told to find the rows of a summary by their ids: those that start with
the summary's id and a dot.  Ids are joined from a phase, a suite and a check, and
the summaries are grouped by the suite alone, so that the recipe works only as long
as the names keep apart.

Main results:

- Theorem {lit}`SuiteReported.checkIds_eq`: the check ids a suite leaves rows under.
- Theorem {lit}`runSuites_drillsDown_iff`: the runs whose summaries can be drilled
  into.
-/

namespace VerifierCore

open Foundations Program

/-! ## Ids below a phase -/

/-- The name of a check within its suite: its id without the suite's. -/
def localPart (suite localCheckId : String) : String :=
  if startsWith localCheckId (suite ++ ".") then sliceAfter localCheckId (suite ++ ".")
  else localCheckId

/-- The phase a suite's rows are filed under. -/
def VerificationSuite.phaseName (suite : VerificationSuite) : String :=
  (SuiteSummaryPhase.of suite.phase).name

/-- The suite's own segment is dropped: it is empty, or the phase already says it. -/
def VerificationSuite.Collapses (suite : VerificationSuite) : Prop :=
  suite.id = "" ∨ suite.id = suite.phaseName

instance (suite : VerificationSuite) : Decidable suite.Collapses :=
  inferInstanceAs (Decidable (_ ∨ _))

/-- The name of a check below its phase. -/
def VerificationSuite.nameBelowPhase (suite : VerificationSuite) (checkId : String) : String :=
  if suite.Collapses then localPart suite.id checkId
  else suite.id ++ "." ++ localPart suite.id checkId

/-- What the names of a suite's own checks start with below the phase. -/
def VerificationSuite.stemBelowPhase (suite : VerificationSuite) : String :=
  if suite.Collapses then "" else suite.id ++ "."

/-- The id of a named check: its phase and its name below it. -/
theorem computeId_of_named {suite : VerificationSuite} {checkId : String}
    (h : localPart suite.id checkId ≠ "") :
    computeId suite.phase suite.id checkId =
      suite.phaseName ++ "." ++ suite.nameBelowPhase checkId := by
  have hphase := phaseName_ne_empty (.of suite.phase)
  unfold localPart at h
  unfold computeId VerificationSuite.nameBelowPhase VerificationSuite.Collapses
    VerificationSuite.phaseName localPart
  by_cases hsame : (SuiteSummaryPhase.of suite.phase).name = suite.id
  · simp [hsame, h, join, hsame ▸ hphase]
  · by_cases hempty : suite.id = ""
    · simp [hempty, hphase] at h ⊢
      simp [h, join]
    · simp [hsame, hempty, h, hphase, join, Ne.symm hsame, String.append_assoc]

/-- The id of a summary, or of a check without a name. -/
theorem computeId_of_unnamed {suite : VerificationSuite} {checkId : String}
    (h : localPart suite.id checkId = "") :
    computeId suite.phase suite.id checkId ++ "." =
      suite.phaseName ++ "." ++ suite.stemBelowPhase := by
  have hphase := phaseName_ne_empty (.of suite.phase)
  unfold localPart at h
  unfold computeId VerificationSuite.stemBelowPhase VerificationSuite.Collapses
    VerificationSuite.phaseName
  by_cases hsame : (SuiteSummaryPhase.of suite.phase).name = suite.id
  · simp [hsame, h, join, hsame ▸ hphase]
  · by_cases hempty : suite.id = ""
    · simp [hempty, hphase] at h ⊢
      simp [h, join]
    · simp [hsame, hempty, h, hphase, join, Ne.symm hsame, String.append_assoc]

/-- Segments without a dot are read off the front of a dotted text. -/
theorem prefix_dotted_iff {u u' a b : List Char} (hu : '.' ∉ u) (hu' : '.' ∉ u') :
    (u' ++ '.' :: b) <+: (u ++ '.' :: a) ↔ u' = u ∧ b <+: a := by
  induction u generalizing u' with
  | nil =>
      cases u' with
      | nil => simp
      | cons c u' =>
          have hc : c ≠ '.' := fun h => hu' (by simp [h])
          simp [hc]
  | cons d u ih =>
      cases u' with
      | nil =>
          have hd : '.' ≠ d := fun h => hu (h ▸ List.mem_cons_self)
          simp [hd]
      | cons c u' =>
          rw [List.mem_cons, not_or] at hu hu'
          rw [List.cons_append, List.cons_append, List.cons_prefix_cons, ih hu.2 hu'.2,
            List.cons.injEq, and_assoc]

theorem startsWith_iff {text start : String} :
    startsWith text start = true ↔ start.toList <+: text.toList := by
  rw [startsWith, List.isPrefixOf_iff_prefix]

/-- An id starts with the stem of a suite of another phase never, and with that of a
suite of its own phase where the name below the phase does. -/
theorem startsWith_below_phase_iff {suite other : VerificationSuite} {name stem : String} :
    startsWith (suite.phaseName ++ "." ++ name) (other.phaseName ++ "." ++ stem) = true ↔
      other.phase = suite.phase ∧ startsWith name stem = true := by
  have hlist (front rest : String) :
      (front ++ "." ++ rest).toList = front.toList ++ '.' :: rest.toList := by
    simp [String.toList_append]
  have hdot (suite : VerificationSuite) : '.' ∉ suite.phaseName.toList := dot_not_mem_phaseName _
  rw [startsWith_iff, hlist, hlist, prefix_dotted_iff (hdot suite) (hdot other),
    String.toList_inj, startsWith_iff]
  have hphase : other.phaseName = suite.phaseName ↔ other.phase = suite.phase := by
    constructor
    · intro h
      exact summaryPhase_of_injective (phaseName_injective h)
    · intro h
      rw [VerificationSuite.phaseName, VerificationSuite.phaseName, h]
  rw [hphase]

/-- What a check of a suite has left when the suite's id is taken off. -/
theorem localPart_eq_empty_iff {suite checkId : String} :
    localPart suite checkId = "" ↔ checkId = "" ∨ checkId = suite ++ "." := by
  unfold localPart
  split
  · rename_i hstarts
    rw [startsWith_iff] at hstarts
    obtain ⟨rest, hrest⟩ := hstarts
    have hslice : sliceAfter checkId (suite ++ ".") = String.ofList rest := by
      rw [sliceAfter, ← hrest, List.drop_left]
    rw [hslice]
    constructor
    · intro hempty
      have hnil : rest = [] := by simpa using hempty
      right
      rw [← String.toList_inj, ← hrest, hnil, List.append_nil]
    · rintro (rfl | rfl)
      · have hlength := congrArg List.length hrest
        simp at hlength
      · have hnil : rest = [] := by simpa using hrest
        simp [hnil]
  · rename_i hnot
    constructor
    · exact .inl
    · rintro (h | rfl)
      · exact h
      · exact absurd (startsWith_iff.mpr (List.prefix_refl _)) hnot

/-! ## The check ids a suite leaves rows under -/

/-- The ids of the rows a suite leaves, from the suite and whether a check in front of
it has halted the subject. -/
def reportedCheckIds (subject : VerificationSubject) (context : VerificationContext)
    (options : RunSuitesOptions) (halted : Bool) (suite : VerificationSuite) : List String :=
  let admitted :=
    (suite.checks.filter fun check => appliesToSubject check subject).map VerificationCheck.id
  if !suiteRunsInPhases suite options.phases then []
  else
    match evaluateApplies suite subject context with
    | .ok true => admitted
    | .ok false => if suite.id ∈ options.explicitSuiteIds then [appliesCheckId suite] else []
    | .error _ => if halted then admitted else [appliesCheckId suite]

theorem CheckReported.checkIds_eq {suite : VerificationSuite} {subject : VerificationSubject}
    {context : VerificationContext} {haltedBy : Option String} {check : VerificationCheck}
    {entries : List ReportEntry}
    (h : CheckReported suite subject context haltedBy check entries) :
    entries.map ReportEntry.checkId =
      ([check].filter fun check => appliesToSubject check subject).map VerificationCheck.id := by
  cases h with
  | notAdmitted hnot => simp [hnot]
  | notRun hadmitted _ hrowOf => simp [hadmitted, hrowOf.1]
  | ran hadmitted _ hrowOf => simp [hadmitted, hrowOf.1]

/-- Each suite leaves rows under these ids, in this order. -/
theorem SuiteReported.checkIds_eq {subject : VerificationSubject}
    {context : VerificationContext} {options : RunSuitesOptions} {haltedBy : Option String}
    {suite : VerificationSuite} {entries : List ReportEntry}
    (h : SuiteReported subject context options haltedBy suite entries) :
    entries.map ReportEntry.checkId =
      reportedCheckIds subject context options haltedBy.isSome suite := by
  unfold reportedCheckIds
  cases h with
  | outsidePhases hphases => simp [hphases]
  | appliesThrew hphases hthrew hhalted hrowOf => simp [hphases, hthrew, hhalted, hrowOf.1]
  | declined hphases hdeclined hexplicit => simp [hphases, hdeclined, hexplicit]
  | declinedExplicit hphases hdeclined hexplicit hrowOf =>
      simp [hphases, hdeclined, hexplicit, hrowOf.1]
  | @ran parts hphases hran hitems hparts =>
      have hids : (parts.flatMap Prod.snd).map ReportEntry.checkId =
          (suite.checks.filter fun check => appliesToSubject check subject).map
            VerificationCheck.id := by
        rw [← hitems]
        clear hitems
        have hpart : ∀ part ∈ parts, part.2.map ReportEntry.checkId =
            ([part.1].filter fun check => appliesToSubject check subject).map
              VerificationCheck.id := by
          intro part hpart
          rcases List.append_of_mem hpart with ⟨before, after, hsplit⟩
          exact (hparts before part after hsplit).checkIds_eq
        clear hparts
        induction parts with
        | nil => rfl
        | cons part parts ih =>
            rw [List.flatMap_cons, List.map_append, hpart part List.mem_cons_self,
              ih fun other hmem => hpart other (List.mem_cons_of_mem _ hmem), ← List.map_append,
              ← List.filter_append]
            rfl
      rw [hids]
      rcases hran with htrue | ⟨herror, hhalted⟩
      · simp [hphases, htrue]
      · obtain ⟨halter, hhalter⟩ := Option.ne_none_iff_exists'.mp hhalted
        cases happlies : evaluateApplies suite subject context with
        | ok answer =>
            rw [happlies] at herror
            cases herror
        | error error => simp [hphases, hhalter]

/-! ## Drilling down -/

/-- The suites that left rows, each with the check ids it left them under. -/
def leftRows (report : List (VerificationSuite × List ReportEntry)) :
    List (VerificationSuite × String) :=
  report.flatMap fun part => part.2.map fun entry => (part.1, entry.checkId)

/-- The same, from the suites and the place of the first that a halt comes before. -/
def leftNames (subject : VerificationSubject) (context : VerificationContext)
    (options : RunSuitesOptions) (haltedFrom : Nat) (suites : List VerificationSuite) :
    List (VerificationSuite × String) :=
  suites.zipIdx.flatMap fun (suite, position) =>
    (reportedCheckIds subject context options (decide (haltedFrom ≤ position)) suite).map
      fun checkId => (suite, checkId)

/-- From some suite on, all come after a halt. -/
theorem exists_haltedFrom (report : List (VerificationSuite × List ReportEntry)) :
    ∃ haltedFrom : Nat, ∀ before part after, report = before ++ part :: after →
      ((firstHalt (before.flatMap Prod.snd)).isSome = true ↔ haltedFrom ≤ before.length) := by
  by_cases h : ∃ position, (firstHalt ((report.take position).flatMap Prod.snd)).isSome = true
  · refine ⟨Nat.find h, ?_⟩
    rintro before part after rfl
    have htake : (before ++ part :: after).take before.length = before := List.take_left
    constructor
    · intro hhalted
      exact Nat.find_min' h (by rw [htake]; exact hhalted)
    · intro hle
      have hfirst := Nat.find_spec h
      rw [List.take_append_of_le_length hle] at hfirst
      rw [← List.take_append_drop (Nat.find h) before, List.flatMap_append, firstHalt_append,
        Option.isSome_or, hfirst, Bool.true_or]
  · rw [not_exists] at h
    refine ⟨report.length, ?_⟩
    rintro before part after rfl
    have hnot := h before.length
    rw [List.take_left] at hnot
    constructor
    · intro hhalted
      exact absurd hhalted hnot
    · intro hle
      simp only [List.length_append, List.length_cons] at hle
      omega

/-- The recipe for a consumer: there is one summary for each phase and suite that left
rows, and the rows whose ids start with its id and a dot are the rows it counts. -/
structure DrillsDown (report : List (VerificationSuite × List ReportEntry))
    (rows : List CheckResult) (summaries : List SuiteSummary) : Prop where
  nodup : (summaries.map fun summary => (summary.phase, summary.suite)).Nodup
  pairs : ∀ pair, pair ∈ summaries.map (fun summary => (summary.phase, summary.suite)) ↔
    ∃ part ∈ report, part.2 ≠ [] ∧ pair = (.of part.1.phase, part.1.id)
  children : ∀ summary ∈ summaries, ∀ row ∈ rows,
    startsWith row.id (summary.id ++ ".") = true ↔ row ∈ rowsOf summary.suite rows

/-- The names of the suites that left rows keep apart. -/
structure NamesApart (suites : List VerificationSuite)
    (left : List (VerificationSuite × String)) : Prop where
  /-- Each has the phase of the last suite with its id. -/
  onePhase : ∀ named ∈ left, named.1.phase = derivePhase (indexSuitesById suites named.1.id)
  /-- No check id is empty, or nothing but its suite's id and a dot. -/
  checksNamed : ∀ named ∈ left, named.2 ≠ "" ∧ named.2 ≠ named.1.id ++ "."
  /-- With another suite of its phase beside it, a suite has a segment of its own, and
  no name of the other's checks starts with it. -/
  apart : ∀ named ∈ left, ∀ other ∈ left, other.1.phase = named.1.phase →
    other.1.id ≠ named.1.id → ¬other.1.Collapses ∧
      startsWith (named.1.nameBelowPhase named.2) (other.1.id ++ ".") = false

/-- Every row is one of a suite, under the id the suite and the check give it. -/
theorem SuiteReported.row_eq {subject : VerificationSubject} {context : VerificationContext}
    {options : RunSuitesOptions} {haltedBy : Option String} {suite : VerificationSuite}
    {entries : List ReportEntry}
    (h : SuiteReported subject context options haltedBy suite entries) :
    ∀ entry ∈ entries, entry.row.suite = suite.id ∧
      entry.row.id = computeId suite.phase suite.id entry.checkId := by
  intro entry hentry
  rcases h.isRowOf entry hentry with ⟨_, _, hrowOf⟩
  exact ⟨hrowOf.2.2.1, hrowOf.2.1⟩

/-- The rows are those of the suites that left them. -/
theorem Reported.exists_row_iff {suites : List VerificationSuite}
    {subject : VerificationSubject} {context : VerificationContext} {options : RunSuitesOptions}
    {report : List (VerificationSuite × List ReportEntry)}
    (h : Reported suites subject context options report) (P : String → String → Prop) :
    (∃ row ∈ (report.flatMap Prod.snd).map ReportEntry.row, P row.suite row.id) ↔
      ∃ named ∈ leftRows report,
        P named.1.id (computeId named.1.phase named.1.id named.2) := by
  have hrow {part : VerificationSuite × List ReportEntry} (hpart : part ∈ report)
      {entry : ReportEntry} (hentry : entry ∈ part.2) :
      entry.row.suite = part.1.id ∧
        entry.row.id = computeId part.1.phase part.1.id entry.checkId := by
    rcases List.append_of_mem hpart with ⟨before, after, hsplit⟩
    exact (h.2 before part after hsplit).row_eq entry hentry
  constructor
  · rintro ⟨row, hmem, hP⟩
    rcases List.mem_map.mp hmem with ⟨entry, hentry, rfl⟩
    rcases List.mem_flatMap.mp hentry with ⟨part, hpart, hpartEntry⟩
    rw [(hrow hpart hpartEntry).1, (hrow hpart hpartEntry).2] at hP
    exact ⟨(part.1, entry.checkId), List.mem_flatMap.mpr ⟨part, hpart,
      List.mem_map.mpr ⟨entry, hpartEntry, rfl⟩⟩, hP⟩
  · rintro ⟨named, hmem, hP⟩
    rcases List.mem_flatMap.mp hmem with ⟨part, hpart, hnamed⟩
    rcases List.mem_map.mp hnamed with ⟨entry, hentry, rfl⟩
    refine ⟨entry.row, List.mem_map.mpr ⟨entry, List.mem_flatMap.mpr ⟨part, hpart, hentry⟩, rfl⟩,
      ?_⟩
    rw [(hrow hpart hentry).1, (hrow hpart hentry).2]
    exact hP

theorem Reported.forall_row_iff {suites : List VerificationSuite}
    {subject : VerificationSubject} {context : VerificationContext} {options : RunSuitesOptions}
    {report : List (VerificationSuite × List ReportEntry)}
    (h : Reported suites subject context options report) (P : String → String → Prop) :
    (∀ row ∈ (report.flatMap Prod.snd).map ReportEntry.row, P row.suite row.id) ↔
      ∀ named ∈ leftRows report,
        P named.1.id (computeId named.1.phase named.1.id named.2) := by
  have hexists := not_congr (h.exists_row_iff fun suite id => ¬P suite id)
  push Not at hexists
  exact hexists

/-- The suites with rows, as parts of the report and by their rows. -/
theorem exists_leftRows_iff {report : List (VerificationSuite × List ReportEntry)}
    (P : VerificationSuite → Prop) :
    (∃ part ∈ report, part.2 ≠ [] ∧ P part.1) ↔ ∃ named ∈ leftRows report, P named.1 := by
  constructor
  · rintro ⟨part, hpart, hrows, hP⟩
    obtain ⟨entry, hentry⟩ := List.exists_mem_of_ne_nil _ hrows
    exact ⟨(part.1, entry.checkId), List.mem_flatMap.mpr ⟨part, hpart,
      List.mem_map.mpr ⟨entry, hentry, rfl⟩⟩, hP⟩
  · rintro ⟨named, hmem, hP⟩
    rcases List.mem_flatMap.mp hmem with ⟨part, hpart, hnamed⟩
    rcases List.mem_map.mp hnamed with ⟨entry, hentry, rfl⟩
    exact ⟨part, hpart, List.ne_nil_of_mem hentry, hP⟩

/-- The summaries are those of the suites that left rows. -/
theorem Reported.mem_summaries_iff {suites : List VerificationSuite}
    {subject : VerificationSubject} {context : VerificationContext} {options : RunSuitesOptions}
    {report : List (VerificationSuite × List ReportEntry)}
    (h : Reported suites subject context options report) {summary : SuiteSummary} :
    summary ∈ (foldCheckResults ((report.flatMap Prod.snd).map ReportEntry.row) suites).summaries ↔
      ∃ named ∈ leftRows report,
        summary = summaryOf ((report.flatMap Prod.snd).map ReportEntry.row) suites named.1.id := by
  rw [VerifierCore.mem_summaries_iff]
  exact h.exists_row_iff fun suite _ => summary = summaryOf _ suites suite

/-- There is one summary for each phase and suite exactly when the suites of one id
that left rows have the phase that the id is looked up to have. -/
theorem Reported.pairs_iff {suites : List VerificationSuite}
    {subject : VerificationSubject} {context : VerificationContext} {options : RunSuitesOptions}
    {report : List (VerificationSuite × List ReportEntry)}
    (h : Reported suites subject context options report) :
    (∀ pair, pair ∈ (foldCheckResults ((report.flatMap Prod.snd).map ReportEntry.row)
          suites).summaries.map (fun summary => (summary.phase, summary.suite)) ↔
        ∃ part ∈ report, part.2 ≠ [] ∧ pair = (.of part.1.phase, part.1.id)) ↔
      ∀ named ∈ leftRows report,
        named.1.phase = derivePhase (indexSuitesById suites named.1.id) := by
  have hsummary (pair : SuiteSummaryPhase × String) :
      pair ∈ (foldCheckResults ((report.flatMap Prod.snd).map ReportEntry.row)
          suites).summaries.map (fun summary => (summary.phase, summary.suite)) ↔
        ∃ named ∈ leftRows report,
          pair = (.of (derivePhase (indexSuitesById suites named.1.id)), named.1.id) := by
    rw [List.mem_map]
    constructor
    · rintro ⟨summary, hmem, rfl⟩
      obtain ⟨named, hnamed, rfl⟩ := h.mem_summaries_iff.mp hmem
      exact ⟨named, hnamed, rfl⟩
    · rintro ⟨named, hnamed, rfl⟩
      exact ⟨_, h.mem_summaries_iff.mpr ⟨named, hnamed, rfl⟩, rfl⟩
  have hpart (pair : SuiteSummaryPhase × String) :
      (∃ part ∈ report, part.2 ≠ [] ∧ pair = (.of part.1.phase, part.1.id)) ↔
        ∃ named ∈ leftRows report, pair = (.of named.1.phase, named.1.id) :=
    exists_leftRows_iff fun suite => pair = (.of suite.phase, suite.id)
  simp only [hsummary, hpart]
  constructor
  · intro hpairs named hnamed
    obtain ⟨other, _, hother⟩ := (hpairs (.of named.1.phase, named.1.id)).mpr ⟨named, hnamed, rfl⟩
    obtain ⟨hphase, hid⟩ := Prod.mk.inj hother
    rw [hid]
    exact summaryPhase_of_injective hphase
  · intro hphase pair
    constructor
    · rintro ⟨named, hnamed, rfl⟩
      exact ⟨named, hnamed, by rw [hphase named hnamed]⟩
    · rintro ⟨named, hnamed, rfl⟩
      exact ⟨named, hnamed, by rw [hphase named hnamed]⟩

/-- No two summaries are of one phase and suite. -/
theorem nodup_summaries (rows : List CheckResult) (suites : List VerificationSuite) :
    ((foldCheckResults rows suites).summaries.map fun summary =>
      (summary.phase, summary.suite)).Nodup := by
  rw [summaries_eq, List.map_map]
  apply (nodup_eraseDups _).map_on
  intro suite _ suite' _ heq
  exact (Prod.mk.inj heq).2

/-- The id of a named check starts with a summary's where the suite is of its phase
and the name starts with the suite's stem. -/
theorem startsWith_summary_iff {suite other : VerificationSuite} {checkId : String}
    (hnamed : localPart suite.id checkId ≠ "") :
    startsWith (computeId suite.phase suite.id checkId)
        (computeId other.phase other.id "" ++ ".") = true ↔
      other.phase = suite.phase ∧
        startsWith (suite.nameBelowPhase checkId) other.stemBelowPhase = true := by
  rw [computeId_of_named hnamed, computeId_of_unnamed (localPart_eq_empty_iff.mpr (.inl rfl)),
    startsWith_below_phase_iff]

/-- The id of a check without a name does not even start with its own summary's. -/
theorem not_startsWith_own_summary {suite : VerificationSuite} {checkId : String}
    (hunnamed : localPart suite.id checkId = "") :
    startsWith (computeId suite.phase suite.id checkId)
      (computeId suite.phase suite.id "" ++ ".") = false := by
  have hsame : computeId suite.phase suite.id checkId ++ "." =
      computeId suite.phase suite.id "" ++ "." := by
    rw [computeId_of_unnamed hunnamed, computeId_of_unnamed (localPart_eq_empty_iff.mpr (.inl rfl))]
  rw [← hsame, Bool.eq_false_iff]
  intro hstarts
  have hlength := (startsWith_iff.mp hstarts).length_le
  simp at hlength

/-- A name of a suite's own check starts with the suite's stem. -/
theorem startsWith_own_stem (suite : VerificationSuite) (checkId : String) :
    startsWith (suite.nameBelowPhase checkId) suite.stemBelowPhase = true := by
  rw [startsWith_iff]
  unfold VerificationSuite.nameBelowPhase VerificationSuite.stemBelowPhase
  split
  · simp
  · rw [String.toList_append (s := suite.id ++ ".")]
    exact List.prefix_append _ _

/-- Where the suites that left rows are looked up under their own phase, the recipe
finds the rows of each summary exactly when the names keep apart. -/
theorem children_iff {left : List (VerificationSuite × String)}
    (honePhase : ∀ named ∈ left, ∀ other ∈ left, other.1.id = named.1.id →
      other.1.phase = named.1.phase) :
    (∀ other ∈ left, ∀ named ∈ left,
      (startsWith (computeId named.1.phase named.1.id named.2)
          (computeId other.1.phase other.1.id "" ++ ".") = true ↔ named.1.id = other.1.id)) ↔
      (∀ named ∈ left, named.2 ≠ "" ∧ named.2 ≠ named.1.id ++ ".") ∧
        ∀ named ∈ left, ∀ other ∈ left, other.1.phase = named.1.phase →
          other.1.id ≠ named.1.id → ¬other.1.Collapses ∧
            startsWith (named.1.nameBelowPhase named.2) (other.1.id ++ ".") = false := by
  have hlocal (named : VerificationSuite × String) :
      (named.2 ≠ "" ∧ named.2 ≠ named.1.id ++ ".") ↔ localPart named.1.id named.2 ≠ "" := by
    rw [ne_eq (localPart _ _), localPart_eq_empty_iff, not_or]
  simp only [hlocal]
  constructor
  · intro hchildren
    have hnamed : ∀ named ∈ left, localPart named.1.id named.2 ≠ "" := by
      intro named hmem hunnamed
      have hown := (hchildren named hmem named hmem).mpr rfl
      rw [not_startsWith_own_summary hunnamed] at hown
      cases hown
    refine ⟨hnamed, ?_⟩
    intro named hmem other hother hphase hid
    have hapart : startsWith (named.1.nameBelowPhase named.2) other.1.stemBelowPhase = false := by
      rw [Bool.eq_false_iff]
      intro hstem
      have hstarts := (startsWith_summary_iff (hnamed named hmem)).mpr ⟨hphase, hstem⟩
      exact hid ((hchildren other hother named hmem).mp hstarts).symm
    unfold VerificationSuite.stemBelowPhase at hapart
    split at hapart
    · simp [startsWith] at hapart
    · rename_i hcollapses
      exact ⟨hcollapses, hapart⟩
  · rintro ⟨hnamed, hapart⟩ other hother named hmem
    rw [startsWith_summary_iff (hnamed named hmem)]
    constructor
    · rintro ⟨hphase, hstem⟩
      by_contra hid
      obtain ⟨hcollapses, hnot⟩ := hapart named hmem other hother hphase (Ne.symm hid)
      rw [VerificationSuite.stemBelowPhase, if_neg hcollapses, hnot] at hstem
      cases hstem
    · intro hid
      have hphase := honePhase named hmem other hother hid.symm
      refine ⟨hphase, ?_⟩
      have hcollapses : other.1.Collapses ↔ named.1.Collapses := by
        unfold VerificationSuite.Collapses VerificationSuite.phaseName
        rw [hid, hphase]
      have hstem : other.1.stemBelowPhase = named.1.stemBelowPhase := by
        unfold VerificationSuite.stemBelowPhase
        simp only [hcollapses, hid]
      rw [hstem]
      exact startsWith_own_stem named.1 named.2

/-- The recipe works for a report exactly when the names of the suites that left rows
keep apart. -/
theorem Reported.drillsDown_iff {suites : List VerificationSuite}
    {subject : VerificationSubject} {context : VerificationContext} {options : RunSuitesOptions}
    {report : List (VerificationSuite × List ReportEntry)}
    (h : Reported suites subject context options report) :
    DrillsDown report ((report.flatMap Prod.snd).map ReportEntry.row)
        (foldCheckResults ((report.flatMap Prod.snd).map ReportEntry.row) suites).summaries ↔
      NamesApart suites (leftRows report) := by
  have hchildren : (∀ summary ∈ (foldCheckResults
        ((report.flatMap Prod.snd).map ReportEntry.row) suites).summaries,
      ∀ row ∈ (report.flatMap Prod.snd).map ReportEntry.row,
        startsWith row.id (summary.id ++ ".") = true ↔
          row ∈ rowsOf summary.suite ((report.flatMap Prod.snd).map ReportEntry.row)) ↔
      ∀ other ∈ leftRows report, ∀ named ∈ leftRows report,
        (startsWith (computeId named.1.phase named.1.id named.2)
            (computeId (derivePhase (indexSuitesById suites other.1.id)) other.1.id "" ++ ".") =
              true ↔ named.1.id = other.1.id) := by
    have hrows (other : VerificationSuite × String) :=
      h.forall_row_iff fun suite id =>
        (startsWith id
            (computeId (derivePhase (indexSuitesById suites other.1.id)) other.1.id "" ++ ".") =
              true ↔ suite = other.1.id)
    constructor
    · intro hall other hother
      rw [← hrows]
      intro row hrow
      have hrow' := hall _ (h.mem_summaries_iff.mpr ⟨other, hother, rfl⟩) row hrow
      rw [rowsOf, List.mem_filter, decide_eq_true_eq] at hrow'
      exact hrow'.trans ⟨fun hsuite => hsuite.2, fun hsuite => ⟨hrow, hsuite⟩⟩
    · intro hall summary hsummary row hrow
      obtain ⟨other, hother, rfl⟩ := h.mem_summaries_iff.mp hsummary
      have hrow' := (hrows other).mpr (hall other hother) row hrow
      rw [rowsOf, List.mem_filter, decide_eq_true_eq]
      exact hrow'.trans ⟨fun hsuite => ⟨hrow, hsuite⟩, fun hsuite => hsuite.2⟩
  have hsame (honePhase : ∀ named ∈ leftRows report,
      named.1.phase = derivePhase (indexSuitesById suites named.1.id)) :
      ∀ named ∈ leftRows report, ∀ other ∈ leftRows report, other.1.id = named.1.id →
        other.1.phase = named.1.phase := by
    intro named hmem other hother hid
    rw [honePhase named hmem, honePhase other hother, hid]
  constructor
  · rintro ⟨_, hpairs, hrecipe⟩
    have honePhase := h.pairs_iff.mp hpairs
    have hapart := hchildren.mp hrecipe
    have hapart' : ∀ other ∈ leftRows report, ∀ named ∈ leftRows report,
        (startsWith (computeId named.1.phase named.1.id named.2)
          (computeId other.1.phase other.1.id "" ++ ".") = true ↔ named.1.id = other.1.id) := by
      intro other hother named hmem
      rw [honePhase other hother]
      exact hapart other hother named hmem
    obtain ⟨hnamed, hnames⟩ := (children_iff (hsame honePhase)).mp hapart'
    exact ⟨honePhase, hnamed, hnames⟩
  · rintro ⟨honePhase, hnamed, hnames⟩
    refine ⟨nodup_summaries _ _, h.pairs_iff.mpr honePhase, hchildren.mpr ?_⟩
    intro other hother named hmem
    rw [← honePhase other hother]
    exact (children_iff (hsame honePhase)).mpr ⟨hnamed, hnames⟩ other hother named hmem

/-- A report's rows are left under the names its suites give them. -/
theorem Reported.leftRows_eq {suites : List VerificationSuite}
    {subject : VerificationSubject} {context : VerificationContext} {options : RunSuitesOptions}
    {report : List (VerificationSuite × List ReportEntry)} {haltedFrom : Nat}
    (h : Reported suites subject context options report)
    (hhalted : ∀ before part after, report = before ++ part :: after →
      ((firstHalt (before.flatMap Prod.snd)).isSome = true ↔ haltedFrom ≤ before.length)) :
    leftRows report = leftNames subject context options haltedFrom suites := by
  have hrest (before rest : List (VerificationSuite × List ReportEntry))
      (hreport : report = before ++ rest) :
      ((rest.map Prod.fst).zipIdx before.length).flatMap (fun (suite, position) =>
        (reportedCheckIds subject context options (decide (haltedFrom ≤ position)) suite).map
          fun checkId => (suite, checkId)) = leftRows rest := by
    induction rest generalizing before with
    | nil => rfl
    | cons part rest ih =>
        have hchecks := (h.2 before part rest hreport).checkIds_eq
        have hflag : (firstHalt (before.flatMap Prod.snd)).isSome =
            decide (haltedFrom ≤ before.length) := by
          rw [Bool.eq_iff_iff, decide_eq_true_eq]
          exact hhalted before part rest hreport
        rw [hflag] at hchecks
        have htail := ih (before ++ [part]) (by rw [hreport]; simp)
        rw [List.length_append, List.length_singleton] at htail
        rw [List.map_cons, List.zipIdx_cons, List.flatMap_cons, htail]
        dsimp only
        rw [← hchecks, List.map_map]
        rfl
  rw [leftNames, ← h.1]
  exact (hrest [] report rfl).symm

/-- The summaries of every run can be drilled into exactly when the names of the suites
that left rows keep apart; these are the suites' own, given the place of the first that
a halt comes before. -/
theorem runSuites_drillsDown_iff {platform : Platform} {suites : List VerificationSuite}
    {subject : VerificationSubject} {context : VerificationContext} {options : RunSuitesOptions}
    {store store' : ContextStore} {trace : List PortEvent} {rows : List CheckResult}
    (h : Executes (runSuites platform suites subject context options store) trace
      (rows, store')) :
    ∃ report haltedFrom, Reported suites subject context options report ∧
      rows = (report.flatMap Prod.snd).map ReportEntry.row ∧
      (∀ before part after, report = before ++ part :: after →
        ((firstHalt (before.flatMap Prod.snd)).isSome = true ↔ haltedFrom ≤ before.length)) ∧
      (DrillsDown report rows (foldCheckResults rows suites).summaries ↔
        NamesApart suites (leftNames subject context options haltedFrom suites)) := by
  obtain ⟨report, hreport, rfl, _⟩ := exists_report h
  obtain ⟨haltedFrom, hhalted⟩ := exists_haltedFrom report
  refine ⟨report, haltedFrom, hreport, rfl, hhalted, ?_⟩
  rw [hreport.drillsDown_iff, hreport.leftRows_eq hhalted]

/-! ### One suite's name below another's -/

namespace DottedSuites

/-- A runtime without URLs and dates. -/
def platform : Platform :=
  PlatformTable.platform {}

/-- A suite that declines every subject. -/
def declining (id : String) : VerificationSuite where
  id := id
  checks := []
  applies := some fun _ _ => .ok false
  phase := some .semantic

/-- The suite of all badge checks, and that of the schema checks among them. -/
def suites : List VerificationSuite :=
  [declining "openbadges", declining "openbadges.schema"]

/-- The caller asked for both. -/
def options : RunSuitesOptions where
  explicitSuiteIds := ["openbadges", "openbadges.schema"]

/-- The row of a suite that does not apply. -/
def row (suite : String) : CheckResult :=
  buildResult (declining suite) (suite ++ ".applies") declinedOutcome none none

/-- Each of the two suites is reported with one row. -/
theorem executes : Executes (runSuites platform suites {} {} options {}) []
    ([row "openbadges", row "openbadges.schema"], {}) :=
  replay_eq_some_iff.mp rfl

/-- The suite of all badge checks, and one with an id of its own. -/
def apartSuites : List VerificationSuite :=
  [declining "openbadges", declining "schema"]

/-- Both suites are named explicitly. -/
def apartOptions : RunSuitesOptions where
  explicitSuiteIds := ["openbadges", "schema"]

/-- Each of the suites whose names keep apart is reported with one row. -/
theorem executes_apart :
    Executes (runSuites platform apartSuites {} {} apartOptions {}) []
      ([row "openbadges", row "schema"], {}) :=
  replay_eq_some_iff.mp rfl

end DottedSuites

/-- The row of the schema suite starts with the id of the other suite's summary. -/
theorem dottedSuites_share_rows :
    ¬∀ (platform : Platform) (suites : List VerificationSuite) (subject : VerificationSubject)
      (context : VerificationContext) (options : RunSuitesOptions) (store store' : ContextStore)
      (trace : List PortEvent) (rows : List CheckResult),
      Executes (runSuites platform suites subject context options store) trace (rows, store') →
      ∃ report, Reported suites subject context options report ∧
        DrillsDown report rows (foldCheckResults rows suites).summaries := by
  intro hall
  obtain ⟨report, _, hdrills⟩ := hall _ _ _ _ _ _ _ _ _ DottedSuites.executes
  have hstarts : startsWith (DottedSuites.row "openbadges.schema").id
      ("semantic.openbadges" ++ ".") = true := by decide
  have hcounted := (hdrills.children _ List.mem_cons_self
    (DottedSuites.row "openbadges.schema") (by simp)).mp hstarts
  rw [rowsOf, List.mem_filter] at hcounted
  exact absurd hcounted.2 (by decide)

/-- Where the ids of the two suites keep apart, each summary leads to its own row. -/
theorem runSuites_drillsDown_apart :
    ∃ report, DrillsDown report [DottedSuites.row "openbadges", DottedSuites.row "schema"]
      (foldCheckResults [DottedSuites.row "openbadges", DottedSuites.row "schema"]
        DottedSuites.apartSuites).summaries := by
  obtain ⟨report, haltedFrom, _, _, _, hdrills⟩ :=
    runSuites_drillsDown_iff DottedSuites.executes_apart
  have hnames : leftNames {} {} DottedSuites.apartOptions haltedFrom DottedSuites.apartSuites =
      [(DottedSuites.declining "openbadges", "openbadges.applies"),
        (DottedSuites.declining "schema", "schema.applies")] := rfl
  rw [hnames] at hdrills
  refine ⟨report, hdrills.mpr ⟨?_, ?_, ?_⟩⟩
  · intro named hnamed
    rcases List.mem_pair.mp hnamed with rfl | rfl <;> rfl
  · intro named hnamed
    rcases List.mem_pair.mp hnamed with rfl | rfl <;> decide
  · intro named hnamed other hother _ hid
    rcases List.mem_pair.mp hnamed with rfl | rfl <;>
      rcases List.mem_pair.mp hother with rfl | rfl
    · exact absurd rfl hid
    · decide
    · decide
    · exact absurd rfl hid

end VerifierCore
