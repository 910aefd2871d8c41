import VerifierCore.Foundations.Spans
import VerifierCore.Timing.Transparency

/-!
# Timings contain each other

A timing is read off the clocks when its task starts and when it ends.  The tasks of a
call run one after another inside it, so when the clocks do not go back, its rows follow
each other inside its own timing and take no longer together than the whole.

Main results:

- Theorem {lit}`timedRows_runSuites`: the rows of a timed run are timed along its calls.
- Theorem {lit}`verifyCredential_inclusive`: the timing of a result includes the timings
  of its rows and summaries, and their sum.
- Theorem {lit}`verifyPresentation_inclusive`: also those of the embedded credentials.
-/

namespace VerifierCore

open Foundations Program

/-! ## Clock readings -/

/-- The readings of the monotonic clock. -/
def monoReadings (events : List PortEvent) : List ℚ :=
  events.filterMap fun event =>
    match event with
    | ⟨.performanceNowMs, reading⟩ => some reading
    | _ => none

/-- The readings of the wall clock, as the timings show and compare them. -/
def wallReadings (platform : Platform) (events : List PortEvent) : List (List Nat) :=
  events.filterMap fun event =>
    match event with
    | ⟨.dateNowMs, reading⟩ => some (codeUnits (platform.toISOString reading))
    | _ => none

/-- The readings of consecutive calls follow each other. -/
theorem monoReadings_append (first second : List PortEvent) :
    monoReadings (first ++ second) = monoReadings first ++ monoReadings second :=
  List.filterMap_append

/-- The wall clock readings of consecutive events follow each other. -/
theorem wallReadings_append (platform : Platform) (first second : List PortEvent) :
    wallReadings platform (first ++ second) =
      wallReadings platform first ++ wallReadings platform second :=
  List.filterMap_append

/-- The readings of a part of the calls are a part of the readings. -/
theorem infix_monoReadings {inner events : List PortEvent} (h : inner <:+: events) :
    monoReadings inner <:+: monoReadings events := by
  rcases h with ⟨before, after, rfl⟩
  simp only [monoReadings_append]
  exact ⟨_, _, rfl⟩

/-- The wall clock readings within a part of the events are a part of all of them. -/
theorem infix_wallReadings (platform : Platform) {inner events : List PortEvent}
    (h : inner <:+: events) : wallReadings platform inner <:+: wallReadings platform events := by
  rcases h with ⟨before, after, rfl⟩
  simp only [wallReadings_append]
  exact ⟨_, _, rfl⟩

/-- Neither clock went back. -/
structure ClocksForward (platform : Platform) (events : List PortEvent) : Prop where
  wall : NeverBack (wallReadings platform events)
  mono : NeverBack (monoReadings events)

/-- Clocks that run forward along all calls do so along a part of them. -/
theorem ClocksForward.of_infix {platform : Platform} {inner events : List PortEvent}
    (h : ClocksForward platform events) (hinside : inner <:+: events) :
    ClocksForward platform inner :=
  ⟨h.wall.of_infix (infix_wallReadings platform hinside),
    h.mono.of_infix (infix_monoReadings hinside)⟩

/-! ## Timings along calls -/

namespace TaskTiming

/-- The timing reaches from the first readings of some calls to their last. -/
structure Covers (platform : Platform) (timing : TaskTiming) (events : List PortEvent) : Prop where
  startedAt : (wallReadings platform events).head? = some (codeUnits timing.startedAt)
  endedAt : (wallReadings platform events).getLast? = some (codeUnits timing.endedAt)
  durationMs : timing.durationMs = span (monoReadings events)

/-- A timing does not end before it starts. -/
structure Forward (timing : TaskTiming) : Prop where
  window : codeUnits timing.startedAt ≤ codeUnits timing.endedAt
  durationMs : 0 ≤ timing.durationMs

/-- The second timing lies within the first. -/
structure Includes (outer inner : TaskTiming) : Prop where
  startedAt : codeUnits outer.startedAt ≤ codeUnits inner.startedAt
  endedAt : codeUnits inner.endedAt ≤ codeUnits outer.endedAt
  durationMs : inner.durationMs ≤ outer.durationMs

variable {platform : Platform} {timing inner : TaskTiming} {events part : List PortEvent}

/-- A task starts at a reading of the wall clock. -/
theorem Covers.mem_startedAt (h : timing.Covers platform events) :
    codeUnits timing.startedAt ∈ wallReadings platform events :=
  List.mem_of_mem_head? h.startedAt

/-- A task ends at a reading of the wall clock. -/
theorem Covers.mem_endedAt (h : timing.Covers platform events) :
    codeUnits timing.endedAt ∈ wallReadings platform events :=
  List.mem_of_getLast? h.endedAt

/-- When the clocks run forward, a task ends no earlier than it starts. -/
theorem Covers.forward (h : timing.Covers platform events)
    (hclocks : ClocksForward platform events) : timing.Forward := by
  constructor
  · exact hclocks.wall.head_le h.startedAt h.mem_endedAt
  · rw [h.durationMs]
    exact span_nonneg hclocks.mono

/-- A task within another lies within its timing. -/
theorem Covers.includes (h : timing.Covers platform events) (hinner : inner.Covers platform part)
    (hinside : part <:+: events) (hclocks : ClocksForward platform events) :
    timing.Includes inner := by
  have hreadings := (infix_wallReadings platform hinside).subset
  constructor
  · exact hclocks.wall.head_le h.startedAt (hreadings hinner.mem_startedAt)
  · exact hclocks.wall.le_getLast h.endedAt (hreadings hinner.mem_endedAt)
  · rw [h.durationMs, hinner.durationMs]
    exact span_part_le hclocks.mono (infix_monoReadings hinside)

end TaskTiming

/-- What runs between the start of a timing and its end is covered by it. -/
theorem covers_of_task {platform : Platform} {started : Option InProgressTiming}
    {finished : Option TaskTiming} {first last : List PortEvent} (middle : List PortEvent)
    (hstart : Executes (startIfTimed platform true) first started)
    (hfinish : Executes (finishIfStarted platform started) last finished) :
    ∃ timing, finished = some timing ∧ timing.Covers platform (first ++ middle ++ last) := by
  rcases executes_map_iff.mp hstart with ⟨task, htask, rfl⟩
  rcases executes_ask_bind_iff.mp htask with ⟨dateNowMs, afterDate, rfl, hdate⟩
  rcases executes_ask_bind_iff.mp hdate with ⟨startedMonoMs, afterMono, rfl, hmono⟩
  rcases executes_pure_iff.mp hmono with ⟨rfl, rfl⟩
  rcases executes_map_iff.mp hfinish with ⟨timing, htiming, rfl⟩
  rcases executes_ask_bind_iff.mp htiming with ⟨endDateMs, afterEnd, rfl, hend⟩
  rcases executes_ask_bind_iff.mp hend with ⟨endMonoMs, afterLast, rfl, hlast⟩
  rcases executes_pure_iff.mp hlast with ⟨rfl, rfl⟩
  refine ⟨_, rfl, ?_, ?_, ?_⟩
  · rfl
  · rw [wallReadings_append]
    exact List.getLast?_append
  · have hreadings : monoReadings ([⟨.dateNowMs, dateNowMs⟩, ⟨.performanceNowMs, startedMonoMs⟩] ++
        middle ++ [⟨.dateNowMs, endDateMs⟩, ⟨.performanceNowMs, endMonoMs⟩]) =
        startedMonoMs :: (monoReadings middle ++ [endMonoMs]) := by
      rw [monoReadings_append, monoReadings_append]
      rfl
    rw [hreadings, span]
    simp

/-! ## Rows -/

/-- The rows are timed along consecutive parts of the calls. -/
def TimedRows (platform : Platform) (events : List PortEvent) (rows : List CheckResult) : Prop :=
  ∃ parts : List (CheckResult × List PortEvent), rows = parts.map Prod.fst ∧
    events = parts.flatMap Prod.snd ∧
    ∀ part ∈ parts, ∃ timing, part.1.timing = some timing ∧ timing.Covers platform part.2

theorem timedRows_nil (platform : Platform) : TimedRows platform [] [] :=
  ⟨[], rfl, rfl, by simp⟩

/-- One row is timed along the calls its timing covers. -/
theorem timedRows_singleton {platform : Platform} {events : List PortEvent} {row : CheckResult}
    (h : ∃ timing, row.timing = some timing ∧ timing.Covers platform events) :
    TimedRows platform events [row] :=
  ⟨[(row, events)], rfl, by simp, by simpa using h⟩

/-- Rows that are timed along consecutive calls are timed along all of them. -/
theorem TimedRows.append {platform : Platform} {events events' : List PortEvent}
    {rows rows' : List CheckResult} (h : TimedRows platform events rows)
    (h' : TimedRows platform events' rows') :
    TimedRows platform (events ++ events') (rows ++ rows') := by
  rcases h with ⟨parts, rfl, rfl, hparts⟩
  rcases h' with ⟨parts', rfl, rfl, hparts'⟩
  refine ⟨parts ++ parts', by simp, by simp, ?_⟩
  intro part hpart
  rcases List.mem_append.mp hpart with hmem | hmem
  · exact hparts part hmem
  · exact hparts' part hmem

section

variable {platform : Platform} {subject : VerificationSubject} {context : VerificationContext}

/-- A row that is made without a check is timed along its clock readings. -/
theorem timedRows_syntheticResult {suite : VerificationSuite} {checkId : String}
    {outcome : CheckOutcome} {fatal halts : Option Bool} {events : List PortEvent}
    {row : CheckResult}
    (h : Executes (syntheticResult platform suite checkId outcome fatal halts true) events row) :
    TimedRows platform events [row] := by
  rcases executes_bind_iff.mp h with ⟨first, rest, started, rfl, hstart, hrest⟩
  rcases executes_bind_iff.mp hrest with ⟨last, _, finished, rfl, hfinish, hpure⟩
  rcases executes_pure_iff.mp hpure with ⟨rfl, rfl⟩
  have hcovers := covers_of_task [] hstart hfinish
  apply timedRows_singleton
  simpa using hcovers

/-- The row of a check is timed along the calls of the check. -/
theorem timedRows_runCheck (htiming : context.timing = true) {suite : VerificationSuite}
    {check : VerificationCheck} {state state' : RunState} {events : List PortEvent}
    {rows : List CheckResult}
    (h : Executes (runCheck platform suite subject context check state) events (rows, state')) :
    TimedRows platform events rows := by
  unfold runCheck at h
  rw [htiming] at h
  split_ifs at h
  · rcases executes_pure_iff.mp h with ⟨rfl, hpair⟩
    cases hpair
    exact timedRows_nil platform
  · cases hhalted : state.haltedBy with
    | some haltedBy =>
        rw [hhalted] at h
        rcases executes_bind_iff.mp h with ⟨first, _, row, rfl, hrow, hpure⟩
        rcases executes_pure_iff.mp hpure with ⟨rfl, hpair⟩
        cases hpair
        rw [List.append_nil]
        exact timedRows_syntheticResult hrow
    | none =>
        rw [hhalted] at h
        rcases executes_bind_iff.mp h with ⟨first, _, started, rfl, hstart, hran⟩
        rcases executes_bind_iff.mp hran with ⟨middle, _, executed, rfl, _, hend⟩
        rcases executes_bind_iff.mp hend with ⟨last, _, finished, rfl, hfinish, hpure⟩
        rcases executes_pure_iff.mp hpure with ⟨rfl, hpair⟩
        cases hpair
        have hcovers := covers_of_task middle hstart hfinish
        apply timedRows_singleton
        simpa using hcovers

/-- The rows of a suite are timed along its calls. -/
theorem timedRows_runSuite (htiming : context.timing = true) {options : RunSuitesOptions}
    {suite : VerificationSuite} {state state' : RunState} {events : List PortEvent}
    {rows : List CheckResult}
    (h : Executes (runSuite platform subject context options suite state) events (rows, state')) :
    TimedRows platform events rows := by
  have hlone {checkId : String} {outcome : CheckOutcome} {fatal : Option Bool} {next : RunState}
      (hrun : Executes (syntheticResult platform suite checkId outcome fatal none true >>= fun row =>
        pure ([row], next)) events (rows, state')) : TimedRows platform events rows := by
    rcases executes_bind_iff.mp hrun with ⟨first, _, row, rfl, hrow, hpure⟩
    rcases executes_pure_iff.mp hpure with ⟨rfl, hpair⟩
    cases hpair
    rw [List.append_nil]
    exact timedRows_syntheticResult hrow
  have hloop (hrun : Executes (collect (runCheck platform suite subject context) suite.checks state)
      events (rows, state')) : TimedRows platform events rows := by
    apply collect_closed (timedRows_nil platform) _ _ hrun
    · intro first out second out' hfirst hsecond
      exact hfirst.append hsecond
    · intro check _ start trace outs stop hcheck
      exact timedRows_runCheck htiming hcheck
  have hnone (hrun : Executes (pure ([], state)) events (rows, state')) :
      TimedRows platform events rows := by
    rcases executes_pure_iff.mp hrun with ⟨rfl, hpair⟩
    cases hpair
    exact timedRows_nil platform
  unfold runSuite at h
  rw [htiming] at h
  by_cases hphases : (!suiteRunsInPhases suite options.phases) = true
  · rw [if_pos hphases] at h
    exact hnone h
  · rw [if_neg hphases] at h
    split at h
    · exact hlone h
    · by_cases hexplicit : suite.id ∈ options.explicitSuiteIds
      · rw [if_pos hexplicit] at h
        exact hlone h
      · rw [if_neg hexplicit] at h
        exact hnone h
    · exact hloop h

/-- The rows of a timed run are timed along its calls. -/
theorem timedRows_runSuites (htiming : context.timing = true) {suites : List VerificationSuite}
    {options : RunSuitesOptions} {store store' : ContextStore} {events : List PortEvent}
    {rows : List CheckResult}
    (h : Executes (runSuites platform suites subject context options store) events (rows, store')) :
    TimedRows platform events rows := by
  rcases executes_bind_iff.mp h with ⟨first, _, run, rfl, hrun, hpure⟩
  rcases executes_pure_iff.mp hpure with ⟨rfl, hpair⟩
  cases hpair
  rw [List.append_nil]
  apply collect_closed (timedRows_nil platform) _ _ hrun
  · intro events outs events' outs' hfirst hsecond
    exact hfirst.append hsecond
  · intro suite _ start trace outs stop hsuite
    exact timedRows_runSuite htiming hsuite

end

/-! ## Rolled up timings -/

/-- What a timing adds to a sum. -/
def timedMs (timing : Option TaskTiming) : ℚ :=
  timing.elim 0 TaskTiming.durationMs

@[simp]
theorem timedMs_none : timedMs none = 0 :=
  rfl

/-- A timed row takes as long as its timing says. -/
@[simp]
theorem timedMs_some (timing : TaskTiming) : timedMs (some timing) = timing.durationMs :=
  rfl

/-- One round of the rollup. -/
def rollTiming (rolled t : TaskTiming) : TaskTiming where
  startedAt := if stringLt t.startedAt rolled.startedAt then t.startedAt else rolled.startedAt
  endedAt := if stringLt rolled.endedAt t.endedAt then t.endedAt else rolled.endedAt
  durationMs := rolled.durationMs + t.durationMs

/-- Two timings together start with the earlier one. -/
theorem rollTiming_startedAt (rolled t : TaskTiming) :
    codeUnits (rollTiming rolled t).startedAt =
      min (codeUnits rolled.startedAt) (codeUnits t.startedAt) := by
  unfold rollTiming stringLt
  by_cases h : codeUnits t.startedAt < codeUnits rolled.startedAt
  · simp [h, min_eq_right h.le]
  · simp [h, min_eq_left (not_lt.mp h)]

/-- Two timings together end with the later one. -/
theorem rollTiming_endedAt (rolled t : TaskTiming) :
    codeUnits (rollTiming rolled t).endedAt =
      max (codeUnits rolled.endedAt) (codeUnits t.endedAt) := by
  unfold rollTiming stringLt
  by_cases h : codeUnits rolled.endedAt < codeUnits t.endedAt
  · simp [h, max_eq_right h.le]
  · simp [h, max_eq_left (not_lt.mp h)]

/-- The rollup runs from the earliest start to the latest end and sums the durations. -/
structure RolledUp (timings : List TaskTiming) (rolled : TaskTiming) : Prop where
  starts : ∃ t ∈ timings, codeUnits rolled.startedAt = codeUnits t.startedAt
  ends : ∃ t ∈ timings, codeUnits rolled.endedAt = codeUnits t.endedAt
  startedAt_le : ∀ t ∈ timings, codeUnits rolled.startedAt ≤ codeUnits t.startedAt
  le_endedAt : ∀ t ∈ timings, codeUnits t.endedAt ≤ codeUnits rolled.endedAt
  durationMs : rolled.durationMs = (timings.map TaskTiming.durationMs).sum

/-- One more timing is rolled into the others. -/
theorem RolledUp.concat {timings : List TaskTiming} {rolled : TaskTiming}
    (h : RolledUp timings rolled) (t : TaskTiming) :
    RolledUp (timings ++ [t]) (rollTiming rolled t) := by
  rcases h with ⟨⟨first, hfirst, hstart⟩, ⟨last, hlast, hend⟩, hstarts, hends, hsum⟩
  constructor
  · rw [rollTiming_startedAt]
    rcases min_choice (codeUnits rolled.startedAt) (codeUnits t.startedAt) with hmin | hmin
    · exact ⟨first, List.mem_append_left _ hfirst, hmin.trans hstart⟩
    · exact ⟨t, by simp, hmin⟩
  · rw [rollTiming_endedAt]
    rcases max_choice (codeUnits rolled.endedAt) (codeUnits t.endedAt) with hmax | hmax
    · exact ⟨last, List.mem_append_left _ hlast, hmax.trans hend⟩
    · exact ⟨t, by simp, hmax⟩
  · intro other hother
    rw [rollTiming_startedAt]
    rcases List.mem_append.mp hother with hmem | hself
    · exact (min_le_left _ _).trans (hstarts other hmem)
    · rw [List.mem_singleton.mp hself]
      exact min_le_right _ _
  · intro other hother
    rw [rollTiming_endedAt]
    rcases List.mem_append.mp hother with hmem | hself
    · exact (hends other hmem).trans (le_max_left _ _)
    · rw [List.mem_singleton.mp hself]
      exact le_max_right _ _
  · simp [rollTiming, hsum]

/-- Rolling timings up one by one rolls all of them up. -/
theorem rolledUp_foldl {timings : List TaskTiming} {rolled : TaskTiming}
    (h : RolledUp timings rolled) (later : List TaskTiming) :
    RolledUp (timings ++ later) (later.foldl rollTiming rolled) := by
  induction later generalizing timings rolled with
  | nil => simpa using h
  | cons t later ih =>
      have hnext := ih (h.concat t)
      rw [List.append_assoc] at hnext
      exact hnext

/-- The timings of a suite's rows are rolled up into that of its summary. -/
theorem rollupSuiteTiming_spec {rows : List CheckResult} {first : TaskTiming}
    {later : List TaskTiming} (h : rows.filterMap CheckResult.timing = first :: later) :
    ∃ rolled, rollupSuiteTiming rows = some rolled ∧ RolledUp (first :: later) rolled := by
  have hfirst : RolledUp [first] (rollTiming { first with durationMs := 0 } first) := by
    constructor <;> simp [rollTiming]
  refine ⟨_, ?_, rolledUp_foldl hfirst later⟩
  rw [rollupSuiteTiming, h]
  rfl

/-- A suite takes as long as its rows together. -/
theorem timedMs_rollupSuiteTiming (rows : List CheckResult) :
    timedMs (rollupSuiteTiming rows) = (rows.map fun row => timedMs row.timing).sum := by
  have hrows : (rows.map fun row => timedMs row.timing).sum =
      ((rows.filterMap CheckResult.timing).map TaskTiming.durationMs).sum := by
    induction rows with
    | nil => rfl
    | cons row rows ih =>
        cases htiming : row.timing with
        | none => simp [htiming, ih]
        | some timing => simp [htiming, ih]
  rw [hrows]
  cases htimings : rows.filterMap CheckResult.timing with
  | nil =>
      rw [rollupSuiteTiming, htimings]
      rfl
  | cons first later =>
      rcases rollupSuiteTiming_spec htimings with ⟨rolled, hrolled, hspec⟩
      rw [hrolled]
      exact hspec.durationMs

/-- The summaries take together as long as the rows. -/
theorem sum_summaries (rows : List CheckResult) (suites : List VerificationSuite) :
    ((foldCheckResults rows suites).summaries.map fun summary => timedMs summary.timing).sum =
      (rows.map fun row => timedMs row.timing).sum := by
  have hgroups (groups : List (String × List CheckResult)) :
      (groups.map fun group => (group.2.map fun row => timedMs row.timing).sum).sum =
        ((groups.flatMap Prod.snd).map fun row => timedMs row.timing).sum := by
    induction groups with
    | nil => rfl
    | cons group groups ih => simp [ih]
  have hperm : ((groupChecksBySuite rows).flatMap Prod.snd).Perm rows :=
    groupInOrder_flatten_perm CheckResult.suite rows
  unfold foldCheckResults
  split
  · rename_i hempty
    rw [List.eq_nil_of_length_eq_zero hempty.1]
    rfl
  · simp only [List.map_map]
    calc ((groupChecksBySuite rows).map _).sum
        = ((groupChecksBySuite rows).map fun group =>
            (group.2.map fun row => timedMs row.timing).sum).sum := by
          congr 1
          apply List.map_congr_left
          intro group _
          exact timedMs_rollupSuiteTiming group.2
      _ = (((groupChecksBySuite rows).flatMap Prod.snd).map fun row => timedMs row.timing).sum :=
          hgroups _
      _ = (rows.map fun row => timedMs row.timing).sum := (hperm.map _).sum_eq

/-! ## What a call's timing includes -/

/-- The task was timed, and its timing lies within the one of the call. -/
def TaskTiming.IncludesSome (outer : TaskTiming) (inner : Option TaskTiming) : Prop :=
  ∃ timing, inner = some timing ∧ timing.Forward ∧ outer.Includes timing

/-- Rows within a call, and their summaries. -/
structure RowsWithin (outer : TaskTiming) (rows : List CheckResult)
    (summaries : List SuiteSummary) : Prop where
  eachRow : ∀ row ∈ rows, outer.IncludesSome row.timing
  inTurn : rows.Pairwise fun row later => ∀ timing next, row.timing = some timing →
    later.timing = some next → codeUnits timing.endedAt ≤ codeUnits next.startedAt
  eachSummary : ∀ summary ∈ summaries, outer.IncludesSome summary.timing
  summed : (summaries.map fun summary => timedMs summary.timing).sum =
    (rows.map fun row => timedMs row.timing).sum

/-- The timing of a result includes everything the call did, and takes at least as long as
all of it. -/
structure CredentialVerificationResult.Inclusive (result : CredentialVerificationResult)
    (timing : TaskTiming) : Prop where
  timing_eq : result.timing = some timing
  forward : timing.Forward
  rowsWithin : RowsWithin timing result.results result.summary
  total : (result.results.map fun row => timedMs row.timing).sum ≤ timing.durationMs

/-- The timing of a presentation's result also includes the embedded credentials. -/
structure PresentationVerificationResult.Inclusive (result : PresentationVerificationResult)
    (timing : TaskTiming) : Prop where
  timing_eq : result.timing = some timing
  forward : timing.Forward
  rowsWithin : RowsWithin timing result.presentationResults result.summary
  credentials : ∀ credential ∈ result.credentialResults,
    ∃ inner, credential.Inclusive inner ∧ timing.Includes inner
  total : (result.summary.map fun summary => timedMs summary.timing).sum +
    (result.credentialResults.map fun credential => timedMs credential.timing).sum ≤
      timing.durationMs

section

variable {platform : Platform} {outer : TaskTiming} {trace inner : List PortEvent}
  {rows : List CheckResult}

/-- What an item contributes is a part of the whole. -/
theorem infix_flatMap {α β : Type} {item : α} {items : List α} (h : item ∈ items)
    (f : α → List β) : f item <:+: items.flatMap f := by
  rcases List.append_of_mem h with ⟨before, after, rfl⟩
  exact ⟨before.flatMap f, after.flatMap f, by simp⟩

/-- The readings of consecutive parts follow each other. -/
theorem monoReadings_flatMap {ι : Type} (f : ι → List PortEvent) (items : List ι) :
    monoReadings (items.flatMap f) = (items.map fun item => monoReadings (f item)).flatten := by
  induction items with
  | nil => rfl
  | cons item items ih =>
      rw [List.flatMap_cons, monoReadings_append, ih]
      rfl

/-- Rows timed along some calls take no longer than these. -/
theorem TimedRows.sum_le (h : TimedRows platform inner rows)
    (hclocks : ClocksForward platform inner) :
    (rows.map fun row => timedMs row.timing).sum ≤ span (monoReadings inner) := by
  rcases h with ⟨parts, rfl, rfl, hparts⟩
  have hspans : (parts.map Prod.fst).map (fun row => timedMs row.timing) =
      (parts.map fun part => monoReadings part.2).map span := by
    rw [List.map_map, List.map_map]
    apply List.map_congr_left
    intro part hpart
    rcases hparts part hpart with ⟨timing, htiming, hcovers⟩
    simp only [Function.comp_apply, htiming, timedMs_some]
    exact hcovers.durationMs
  have hmono := hclocks.mono
  rw [monoReadings_flatMap] at hmono ⊢
  rw [hspans]
  exact sum_span_le hmono

/-- Each row timed along some of a call's calls lies within it. -/
theorem TimedRows.includes (h : TimedRows platform inner rows) (houter : outer.Covers platform trace)
    (hinside : inner <:+: trace) (hclocks : ClocksForward platform trace) :
    ∀ row ∈ rows, outer.IncludesSome row.timing := by
  rcases h with ⟨parts, rfl, rfl, hparts⟩
  intro row hrow
  rcases List.mem_map.mp hrow with ⟨part, hpart, rfl⟩
  rcases hparts part hpart with ⟨timing, htiming, hcovers⟩
  have hpartInside : part.2 <:+: trace :=
    (infix_flatMap hpart Prod.snd).trans hinside
  exact ⟨timing, htiming, hcovers.forward (hclocks.of_infix hpartInside),
    houter.includes hcovers hpartInside hclocks⟩

/-- A row ends before the next one starts. -/
theorem TimedRows.inTurn (h : TimedRows platform inner rows)
    (hclocks : ClocksForward platform inner) :
    rows.Pairwise fun row later => ∀ timing next, row.timing = some timing →
      later.timing = some next → codeUnits timing.endedAt ≤ codeUnits next.startedAt := by
  rcases h with ⟨parts, rfl, rfl, hparts⟩
  induction parts with
  | nil => exact .nil
  | cons part parts ih =>
      have hwall := hclocks.wall
      rw [List.flatMap_cons, wallReadings_append] at hwall
      have hbehind : ClocksForward platform (parts.flatMap Prod.snd) :=
        hclocks.of_infix ⟨part.2, [], by simp⟩
      rw [List.map_cons, List.pairwise_cons]
      refine ⟨?_, ih (fun other hmem => hparts other (List.mem_cons_of_mem _ hmem)) hbehind⟩
      intro later hlater timing next htiming hnext
      rcases List.mem_map.mp hlater with ⟨other, hother, rfl⟩
      rcases hparts part List.mem_cons_self with ⟨timing', htiming', hcovers⟩
      rcases hparts other (List.mem_cons_of_mem _ hother) with ⟨next', hnext', hcovers'⟩
      rw [htiming', Option.some.injEq] at htiming
      rw [hnext', Option.some.injEq] at hnext
      subst htiming hnext
      apply (List.pairwise_append.mp hwall).2.2 _ hcovers.mem_endedAt
      exact (infix_wallReadings platform (infix_flatMap hother Prod.snd)).subset
        hcovers'.mem_startedAt

/-- Timings that do not end before they start roll up into one that does not. -/
theorem RolledUp.forward {timings : List TaskTiming} {rolled : TaskTiming}
    (h : RolledUp timings rolled) (hforward : ∀ timing ∈ timings, timing.Forward) :
    rolled.Forward := by
  constructor
  · rcases h.starts with ⟨first, hfirst, hstart⟩
    calc codeUnits rolled.startedAt
        = codeUnits first.startedAt := hstart
      _ ≤ codeUnits first.endedAt := (hforward first hfirst).window
      _ ≤ codeUnits rolled.endedAt := h.le_endedAt first hfirst
  · rw [h.durationMs]
    apply List.sum_nonneg
    intro duration hduration
    rcases List.mem_map.mp hduration with ⟨timing, htiming, rfl⟩
    exact (hforward timing htiming).durationMs

/-- Timings within another roll up into one within it, if it takes long enough for all. -/
theorem RolledUp.includes {timings : List TaskTiming} {rolled : TaskTiming}
    (h : RolledUp timings rolled) (hincludes : ∀ timing ∈ timings, outer.Includes timing)
    (hsum : (timings.map TaskTiming.durationMs).sum ≤ outer.durationMs) :
    outer.Includes rolled := by
  constructor
  · rcases h.starts with ⟨timing, hmem, hstart⟩
    rw [hstart]
    exact (hincludes timing hmem).startedAt
  · rcases h.ends with ⟨timing, hmem, hend⟩
    rw [hend]
    exact (hincludes timing hmem).endedAt
  · rw [h.durationMs]
    exact hsum

/-- Rows within a call take no negative time. -/
theorem timedMs_nonneg (heach : ∀ row ∈ rows, outer.IncludesSome row.timing) :
    ∀ duration ∈ rows.map fun row => timedMs row.timing, 0 ≤ duration := by
  intro duration hduration
  rcases List.mem_map.mp hduration with ⟨row, hrow, rfl⟩
  rcases heach row hrow with ⟨timing, htiming, hforward, _⟩
  rw [htiming, timedMs_some]
  exact hforward.durationMs

/-- The summary of some of the rows lies within the call if these do. -/
theorem includesSome_rollup {group : List CheckResult} (hsub : group.Sublist rows)
    (hnonempty : group ≠ []) (heach : ∀ row ∈ rows, outer.IncludesSome row.timing)
    (hsum : (rows.map fun row => timedMs row.timing).sum ≤ outer.durationMs) :
    outer.IncludesSome (rollupSuiteTiming group) := by
  have hgroup : ∀ timing ∈ group.filterMap CheckResult.timing,
      timing.Forward ∧ outer.Includes timing := by
    intro timing hmem
    rcases List.mem_filterMap.mp hmem with ⟨row, hrow, htiming⟩
    rcases heach row (hsub.subset hrow) with ⟨timing', htiming', hforward, hincludes⟩
    rw [htiming, Option.some.injEq] at htiming'
    subst htiming'
    exact ⟨hforward, hincludes⟩
  cases htimings : group.filterMap CheckResult.timing with
  | nil =>
      rcases List.exists_mem_of_ne_nil group hnonempty with ⟨row, hrow⟩
      rcases heach row (hsub.subset hrow) with ⟨timing, htiming, _⟩
      have hmem := List.mem_filterMap.mpr ⟨row, hrow, htiming⟩
      rw [htimings] at hmem
      cases hmem
  | cons first later =>
      rcases rollupSuiteTiming_spec htimings with ⟨rolled, hrolled, hspec⟩
      rw [htimings] at hgroup
      have hsums := (hsub.map fun row => timedMs row.timing).sum_le_sum (timedMs_nonneg heach)
      refine ⟨rolled, hrolled, hspec.forward fun timing hmem => (hgroup timing hmem).1,
        hspec.includes (fun timing hmem => (hgroup timing hmem).2) ?_⟩
      calc ((first :: later).map TaskTiming.durationMs).sum
          = (group.map fun row => timedMs row.timing).sum := by
            rw [← hspec.durationMs, ← timedMs_rollupSuiteTiming, hrolled, timedMs_some]
        _ ≤ (rows.map fun row => timedMs row.timing).sum := hsums
        _ ≤ outer.durationMs := hsum

/-- Rows timed along some of a call's calls lie within it, and so do their summaries. -/
theorem TimedRows.rowsWithin (h : TimedRows platform inner rows)
    (houter : outer.Covers platform trace) (hinside : inner <:+: trace)
    (hclocks : ClocksForward platform trace) (suites : List VerificationSuite) :
    RowsWithin outer rows (foldCheckResults rows suites).summaries := by
  have hinner := hclocks.of_infix hinside
  have heach := h.includes houter hinside hclocks
  have hsum : (rows.map fun row => timedMs row.timing).sum ≤ outer.durationMs := by
    rw [houter.durationMs]
    exact (h.sum_le hinner).trans
      (span_part_le hclocks.mono (infix_monoReadings hinside))
  refine ⟨heach, h.inTurn hinner, ?_, sum_summaries rows suites⟩
  intro summary hsummary
  rcases mem_summaries_iff.mp hsummary with ⟨row, hrow, rfl⟩
  have hmem : row ∈ rowsOf row.suite rows := by simp [rowsOf, hrow]
  exact includesSome_rollup List.filter_sublist (List.ne_nil_of_mem hmem) heach hsum

end

/-! ## Credentials -/

/-- A timed verification is covered by its timing, its rows are timed along some of its
calls, and they are folded into its summaries. -/
theorem executes_verifyCredential_timed {platform : Platform} {config : VerifierConfig}
    {lookupIssuers : LookupIssuers} {call : VerifyCredentialCall} {trace : List PortEvent}
    {result : CredentialVerificationResult}
    (htimed : (call.timing.or config.timing).getD false = true)
    (h : Executes (verifyCredentialWith platform config lookupIssuers call) trace result) :
    ∃ timing inner suites, result.timing = some timing ∧ timing.Covers platform trace ∧
      inner <:+: trace ∧ TimedRows platform inner result.results ∧
      result.summary = (foldCheckResults result.results suites).summaries := by
  unfold verifyCredentialWith at h
  dsimp only at h
  rw [htimed] at h
  rcases executes_bind_iff.mp h with ⟨first, rest, topLevel, rfl, hstart, hrest⟩
  cases hparse : parseCredential call.credential with
  | cons message messages =>
      simp only [hparse] at hrest
      rcases executes_bind_iff.mp hrest with ⟨middle, last, failed, rfl, hfailed, hfinal⟩
      rcases executes_bind_iff.mp hfinal with ⟨finishing, _, timing, rfl, hfinish, hpure⟩
      rcases executes_pure_iff.mp hpure with ⟨rfl, rfl⟩
      rcases executes_bind_iff.mp hfailed with ⟨checking, _, check, rfl, hcheck, hreturn⟩
      rcases executes_pure_iff.mp hreturn with ⟨rfl, rfl⟩
      rcases covers_of_task checking hstart hfinish with ⟨timing', rfl, hcovers⟩
      refine ⟨timing', checking, [parsingSuite], rfl, by simpa using hcovers,
        ⟨first, finishing, by simp⟩, timedRows_syntheticResult hcheck, rfl⟩
  | nil =>
      simp only [hparse] at hrest
      rcases executes_ask_bind_iff.mp hrest with ⟨nowMs, later, rfl, hlater⟩
      rcases executes_bind_iff.mp hlater with ⟨running, last, ran, rfl, hran, hfinal⟩
      rcases executes_bind_iff.mp hfinal with ⟨finishing, _, timing, rfl, hfinish, hpure⟩
      rcases executes_pure_iff.mp hpure with ⟨rfl, rfl⟩
      rcases covers_of_task (⟨.dateNowMs, nowMs⟩ :: running) hstart hfinish with
        ⟨timing', rfl, hcovers⟩
      refine ⟨timing', running, defaultSuites platform ++ call.additionalSuites.getD [], rfl,
        by simpa using hcovers, ⟨first ++ [⟨.dateNowMs, nowMs⟩], finishing, by simp⟩, ?_, ?_⟩
      · simp only [credentialResult, results_foldCheckResults]
        exact timedRows_runSuites rfl hran
      · simp only [credentialResult, results_foldCheckResults]

/-- A result that is timed along its calls is inclusive when the clocks run forward. -/
theorem inclusive_of_timed {platform : Platform} {trace inner : List PortEvent}
    {result : CredentialVerificationResult} {timing : TaskTiming} {suites : List VerificationSuite}
    (hclocks : ClocksForward platform trace) (htiming : result.timing = some timing)
    (hcovers : timing.Covers platform trace) (hinside : inner <:+: trace)
    (hrows : TimedRows platform inner result.results)
    (hsummary : result.summary = (foldCheckResults result.results suites).summaries) :
    result.Inclusive timing := by
  refine ⟨htiming, hcovers.forward hclocks, ?_, ?_⟩
  · rw [hsummary]
    exact hrows.rowsWithin hcovers hinside hclocks suites
  · rw [hcovers.durationMs]
    exact (hrows.sum_le (hclocks.of_infix hinside)).trans
      (span_part_le hclocks.mono (infix_monoReadings hinside))

/-- When the clocks do not go back, the timing of a timed result includes its rows, which
follow each other, and its summaries, and takes at least as long as all of them. -/
theorem verifyCredential_inclusive {platform : Platform} {config : VerifierConfig} {depth : Nat}
    {call : VerifyCredentialCall} {trace : List PortEvent} {result : CredentialVerificationResult}
    (htimed : (call.timing.or config.timing).getD false = true)
    (hclocks : ClocksForward platform trace)
    (h : Executes ((createVerifier platform config depth).verifyCredential call) trace result) :
    ∃ timing, result.Inclusive timing := by
  rw [createVerifier_verifyCredential] at h
  rcases executes_verifyCredential_timed htimed h with
    ⟨timing, inner, suites, htiming, hcovers, hinside, hrows, hsummary⟩
  exact ⟨timing, inclusive_of_timed hclocks htiming hcovers hinside hrows hsummary⟩

/-! ### A badge under ticking clocks -/

namespace TickingBadge

/-- The texts of the instants the wall clock shows. -/
def instants : List (ℚ × String) :=
  [(0, "1970-01-01T00:00:00.000Z"), (1, "1970-01-01T00:00:00.001Z"),
    (2, "1970-01-01T00:00:00.002Z")]

/-- The runtime of the badge, which knows these texts. -/
def platform : Platform :=
  PlatformTable.platform { urls := ["did:example:issuer"], instants := instants }

/-- Time goes on by a thirtieth of a millisecond with each reading, and the wall clock shows
whole ones.  The service accepts the badge. -/
def environment (ticks : Nat) : (port : Port) → port.Answer × Nat
  | .dateNowMs => (((ticks / 30 : Nat) : ℚ), ticks + 1)
  | .performanceNowMs => ((ticks : ℚ) / 30, ticks + 1)
  | .canVerify .. => (.ok true, ticks)
  | .verifyCredential .. => (.ok (.verified none), ticks)
  | .verifyPresentation .. => (.error .null, ticks)
  | .cacheGet _ => (none, ticks)
  | .cacheSet .. => ((), ticks)
  | .httpGet _ => (.error .null, ticks)
  | .loadStatusLists _ => ([], ticks)
  | .readStatusLists .. => (.error ⟨.null, none⟩, ticks)

/-- The badge, verified with a clock that ticks at every reading. -/
def credentialRun : CredentialVerificationResult × List PortEvent × Nat :=
  ((createVerifier platform BadgePresentation.config 0).verifyCredential
    TimedBadge.credentialCall).interpret environment 0

/-- Its presentation, verified with the same clock. -/
def presentationRun : PresentationVerificationResult × List PortEvent × Nat :=
  (verifyPresentation platform BadgePresentation.config 0
    TimedBadge.presentationCall).interpret environment 0

end TickingBadge

/-- The timing of the ticking badge includes its rows. -/
theorem verifyCredential_inclusive_badge :
    TickingBadge.credentialRun.1.verified = true ∧
      ∃ timing, TickingBadge.credentialRun.1.Inclusive timing := by
  have hrun : TickingBadge.credentialRun.1.verified = true ∧
      (wallReadings TickingBadge.platform TickingBadge.credentialRun.2.1).Pairwise
        (fun earlier later => ¬later < earlier) ∧
      (monoReadings TickingBadge.credentialRun.2.1).Pairwise (· ≤ ·) := by
    decide +kernel
  exact ⟨hrun.1, verifyCredential_inclusive rfl ⟨hrun.2.1.imp not_lt.mp, hrun.2.2⟩
    (executes_interpret TickingBadge.environment _ 0)⟩

/-! ## Presentations -/

/-- The credentials were verified along consecutive parts of the calls. -/
def ResultsAlong (verify : Json → Async CredentialVerificationResult) (events : List PortEvent)
    (results : List CredentialVerificationResult) : Prop :=
  ∃ runs : List EmbeddedRun, runs.map EmbeddedRun.result = results ∧
    runs.flatMap EmbeddedRun.events = events ∧
    ∀ run ∈ runs, Executes (verify run.credential) run.events run.result

/-- Credentials verified in turn have their results along consecutive parts of the calls. -/
theorem resultsAlong_of_mapM {verify : Json → Async CredentialVerificationResult}
    {credentials : List Json} {events : List PortEvent}
    {results : List CredentialVerificationResult}
    (h : Executes (credentials.mapM verify) events results) : ResultsAlong verify events results := by
  rcases exists_runs_of_mapM EmbeddedRun.credential EmbeddedRun.events EmbeddedRun.result
    (P := fun run => Executes (verify run.credential) run.events run.result)
    (fun credential trace result hrun => ⟨⟨credential, trace, result⟩, hrun, rfl, rfl, rfl⟩) h with
    ⟨runs, _, hevents, hresults, hruns⟩
  exact ⟨runs, hresults, hevents, hruns⟩

/-- The timing of a result covers the calls, its rows are timed along some of them, and the
embedded credentials are verified along the ones behind. -/
def TimedAlong (platform : Platform) (verify : Json → Async CredentialVerificationResult)
    (trace : List PortEvent) (result : PresentationVerificationResult) : Prop :=
  ∃ timing inner embedded suites, result.timing = some timing ∧
    timing.Covers platform trace ∧ inner ++ embedded <:+: trace ∧
    TimedRows platform inner result.presentationResults ∧
    result.summary = (foldCheckResults result.presentationResults suites).summaries ∧
    ResultsAlong verify embedded result.credentialResults

/-- What a gate turns away has one timed row and no credentials. -/
theorem timedAlong_refused {platform : Platform} {presentation : Option Json}
    {verify : Json → Async CredentialVerificationResult} {suite : VerificationSuite}
    {checkId : String} {problem : ProblemDetail} {first rest : List PortEvent}
    {topLevel : Option InProgressTiming} {result : PresentationVerificationResult}
    (hstart : Executes (startIfTimed platform true) first topLevel)
    (hrest : Executes ((syntheticFailureResult platform suite checkId problem true >>=
        fun check => pure (f := Async)
          { verified := false
            verifiablePresentation := presentation
            presentationResults := [check]
            credentialResults := []
            summary := syntheticFailureSummary check suite }) >>= fun unfinished =>
      finalizePresentationResult platform unfinished topLevel) rest result) :
    TimedAlong platform verify (first ++ rest) result := by
  rcases executes_bind_iff.mp hrest with ⟨middle, last, failed, rfl, hfailed, hfinal⟩
  rcases executes_bind_iff.mp hfinal with ⟨finishing, _, timing, rfl, hfinish, hpure⟩
  rcases executes_pure_iff.mp hpure with ⟨rfl, rfl⟩
  rcases executes_bind_iff.mp hfailed with ⟨checking, _, check, rfl, hcheck, hreturn⟩
  rcases executes_pure_iff.mp hreturn with ⟨rfl, rfl⟩
  rcases covers_of_task checking hstart hfinish with ⟨timing', rfl, hcovers⟩
  exact ⟨timing', checking, [], [suite], rfl, by simpa using hcovers,
    ⟨first, finishing, by simp⟩, timedRows_syntheticResult hcheck, rfl, [], rfl, rfl, by simp⟩

/-- A timed verification of a presentation is timed along its calls. -/
theorem executes_verifyPresentation_timed {platform : Platform} {config : VerifierConfig}
    {lookupIssuers : LookupIssuers} {verifier : Verifier} {call : VerifyPresentationCall}
    {trace : List PortEvent} {result : PresentationVerificationResult}
    (htimed : (call.timing.or config.timing).getD false = true)
    (h : Executes (verifyPresentationWith platform config lookupIssuers verifier call) trace
      result) :
    TimedAlong platform
      (fun credential => verifier.verifyCredential (embeddedCall call true credential)) trace
      result := by
  unfold verifyPresentationWith at h
  dsimp only at h
  rw [htimed] at h
  rcases executes_bind_iff.mp h with ⟨first, rest, topLevel, rfl, hstart, hrest⟩
  cases hparse : parsePresentation call.presentation with
  | cons message messages =>
      simp only [hparse] at hrest
      exact timedAlong_refused hstart hrest
  | nil =>
      cases hoptions : invalidChallengeOptions call with
      | some problem =>
          simp only [hparse, hoptions] at hrest
          exact timedAlong_refused hstart hrest
      | none =>
          simp only [hparse, hoptions] at hrest
          rcases executes_ask_bind_iff.mp hrest with ⟨nowMs, later, rfl, hlater⟩
          rcases executes_bind_iff.mp hlater with ⟨running, behind, ran, rfl, hran, hbehind⟩
          rcases executes_bind_iff.mp hbehind with ⟨embedded, last, results, rfl, hembedded, hfinal⟩
          rcases executes_bind_iff.mp hfinal with ⟨finishing, _, timing, rfl, hfinish, hpure⟩
          rcases executes_pure_iff.mp hpure with ⟨rfl, rfl⟩
          rcases covers_of_task (⟨.dateNowMs, nowMs⟩ :: (running ++ embedded)) hstart
            hfinish with ⟨timing', rfl, hcovers⟩
          refine ⟨timing', running, embedded, presentationSuites platform call, rfl,
            by simpa using hcovers, ⟨first ++ [⟨.dateNowMs, nowMs⟩], finishing, by simp⟩, ?_, ?_,
            resultsAlong_of_mapM hembedded⟩
          · simp only [presentationResult, results_foldCheckResults]
            exact timedRows_runSuites rfl hran
          · simp only [presentationResult, results_foldCheckResults]

/-- The timing of an embedded credential is inclusive, covers the calls of its verification
and lies within a timing that covers these. -/
theorem inclusive_embedded {platform : Platform} {config : VerifierConfig} {depth : Nat}
    {call : VerifyPresentationCall} {run : EmbeddedRun}
    (hrun : Executes ((createVerifier platform config depth).verifyCredential
      (embeddedCall call true run.credential)) run.events run.result)
    {trace : List PortEvent} (hinside : run.events <:+: trace)
    (hclocks : ClocksForward platform trace) {timing : TaskTiming}
    (hcovers : timing.Covers platform trace) :
    ∃ own, run.result.Inclusive own ∧ own.Covers platform run.events ∧ timing.Includes own := by
  rw [createVerifier_verifyCredential] at hrun
  rcases executes_verifyCredential_timed (by rfl) hrun with
    ⟨own, ownInner, ownSuites, hown, hownCovers, hownInside, hownRows, hownSummary⟩
  exact ⟨own, inclusive_of_timed (hclocks.of_infix hinside) hown hownCovers hownInside hownRows
    hownSummary, hownCovers, hcovers.includes hownCovers hinside hclocks⟩

/-- One after another, verifications take no longer than all of their calls. -/
theorem sum_timedMs_le_span {platform : Platform} {runs : List EmbeddedRun}
    (hclocks : ClocksForward platform (runs.flatMap EmbeddedRun.events))
    (htimed : ∀ run ∈ runs, ∃ own, run.result.timing = some own ∧
      own.Covers platform run.events) :
    (runs.map fun run => timedMs run.result.timing).sum ≤
      span (monoReadings (runs.flatMap EmbeddedRun.events)) := by
  have hspans : (runs.map fun run => timedMs run.result.timing) =
      (runs.map fun run => monoReadings run.events).map span := by
    rw [List.map_map]
    apply List.map_congr_left
    intro run hrun
    rcases htimed run hrun with ⟨own, hown, hcovers⟩
    simp only [Function.comp_apply, hown, timedMs_some]
    exact hcovers.durationMs
  have hmono := hclocks.mono
  rw [monoReadings_flatMap] at hmono ⊢
  rw [hspans]
  exact sum_span_le hmono

/-- The timing of a presentation's result also includes the embedded credentials, and takes
at least as long as its own rows and all of these. -/
theorem verifyPresentation_inclusive {platform : Platform} {config : VerifierConfig}
    {depth : Nat} {call : VerifyPresentationCall} {trace : List PortEvent}
    {result : PresentationVerificationResult}
    (htimed : (call.timing.or config.timing).getD false = true)
    (hclocks : ClocksForward platform trace)
    (h : Executes (verifyPresentation platform config depth call) trace result) :
    ∃ timing, result.Inclusive timing := by
  rcases executes_verifyPresentation_timed htimed h with
    ⟨timing, inner, embedded, suites, htiming, hcovers, hinside, hrows, hsummary, runs, hresults,
      rfl, hruns⟩
  have hinner : inner <:+: trace := (List.prefix_append inner _).isInfix.trans hinside
  have hembedded : runs.flatMap EmbeddedRun.events <:+: trace :=
    (List.suffix_append inner _).isInfix.trans hinside
  have heach : ∀ run ∈ runs, ∃ own, run.result.Inclusive own ∧ own.Covers platform run.events ∧
      timing.Includes own := by
    intro run hrun
    exact inclusive_embedded (hruns run hrun)
      ((infix_flatMap hrun EmbeddedRun.events).trans hembedded) hclocks hcovers
  have hcredentials := sum_timedMs_le_span (hclocks.of_infix hembedded) (by
    intro run hrun
    rcases heach run hrun with ⟨own, hown, hownCovers, _⟩
    exact ⟨own, hown.timing_eq, hownCovers⟩)
  refine ⟨timing, htiming, hcovers.forward hclocks, ?_, ?_, ?_⟩
  · rw [hsummary]
    exact hrows.rowsWithin hcovers hinner hclocks suites
  · intro credential hcredential
    rw [← hresults] at hcredential
    rcases List.mem_map.mp hcredential with ⟨run, hrun, rfl⟩
    rcases heach run hrun with ⟨own, hown, _, hincludes⟩
    exact ⟨own, hown, hincludes⟩
  · have hboth := (hclocks.of_infix hinside).mono
    rw [hsummary, sum_summaries, hcovers.durationMs, ← hresults, List.map_map]
    rw [monoReadings_append] at hboth
    calc (result.presentationResults.map fun row => timedMs row.timing).sum +
          (runs.map fun run => timedMs run.result.timing).sum
        ≤ span (monoReadings inner) + span (monoReadings (runs.flatMap EmbeddedRun.events)) :=
          add_le_add (hrows.sum_le (hclocks.of_infix hinner)) hcredentials
      _ ≤ span (monoReadings inner ++ monoReadings (runs.flatMap EmbeddedRun.events)) :=
          span_add_le hboth
      _ ≤ span (monoReadings trace) := by
          rw [← monoReadings_append]
          exact span_part_le hclocks.mono (infix_monoReadings hinside)

/-- The timing of its presentation includes the badge. -/
theorem verifyPresentation_inclusive_badge :
    TickingBadge.presentationRun.1.verified = true ∧
      ∃ timing, TickingBadge.presentationRun.1.Inclusive timing := by
  have hrun : TickingBadge.presentationRun.1.verified = true ∧
      (wallReadings TickingBadge.platform TickingBadge.presentationRun.2.1).Pairwise
        (fun earlier later => ¬later < earlier) ∧
      (monoReadings TickingBadge.presentationRun.2.1).Pairwise (· ≤ ·) := by
    decide +kernel
  exact ⟨hrun.1, verifyPresentation_inclusive rfl ⟨hrun.2.1.imp not_lt.mp, hrun.2.2⟩
    (executes_interpret TickingBadge.environment _ 0)⟩

end VerifierCore
