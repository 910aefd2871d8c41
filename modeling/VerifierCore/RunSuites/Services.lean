import VerifierCore.RunSuites.Report

/-!
# The services a run uses

A run calls the clocks and whatever its checks call, and depends on its context
only as far as its checks do.

Main results:

- Theorem {lit}`confined_runSuites`: a run is confined to what its checks are
  confined to, and the clocks.
- Theorem {lit}`runSuites_congr`: two contexts that the checks cannot tell apart
  give the same run.
-/

namespace VerifierCore

open Foundations Program

section Confinement

variable {P : Port → Prop} (hclock : ∀ port : Port, port.IsClock → P port)

include hclock

theorem confined_startIfTimed (platform : Platform) (timing : Bool) :
    (startIfTimed platform timing).Confined P := by
  unfold startIfTimed
  split_ifs
  · exact ((confined_startTaskTiming platform).mono hclock).map _
  · exact confined_pure _

theorem confined_finishIfStarted (platform : Platform) (started : Option InProgressTiming) :
    (finishIfStarted platform started).Confined P := by
  cases started with
  | none => exact confined_pure _
  | some started => exact ((confined_finishTaskTiming platform started).mono hclock).map _

theorem confined_syntheticResult (platform : Platform) (suite : VerificationSuite)
    (checkId : String) (outcome : CheckOutcome) (fatal halts : Option Bool) (timing : Bool) :
    (syntheticResult platform suite checkId outcome fatal halts timing).Confined P := by
  apply Confined.bind (confined_startIfTimed hclock platform timing)
  intro started
  apply Confined.bind (confined_finishIfStarted hclock platform started)
  intro taskTiming
  exact confined_pure _

theorem confined_runCheck {platform : Platform} {suite : VerificationSuite}
    {subject : VerificationSubject} {context : VerificationContext} {check : VerificationCheck}
    (hcheck : ∀ store, (check.execute subject context store).Confined P) (state : RunState) :
    (runCheck platform suite subject context check state).Confined P := by
  unfold runCheck
  split_ifs
  · exact confined_pure _
  · split
    · apply Confined.bind (confined_syntheticResult hclock _ _ _ _ _ _ _)
      intro row
      exact confined_pure _
    · apply Confined.bind (confined_startIfTimed hclock _ _)
      intro taskTiming
      apply Confined.bind (hcheck _)
      intro executed
      apply Confined.bind (confined_finishIfStarted hclock _ _)
      intro finishedTiming
      exact confined_pure _

theorem confined_runSuite {platform : Platform} {subject : VerificationSubject}
    {context : VerificationContext} {options : RunSuitesOptions} {suite : VerificationSuite}
    (hchecks : ∀ check ∈ suite.checks, ∀ store, (check.execute subject context store).Confined P)
    (state : RunState) :
    (runSuite platform subject context options suite state).Confined P := by
  unfold runSuite
  by_cases hphases : suiteRunsInPhases suite options.phases = true
  · rw [if_neg (by simp [hphases])]
    split
    · apply Confined.bind (confined_syntheticResult hclock _ _ _ _ _ _ _)
      intro row
      exact confined_pure _
    · by_cases hexplicit : suite.id ∈ options.explicitSuiteIds
      · rw [if_pos hexplicit]
        apply Confined.bind (confined_syntheticResult hclock _ _ _ _ _ _ _)
        intro row
        exact confined_pure _
      · rw [if_neg hexplicit]
        exact confined_pure _
    · apply confined_collect
      intro check hmem next
      exact confined_runCheck hclock (hchecks check hmem) next
  · rw [if_pos (by simp [hphases])]
    exact confined_pure _

/-- A run calls the clocks and what its checks call. -/
theorem confined_runSuites {platform : Platform} {suites : List VerificationSuite}
    {subject : VerificationSubject} {context : VerificationContext} {options : RunSuitesOptions}
    (hchecks : ∀ suite ∈ suites, ∀ check ∈ suite.checks, ∀ store,
      (check.execute subject context store).Confined P)
    (store : ContextStore) :
    (runSuites platform suites subject context options store).Confined P := by
  apply Confined.bind
  · apply confined_collect
    intro suite hmem state
    exact confined_runSuite hclock (hchecks suite hmem) state
  · intro run
    exact confined_pure _

end Confinement

/-- Contexts with the same timing that no check and no predicate can tell apart
give the same run. -/
theorem runSuites_congr {platform : Platform} {suites : List VerificationSuite}
    {subject : VerificationSubject} {context context' : VerificationContext}
    {options : RunSuitesOptions} (htiming : context.timing = context'.timing)
    (happlies : ∀ suite ∈ suites,
      evaluateApplies suite subject context = evaluateApplies suite subject context')
    (hchecks : ∀ suite ∈ suites, ∀ check ∈ suite.checks, ∀ store,
      check.execute subject context store = check.execute subject context' store)
    (store : ContextStore) :
    runSuites platform suites subject context options store =
      runSuites platform suites subject context' options store := by
  have hsuites : collect (runSuite platform subject context options) suites { store := store } =
      collect (runSuite platform subject context' options) suites { store := store } := by
    apply collect_congr
    intro suite hsuite state
    have hloop : collect (runCheck platform suite subject context) suite.checks state =
        collect (runCheck platform suite subject context') suite.checks state := by
      apply collect_congr
      intro check hcheck next
      simp only [runCheck, htiming, hchecks suite hsuite check hcheck]
    simp only [runSuite, htiming, happlies suite hsuite, hloop]
  rw [runSuites, hsuites]
  rfl

end VerifierCore
