import VerifierCore.RunSuites.Report

/-!
# Grouping checks into suites

What a run finds depends on the checks in their order.  How they are grouped into suites
shows in the names of the rows only.

Main results:

- Theorem {lit}`unnamed_collect_runSuite`: a run over suites, seen without names, is one loop
  over their checks.
- Theorem {lit}`collect_runSuite_regroup`: suites with the same checks run alike.
-/

namespace VerifierCore

open Foundations Program

/-! ## Rows without names -/

/-- A row without the names that its suite gives it. -/
def CheckResult.unnamed (row : CheckResult) : CheckResult :=
  { row with id := "", suite := "" }

/-- The rows of a run without their names, and what else it leaves. -/
def unnamedRun {σ : Type} (run : List CheckResult × σ) : List CheckResult × σ :=
  (run.1.map CheckResult.unnamed, run.2)

/-- Rows without a name tell whether one failed fatally. -/
theorem hasFatalFailures_map_unnamed (rows : List CheckResult) :
    hasFatalFailures (rows.map CheckResult.unnamed) = hasFatalFailures rows := by
  rw [hasFatalFailures, List.any_map]
  rfl

/-- Rows that differ in their names alone fail a subject alike. -/
theorem hasFatalFailures_congr {rows rows' : List CheckResult}
    (h : rows.map CheckResult.unnamed = rows'.map CheckResult.unnamed) :
    hasFatalFailures rows = hasFatalFailures rows' := by
  rw [← hasFatalFailures_map_unnamed, h, hasFatalFailures_map_unnamed]

section

variable {platform : Platform} {subject : VerificationSubject} {context : VerificationContext}

/-- A check is run in one suite as in another. -/
theorem unnamed_runCheck (suite other : VerificationSuite) (check : VerificationCheck)
    (state : RunState) :
    unnamedRun <$> runCheck platform suite subject context check state =
      unnamedRun <$> runCheck platform other subject context check state := by
  unfold runCheck
  by_cases hadmitted : (check.appliesTo.isSome && !appliesToSubject check subject) = true
  · rw [if_pos hadmitted, if_pos hadmitted]
  · rw [if_neg hadmitted, if_neg hadmitted]
    cases state.haltedBy with
    | some haltedBy =>
        simp only [syntheticResult, bind_assoc, pure_bind, map_bind, map_pure]
        rfl
    | none =>
        simp only [map_bind, map_pure]
        rfl

/-! ## Suites that apply -/

/-- The suites of a list that run in the phases. -/
def suitesInPhases (suites : List VerificationSuite) (phases : Option (List SuitePhase)) :
    List VerificationSuite :=
  suites.filter fun suite => suiteRunsInPhases suite phases

/-- The checks that a run over some suites goes through. -/
def checksInPhases (suites : List VerificationSuite) (phases : Option (List SuitePhase)) :
    List VerificationCheck :=
  (suitesInPhases suites phases).flatMap VerificationSuite.checks

/-- The predicates of the suites that run in the phases hold of the subject. -/
def AllApply (suites : List VerificationSuite) (subject : VerificationSubject)
    (context : VerificationContext) (phases : Option (List SuitePhase)) : Prop :=
  ∀ suite ∈ suitesInPhases suites phases, evaluateApplies suite subject context = .ok true

theorem unnamedRun_collect {α σ : Type} {body : α → σ → Async (List CheckResult × σ)}
    (items : List α) (state : σ) :
    unnamedRun <$> collect body items state =
      collect (fun item state => unnamedRun <$> body item state) items state :=
  map_collect CheckResult.unnamed items state

/-- Suites outside the phases leave no row. -/
theorem collect_suitesInPhases {options : RunSuitesOptions} (suites : List VerificationSuite)
    (state : RunState) :
    collect (runSuite platform subject context options) suites state =
      collect (runSuite platform subject context options) (suitesInPhases suites options.phases)
        state := by
  induction suites generalizing state with
  | nil => rfl
  | cons suite suites ih =>
      by_cases hphases : suiteRunsInPhases suite options.phases = true
      · have hkept : suitesInPhases (suite :: suites) options.phases =
            suite :: suitesInPhases suites options.phases := by simp [suitesInPhases, hphases]
        simp only [hkept, collect, ih]
      · have hpassed : runSuite platform subject context options suite state = pure ([], state) := by
          simp [runSuite, hphases]
        have hdropped : suitesInPhases (suite :: suites) options.phases =
            suitesInPhases suites options.phases := by simp [suitesInPhases, hphases]
        simp only [hdropped, collect, hpassed, pure_bind, ih, List.nil_append, Prod.mk.eta, bind_pure]

/-- A run over suites that apply, seen without names, is one loop over their checks. -/
theorem unnamed_collect_runSuite {options : RunSuitesOptions} {suites : List VerificationSuite}
    (happlies : AllApply suites subject context options.phases) (any : VerificationSuite)
    (state : RunState) :
    unnamedRun <$> collect (runSuite platform subject context options) suites state =
      collect (fun check state => unnamedRun <$> runCheck platform any subject context check state)
        (checksInPhases suites options.phases) state := by
  rw [collect_suitesInPhases, unnamedRun_collect, checksInPhases, ← collect_flatMap]
  apply collect_congr
  intro suite hsuite state
  have hphases : suiteRunsInPhases suite options.phases = true := (List.mem_filter.mp hsuite).2
  rw [runSuite_eq_collect hphases (happlies suite hsuite), unnamedRun_collect]
  apply collect_congr
  intro check _ state
  exact unnamed_runCheck suite any check state

/-- The loops over suites that apply and have the same checks, seen without names. -/
theorem collect_runSuite_regroup {suites others : List VerificationSuite}
    {options options' : RunSuitesOptions} (hphases : options.phases = options'.phases)
    (happlies : AllApply suites subject context options.phases)
    (happlies' : AllApply others subject context options.phases)
    (hchecks : checksInPhases suites options.phases = checksInPhases others options.phases)
    (state : RunState) :
    unnamedRun <$> collect (runSuite platform subject context options) suites state =
      unnamedRun <$> collect (runSuite platform subject context options') others state := by
  rw [unnamed_collect_runSuite happlies { id := "", checks := [] } state, hchecks]
  rw [hphases] at happlies' ⊢
  rw [unnamed_collect_runSuite happlies' { id := "", checks := [] } state]

end

end VerifierCore
