import VerifierCore.OpenBadges.Zod
import VerifierCore.Suites.Pointers

/-!
# Semantic checks on results

The cross-field checks on the results of an Open Badge.  They parse the whole subject under
tolerant shapes first, and then look at the results one by one.

Main results:

- Theorem {lit}`ResultRule.problems_outcome`: the problems of a check are those of the
  single results, where the subject parses.
- Theorem {lit}`ResultRule.problems_outcome_of_malformed`: elsewhere it reports nothing.
-/

namespace VerifierCore

open Foundations

/-! ## Tolerant shapes -/

/-- A level of a rubric, as far as it is read. -/
structure RubricCriterionLevel where
  id : Option String

/-- A result description, as far as it is read. -/
structure Obv3ResultDescription where
  id : Option String
  resultType : Option String
  rubricCriterionLevel : Option (List RubricCriterionLevel)

/-- A result, as far as it is read. -/
structure Obv3Result where
  resultDescription : Option String
  achievedLevel : Option String
  status : Option String

/-- An achievement, as far as it is read. -/
structure Obv3Achievement where
  achievementType : Option Json
  resultDescription : Option (List Obv3ResultDescription)

/-- The subject of a badge, as far as it is read. -/
structure Obv3CredentialSubject where
  achievement : Option Obv3Achievement
  result : Option (List Obv3Result)

section Shapes

open Zod

/-- The shape of a level. -/
def rubricCriterionLevelShape : Schema RubricCriterionLevel :=
  object fun value => (field value "id" (optional string)).map RubricCriterionLevel.mk

/-- The shape of a result description. -/
def obv3ResultDescriptionShape : Schema Obv3ResultDescription :=
  object fun value =>
    (((field value "id" (optional string)).map Obv3ResultDescription.mk).seq
      (field value "resultType" (optional string))).seq
        (field value "rubricCriterionLevel" (optional (array rubricCriterionLevelShape)))

/-- The shape of a result. -/
def obv3ResultShape : Schema Obv3Result :=
  object fun value =>
    (((field value "resultDescription" (optional string)).map Obv3Result.mk).seq
      (field value "achievedLevel" (optional string))).seq
        (field value "status" (optional string))

/-- The shape of an achievement. -/
def obv3AchievementShape : Schema Obv3Achievement :=
  object fun value =>
    ((field value "achievementType" unknown).map Obv3Achievement.mk).seq
      (field value "resultDescription" (optional (array obv3ResultDescriptionShape)))

/-- The shape of the subject; one part of another shape makes the whole parse fail. -/
def obv3CredentialSubjectShape : Schema Obv3CredentialSubject :=
  object fun value =>
    ((field value "achievement" (optional obv3AchievementShape)).map
      Obv3CredentialSubject.mk).seq
        (field value "result" (optional (array obv3ResultShape)))

end Shapes

/-! ## Problem types -/

namespace Obv3ProblemTypes

def obInvalidResultReference := problemType "OB_INVALID_RESULT_REFERENCE"
def obInvalidAchievedLevel := problemType "OB_INVALID_ACHIEVED_LEVEL"
def obMissingResultStatus := problemType "OB_MISSING_RESULT_STATUS"

end Obv3ProblemTypes

/-! ## The checks -/

/-- The parsed subject's results; the checks are skipped without any. -/
def onResults (subject : VerificationSubject)
    (outcome : Obv3CredentialSubject → List Obv3Result → CheckOutcome) : CheckOutcome :=
  match subject.verifiableCredential.filter Json.truthy with
  | none => .skipped "No verifiable credential found in subject."
  | some credential =>
      match (obv3CredentialSubjectShape (credential.get? "credentialSubject")).accepted with
      | none => .skipped "Credential has no credentialSubject.result field."
      | some parsed =>
          match parsed.result.getD [] with
          | [] => .skipped "Credential has no credentialSubject.result field."
          | results => outcome parsed results

/-- The parsed descriptions of the achievement. -/
def Obv3CredentialSubject.descriptions (subject : Obv3CredentialSubject) :
    List Obv3ResultDescription :=
  (subject.achievement.bind Obv3Achievement.resultDescription).getD []

/-- Two of the checks are skipped without descriptions. -/
def onDescriptions (subject : VerificationSubject)
    (outcome : List Obv3ResultDescription → List Obv3Result → CheckOutcome) : CheckOutcome :=
  onResults subject fun parsed results =>
    match parsed.descriptions with
    | [] => .skipped "Credential has no achievement.resultDescription[] to validate against."
    | descriptions => outcome descriptions results

/-- The problems of the results, each looked at with its index, or a message without any. -/
def resultsOutcome (problem : Obv3Result → Nat → Option ProblemDetail) (message : String)
    (results : List Obv3Result) : CheckOutcome :=
  match results.zipIdx.filterMap fun entry => problem entry.1 entry.2 with
  | [] => .success message
  | problems => .failure problems

/-! ### References -/

/-- A result refers to a description that the achievement does not have. -/
def resultRefProblem (knownIds : List String) (entry : Obv3Result) (index : Nat) :
    Option ProblemDetail :=
  match entry.resultDescription with
  | none => none
  | some ref =>
      if ref ∈ knownIds then none
      else
        some
          { type := Obv3ProblemTypes.obInvalidResultReference
            title := "Invalid Result Reference"
            detail := s!"Result entry at index {index} references ResultDescription id \"{ref}\" which does not exist in achievement.resultDescription"
            instance? := some (formatJsonPointer
              [.name "credentialSubject", .name "result", .index index,
                .name "resultDescription"]) }

/-- The outcome of the rule on references. -/
def obv3ResultRefOutcome (subject : VerificationSubject) : CheckOutcome :=
  onResults subject fun parsed results =>
    resultsOutcome (resultRefProblem (parsed.descriptions.filterMap fun rd => rd.id))
      s!"All {results.length} result entries reference valid ResultDescription IDs." results

/-- The check of the references of results. -/
def obv3ResultRefCheck : VerificationCheck where
  id := "schema.obv3.result-ref"
  fatal := some false
  appliesTo := some [.verifiableCredential]
  execute := pureBody fun subject _ => .ok (obv3ResultRefOutcome subject)

/-! ### Levels -/

/-- The ids of the levels of each description that has an id and such levels. -/
def levelsByRdId (descriptions : List Obv3ResultDescription) : List (String × List String) :=
  descriptions.filterMap fun rd =>
    match rd.id with
    | none => none
    | some id =>
        match ((rd.rubricCriterionLevel.getD []).filterMap fun level => level.id).eraseDups with
        | [] => none
        | levelIds => some (id, levelIds)

/-- The entry of a map that was set last. -/
def mapGet (entries : List (String × List String)) (key : String) : Option (List String) :=
  entries.reverse.lookup key

/-- A result claims a level that its description does not have. -/
def achievedLevelProblem (levels : List (String × List String)) (entry : Obv3Result)
    (index : Nat) : Option ProblemDetail :=
  match entry.achievedLevel, entry.resultDescription with
  | some achievedLevel, some ref =>
      let problem (detail : String) : ProblemDetail :=
        { type := Obv3ProblemTypes.obInvalidAchievedLevel
          title := "Invalid Achieved Level"
          detail := detail
          instance? := some (formatJsonPointer
            [.name "credentialSubject", .name "result", .index index, .name "achievedLevel"]) }
      match mapGet levels ref with
      | none => some (problem
          s!"Result entry at index {index} claims achievedLevel \"{achievedLevel}\", but the referenced ResultDescription \"{ref}\" declares no rubricCriterionLevel entries.")
      | some validLevels =>
          if achievedLevel ∈ validLevels then none
          else
            let validList := join ", " validLevels
            some (problem
              s!"Result entry at index {index} claims achievedLevel \"{achievedLevel}\" which is not declared in the referenced ResultDescription \"{ref}\" (valid levels: {validList}).")
  | _, _ => none

/-- The outcome of the rule on levels. -/
def obv3AchievedLevelOutcome (subject : VerificationSubject) : CheckOutcome :=
  onDescriptions subject fun descriptions results =>
    let checkedCount := results.countP fun entry =>
      entry.achievedLevel.isSome && entry.resultDescription.isSome
    resultsOutcome (achievedLevelProblem (levelsByRdId descriptions))
      (if checkedCount = 0 then "No result entries declare achievedLevel; nothing to validate."
        else s!"All {checkedCount} achievedLevel values reference valid RubricCriterionLevel ids.")
      results

/-- The check of the levels of results. -/
def obv3AchievedLevelCheck : VerificationCheck where
  id := "schema.obv3.achieved-level"
  fatal := some false
  appliesTo := some [.verifiableCredential]
  execute := pureBody fun subject _ => .ok (obv3AchievedLevelOutcome subject)

/-! ### Statuses -/

/-- The ids of the descriptions of type `Status`. -/
def statusTypedRdIds (descriptions : List Obv3ResultDescription) : List String :=
  descriptions.filterMap fun rd => if rd.resultType = some "Status" then rd.id else none

/-- A result of a description of type `Status` has no status. -/
def missingStatusProblem (statusTyped : List String) (entry : Obv3Result) (index : Nat) :
    Option ProblemDetail :=
  match entry.resultDescription with
  | none => none
  | some ref =>
      if ref ∉ statusTyped then none
      else if entry.status.getD "" = "" then
        some
          { type := Obv3ProblemTypes.obMissingResultStatus
            title := "Missing Result Status"
            detail := s!"Result entry at index {index} references a Status-typed ResultDescription \"{ref}\" but is missing a non-empty status value."
            instance? := some (formatJsonPointer
              [.name "credentialSubject", .name "result", .index index]) }
      else none

/-- The outcome of the rule on statuses. -/
def obv3MissingResultStatusOutcome (subject : VerificationSubject) : CheckOutcome :=
  onDescriptions subject fun descriptions results =>
    match statusTypedRdIds descriptions with
    | [] => .success
        "No Status-typed ResultDescription found; missing-result-status check is not applicable."
    | statusTyped =>
        let checkedCount := results.countP fun entry =>
          entry.resultDescription.any fun ref => ref ∈ statusTyped
        resultsOutcome (missingStatusProblem statusTyped)
          s!"All {checkedCount} Status-typed result entries carry a status value." results

/-- The check of the statuses of results. -/
def obv3MissingResultStatusCheck : VerificationCheck where
  id := "schema.obv3.missing-result-status"
  fatal := some false
  appliesTo := some [.verifiableCredential]
  execute := pureBody fun subject _ => .ok (obv3MissingResultStatusOutcome subject)

/-! ## The problems of the rules -/

/-- The rules on results. -/
inductive ResultRule where
  | resultRef
  | achievedLevel
  | missingStatus
deriving DecidableEq

namespace ResultRule

/-- The outcome of a rule's check. -/
def outcome : ResultRule → VerificationSubject → CheckOutcome
  | resultRef => obv3ResultRefOutcome
  | achievedLevel => obv3AchievedLevelOutcome
  | missingStatus => obv3MissingResultStatusOutcome

/-- What a rule says of one parsed result. -/
def problem (rule : ResultRule) (descriptions : List Obv3ResultDescription) (entry : Obv3Result)
    (index : Nat) : Option ProblemDetail :=
  match rule with
  | resultRef => resultRefProblem (descriptions.filterMap fun rd => rd.id) entry index
  | achievedLevel =>
      if descriptions = [] then none
      else achievedLevelProblem (levelsByRdId descriptions) entry index
  | missingStatus => missingStatusProblem (statusTypedRdIds descriptions) entry index

end ResultRule

/-- The problems an outcome reports. -/
def CheckOutcome.problems : CheckOutcome → List ProblemDetail
  | .failure problems _ => problems
  | _ => []

/-- An outcome reports the problems of the single results, in their order. -/
theorem problems_resultsOutcome (problem : Obv3Result → Nat → Option ProblemDetail)
    (message : String) (results : List Obv3Result) :
    (resultsOutcome problem message results).problems =
      results.zipIdx.filterMap fun entry => problem entry.1 entry.2 := by
  unfold resultsOutcome
  split
  · rename_i hnone
    exact hnone.symm
  · rfl

/-- A subject whose credential has a `credentialSubject` that parses. -/
theorem problems_onResults {subject : VerificationSubject} {credential : Json}
    {parsed : Obv3CredentialSubject}
    {outcome : Obv3CredentialSubject → List Obv3Result → CheckOutcome}
    {problem : Obv3Result → Nat → Option ProblemDetail}
    (hcredential : subject.verifiableCredential.filter Json.truthy = some credential)
    (hparsed : (obv3CredentialSubjectShape (credential.get? "credentialSubject")).accepted =
      some parsed)
    (houtcome : ∀ results, (outcome parsed results).problems =
      results.zipIdx.filterMap fun entry => problem entry.1 entry.2) :
    (onResults subject outcome).problems =
      (parsed.result.getD []).zipIdx.filterMap fun entry => problem entry.1 entry.2 := by
  unfold onResults
  rw [hcredential]
  dsimp only
  rw [hparsed]
  dsimp only
  split
  · rename_i hempty
    rw [hempty]
    rfl
  · exact houtcome _

/-- The problems of a rule are those of the single results. -/
theorem ResultRule.problems_outcome (rule : ResultRule) {subject : VerificationSubject}
    {credential : Json} {parsed : Obv3CredentialSubject}
    (hcredential : subject.verifiableCredential.filter Json.truthy = some credential)
    (hparsed : (obv3CredentialSubjectShape (credential.get? "credentialSubject")).accepted =
      some parsed) :
    (rule.outcome subject).problems = (parsed.result.getD []).zipIdx.filterMap fun entry =>
      rule.problem parsed.descriptions entry.1 entry.2 := by
  cases rule with
  | resultRef =>
      exact problems_onResults hcredential hparsed fun results => problems_resultsOutcome _ _ _
  | achievedLevel =>
      refine problems_onResults hcredential hparsed fun results => ?_
      dsimp only
      split
      · rename_i hnone
        simp [ResultRule.problem, hnone, CheckOutcome.problems]
      · rename_i hne
        simp only [ResultRule.problem, if_neg hne]
        exact problems_resultsOutcome _ _ _
  | missingStatus =>
      refine problems_onResults hcredential hparsed fun results => ?_
      dsimp only
      have hnone (entry : Obv3Result) (index : Nat) :
          missingStatusProblem [] entry index = none := by
        cases hentry : entry.resultDescription <;> simp [missingStatusProblem, hentry]
      split
      · rename_i hempty
        simp [ResultRule.problem, hempty, statusTypedRdIds, hnone, CheckOutcome.problems]
      · split
        · rename_i hempty
          simp [ResultRule.problem, hempty, hnone, CheckOutcome.problems]
        · exact problems_resultsOutcome _ _ _

/-- A rule reports nothing where the subject does not parse. -/
theorem ResultRule.problems_outcome_of_malformed (rule : ResultRule)
    {subject : VerificationSubject} {credential : Json}
    (hcredential : subject.verifiableCredential.filter Json.truthy = some credential)
    (hparsed : (obv3CredentialSubjectShape (credential.get? "credentialSubject")).accepted =
      none) :
    (rule.outcome subject).problems = [] := by
  have hskipped (outcome : Obv3CredentialSubject → List Obv3Result → CheckOutcome) :
      (onResults subject outcome).problems = [] := by
    unfold onResults
    rw [hcredential]
    dsimp only
    rw [hparsed]
    rfl
  cases rule with
  | resultRef | achievedLevel | missingStatus => exact hskipped _

/-! ## Entries and their problems -/

section

variable {α β γ : Type}

/-- A view of the problems of some entries, where it is known of each entry's problem. -/
theorem map_filterMap_eq {problem : α → Option β} {view : β → γ} {reported : α → Bool}
    {seen : α → γ}
    (h : ∀ a, (problem a).map view = if reported a then some (seen a) else none)
    (entries : List α) :
    (entries.filterMap problem).map view = (entries.filter reported).map seen := by
  rw [List.map_filterMap]
  refine .trans ?_ (List.filterMap_eq_map ▸ List.filterMap_filter).symm
  apply List.filterMap_congr
  intro a _
  exact h a

/-- A rule that takes problems back leaves the others in their order. -/
theorem sublist_filterMap {f g : α → Option β} (h : ∀ a, f a = none ∨ f a = g a)
    (entries : List α) : List.Sublist (entries.filterMap f) (entries.filterMap g) := by
  induction entries with
  | nil => exact .slnil
  | cons a entries ih =>
      rcases h a with hnone | hsame
      · rw [List.filterMap_cons_none hnone]
        cases hg : g a with
        | none =>
            rw [List.filterMap_cons_none hg]
            exact ih
        | some b =>
            rw [List.filterMap_cons_some hg]
            exact ih.cons b
      · cases hg : g a with
        | none =>
            rw [List.filterMap_cons_none (hsame.trans hg), List.filterMap_cons_none hg]
            exact ih
        | some b =>
            rw [List.filterMap_cons_some (hsame.trans hg), List.filterMap_cons_some hg]
            exact ih.cons_cons b

end

end VerifierCore
