import VerifierCore.OpenBadges.Resilience

/-!
# Achievement types

The check of an achievement's types against a vocabulary.  The check comes in two forms:
with the vocabulary of the standard, and with tokens of the caller's added to it.

Main results:

- Theorem {lit}`accepted_subjectShape`: when the tolerant shapes accept a subject.
- Theorem {lit}`instances_evaluateAchievementType`: one problem for each unknown token.
- Theorem {lit}`achievementTypes_reported`: when the check is skipped, when it succeeds and
  where its problems point.
-/

namespace VerifierCore

open Foundations

/-! ## The vocabulary -/

/-- The achievement types of the standard. -/
def ob30AchievementTypes : List String :=
  ["Achievement", "ApprenticeshipCertificate", "Assessment", "Assignment", "AssociateDegree",
    "Award", "Badge", "BachelorDegree", "Certificate", "CertificateOfCompletion", "Certification",
    "CommunityService", "Competency", "Course", "CoCurricular", "Degree", "Diploma",
    "DoctoralDegree", "Fieldwork", "GeneralEducationDevelopment", "JourneymanCertificate",
    "LearningProgram", "License", "Membership", "ProfessionalDoctorate",
    "QualityAssuranceCredential", "MasterCertificate", "MasterDegree", "MicroCredential",
    "ResearchDoctorate", "SecondarySchoolDiploma"]

/-- The vocabulary of the plain check. -/
def knownAchievementTypes : List String :=
  ob30AchievementTypes

/-- The prefix of an issuer's own types. -/
def achievementTypeExtPrefix : String :=
  "ext:"

/-! ## The check -/

namespace Obv3ProblemTypes

def obUnknownAchievementType := problemType "OB_UNKNOWN_ACHIEVEMENT_TYPE"

end Obv3ProblemTypes

/-- The values of an `achievementType`: the items of an array, or the value itself. -/
def achievementTypeValues : Json → List Json
  | .arr items => items
  | value => [value]

/-- What the check says of one value.  Values that are no strings are left to others. -/
def achievementTypeProblem (knownTypes : List String) (inArray : Bool) (entry : Json)
    (index : Nat) : Option ProblemDetail :=
  match entry with
  | .str token =>
      if token ∈ knownTypes then none
      else if startsWith token achievementTypeExtPrefix then none
      else
        let target :=
          if inArray then s!"achievement.achievementType[{index}]"
          else "achievement.achievementType"
        some
          { type := Obv3ProblemTypes.obUnknownAchievementType
            title := "Unknown Achievement Type"
            detail := s!"{target} = \"{token}\" is not in the known AchievementType vocabulary and does not use the \"{achievementTypeExtPrefix}\" extension prefix."
            instance? := some (formatJsonPointer
              (if inArray then
                [.name "credentialSubject", .name "achievement", .name "achievementType",
                  .index index]
              else [.name "credentialSubject", .name "achievement", .name "achievementType"])) }
  | _ => none

/-- The problems of an `achievementType`. -/
def evaluateAchievementType (value : Option Json) (knownTypes : List String) :
    List ProblemDetail :=
  match value with
  | none => []
  | some value =>
      (achievementTypeValues value).zipIdx.filterMap fun entry =>
        achievementTypeProblem knownTypes (isArray (some value)) entry.1 entry.2

/-- The outcome of the check under a vocabulary. -/
def executeForKnownTypes (subject : VerificationSubject) (knownTypes : List String) :
    CheckOutcome :=
  match subject.verifiableCredential.filter Json.truthy with
  | none => .skipped "No verifiable credential found in subject."
  | some credential =>
      let parsed := (obv3CredentialSubjectShape (credential.get? "credentialSubject")).accepted
      match (parsed.bind Obv3CredentialSubject.achievement).bind Obv3Achievement.achievementType with
      | none => .skipped "Credential has no achievement.achievementType to evaluate."
      | some achievementType =>
          match evaluateAchievementType (some achievementType) knownTypes with
          | [] => .success "All achievement.achievementType values are recognized."
          | problems => .failure problems

/-- The check under a vocabulary. -/
def unknownAchievementTypeCheck (knownTypes : List String) : VerificationCheck where
  id := "schema.obv3.unknown-achievement-type"
  fatal := some false
  appliesTo := some [.verifiableCredential]
  execute := pureBody fun subject _ => .ok (executeForKnownTypes subject knownTypes)

/-- The check with the types of the standard. -/
def obv3UnknownAchievementTypeCheck : VerificationCheck :=
  unknownAchievementTypeCheck knownAchievementTypes

/-- The check with some types of the caller's added to the vocabulary. -/
def createObv3UnknownAchievementTypeCheck (additionalKnownTypes : Option (List String)) :
    VerificationCheck :=
  unknownAchievementTypeCheck (knownAchievementTypes ++ additionalKnownTypes.getD [])

/-! ## Shaped subjects -/

/-- A member is missing, or an array of items that pass a test. -/
def isArrayShaped (test : Json → Bool) : Option Json → Bool
  | none => true
  | some (.arr items) => items.all test
  | _ => false

/-- What is read of the items of an array. -/
def readArray {α : Type} (read : Json → α) : Option Json → Option (List α)
  | some (.arr items) => some (items.map read)
  | _ => none

/-- An achievement has the shape the check parses. -/
def isAchievementShaped (value : Json) : Bool :=
  isPlainObject value && isArrayShaped isDescriptionShaped (value.get? "resultDescription")

/-- What the check reads of an achievement. -/
def Obv3Achievement.read (value : Json) : Obv3Achievement :=
  { achievementType := value.get? "achievementType"
    resultDescription := readArray Obv3ResultDescription.read (value.get? "resultDescription") }

/-- The members of the subjects that the shapes accept. -/
def isSubjectShaped (members : List (String × Json)) : Bool :=
  (members.lookup "achievement").all isAchievementShaped &&
    isArrayShaped isResultShaped (members.lookup "result")

/-- What the check reads of a subject. -/
def Obv3CredentialSubject.read (members : List (String × Json)) : Obv3CredentialSubject :=
  { achievement := (members.lookup "achievement").map Obv3Achievement.read
    result := readArray Obv3Result.read (members.lookup "result") }

section Accepted

open Zod

/-- An array is read if it is missing or all its items are shaped. -/
theorem accepted_optional_array {α : Type} {schema : Schema α} {test : Json → Bool}
    {read : Json → α}
    (hitem : ∀ value, (schema (some value)).accepted =
      if test value then some (read value) else none) (value : Option Json) :
    (optional (array schema) value).accepted =
      if isArrayShaped test value then some (readArray read value) else none := by
  cases value with
  | none => rfl
  | some value =>
      rw [Zod.optional, Parsed.accepted_map]
      cases value with
      | arr items =>
          rw [accepted_array_eq_ite hitem, isArrayShaped, readArray]
          split_ifs <;> rfl
      | null | bool | num | str | obj => rfl

/-- A value is read if it is missing or shaped. -/
theorem accepted_optional {α : Type} {schema : Schema α} {test : Json → Bool} {read : Json → α}
    (hvalue : ∀ value, (schema (some value)).accepted =
      if test value then some (read value) else none) (value : Option Json) :
    (optional schema value).accepted =
      if value.all test then some (value.map read) else none := by
  cases value with
  | none => rfl
  | some value =>
      rw [Zod.optional, Parsed.accepted_map, hvalue, Option.all_some]
      split_ifs <;> rfl

/-- The shape of an achievement accepts the values that are shaped as one. -/
theorem accepted_achievementShape (value : Json) :
    (obv3AchievementShape (some value)).accepted =
      if isAchievementShaped value then some (Obv3Achievement.read value) else none := by
  cases value with
  | obj members =>
      rw [obv3AchievementShape, accepted_object, Parsed.accepted_seq, Parsed.accepted_map,
        accepted_field, accepted_field, accepted_optional_array accepted_descriptionShape,
        isAchievementShaped]
      split_ifs <;> simp_all [isPlainObject, Obv3Achievement.read, unknown]
  | null | bool | num | str | arr => rfl

/-- The shapes accept an object exactly if every member they read has its type. -/
theorem accepted_subjectShape (members : List (String × Json)) :
    (obv3CredentialSubjectShape (some (.obj members))).accepted =
      if isSubjectShaped members then some (Obv3CredentialSubject.read members) else none := by
  rw [obv3CredentialSubjectShape, accepted_object, Parsed.accepted_seq, Parsed.accepted_map,
    accepted_field, accepted_field, accepted_optional accepted_achievementShape,
    accepted_optional_array accepted_resultShape, isSubjectShaped]
  dsimp only [Json.get?]
  by_cases hachievement : (members.lookup "achievement").all isAchievementShaped = true
  · by_cases hresult : isArrayShaped isResultShaped (members.lookup "result") = true
    · simp only [hachievement, hresult, if_true, Bool.and_true, Option.map_some, Option.bind_some]
      rfl
    · simp [hachievement, hresult]
  · simp [hachievement]

end Accepted

/-! ## What is reported -/

/-- The `achievementType` of a credential whose subject is shaped. -/
def achievementTypeOf (credential : Json) : Option Json :=
  match credential.get? "credentialSubject" with
  | some (.obj members) =>
      if isSubjectShaped members then
        (members.lookup "achievement").bind fun achievement => achievement.get? "achievementType"
      else none
  | _ => none

/-- The type that the check reads. -/
theorem achievementType_of_accepted (credential : Json) :
    (((obv3CredentialSubjectShape (credential.get? "credentialSubject")).accepted.bind
      Obv3CredentialSubject.achievement).bind Obv3Achievement.achievementType) =
      achievementTypeOf credential := by
  unfold achievementTypeOf
  cases credential.get? "credentialSubject" with
  | none => rfl
  | some value =>
      cases value with
      | obj members =>
          rw [accepted_subjectShape]
          dsimp only
          split_ifs
          · rw [Option.bind_some, Obv3CredentialSubject.read, Option.bind_map]
            rfl
          · rfl
      | null | bool | num | str | arr => rfl

/-- A token that is neither in the vocabulary nor an extension. -/
def isUnknownType (knownTypes : List String) : Json → Bool
  | .str token => token ∉ knownTypes && !startsWith token achievementTypeExtPrefix
  | _ => false

/-- Where an `achievementType` is. -/
def achievementTypePath : PointerSegments :=
  [.name "credentialSubject", .name "achievement", .name "achievementType"]

/-- An unknown type is reported at its own pointer. -/
theorem instance_achievementTypeProblem (knownTypes : List String) (inArray : Bool)
    (entry : Json) (index : Nat) :
    (achievementTypeProblem knownTypes inArray entry index).map ProblemDetail.instance? =
      if isUnknownType knownTypes entry then
        some (some (formatJsonPointer
          (if inArray then achievementTypePath ++ [.index index] else achievementTypePath)))
      else none := by
  cases entry with
  | str token =>
      by_cases hknown : token ∈ knownTypes
      · simp [achievementTypeProblem, isUnknownType, hknown]
      · by_cases hext : startsWith token achievementTypeExtPrefix = true
        · simp [achievementTypeProblem, isUnknownType, hext]
        · simp [achievementTypeProblem, isUnknownType, hknown, hext, achievementTypePath]
  | null | bool | num | arr | obj => rfl

/-- There is one problem for each unknown token, which points at it. -/
theorem instances_evaluateAchievementType (value : Json) (knownTypes : List String) :
    (evaluateAchievementType (some value) knownTypes).map ProblemDetail.instance? =
      ((asEntries value achievementTypePath).filter fun entry =>
        isUnknownType knownTypes entry.1).map fun entry => some (formatJsonPointer entry.2) := by
  have hmap (inArray : Bool) (values : List Json) :
      (values.zipIdx.filterMap fun entry =>
          achievementTypeProblem knownTypes inArray entry.1 entry.2).map ProblemDetail.instance? =
        (values.zipIdx.filter fun entry => isUnknownType knownTypes entry.1).map fun entry =>
          some (formatJsonPointer
            (if inArray then achievementTypePath ++ [.index entry.2] else achievementTypePath)) := by
    apply map_filterMap_eq
    intro entry
    exact instance_achievementTypeProblem knownTypes inArray entry.1 entry.2
  cases value with
  | arr items =>
      have hitems := hmap true items
      rw [evaluateAchievementType, achievementTypeValues, isArray]
      rw [hitems, asEntries, List.filter_map, List.map_map]
      rfl
  | str token =>
      have hentries : asEntries (.str token) achievementTypePath =
          [(.str token, achievementTypePath)] := rfl
      refine (hmap false [.str token]).trans ?_
      rw [hentries]
      by_cases hunknown : isUnknownType knownTypes (.str token) = true
      · simp [hunknown]
      · simp [hunknown]
  | null | bool | num | obj => rfl

/-- The outcome of the check, by the type that it reads. -/
theorem executeForKnownTypes_eq {subject : VerificationSubject} {credential : Json}
    (hcredential : subject.verifiableCredential.filter Json.truthy = some credential)
    (knownTypes : List String) :
    executeForKnownTypes subject knownTypes =
      match achievementTypeOf credential with
      | none => .skipped "Credential has no achievement.achievementType to evaluate."
      | some value =>
          match evaluateAchievementType (some value) knownTypes with
          | [] => .success "All achievement.achievementType values are recognized."
          | problems => .failure problems := by
  rw [executeForKnownTypes, hcredential]
  dsimp only
  rw [achievementType_of_accepted]

/-- The type of a shaped subject is where the pointers say. -/
theorem points_achievementTypeOf {credential value : Json}
    (h : achievementTypeOf credential = some value) :
    Points credential (achievementTypePath.map PointerSegment.text) (some value) := by
  unfold achievementTypeOf at h
  cases hsubject : credential.get? "credentialSubject" with
  | none =>
      rw [hsubject] at h
      cases h
  | some subject =>
      rw [hsubject] at h
      cases subject with
      | obj members =>
          dsimp only at h
          split_ifs at h with hshaped
          rcases Option.bind_eq_some_iff.mp h with ⟨achievement, hachievement, htype⟩
          cases credential with
          | obj credentialMembers =>
              cases achievement with
              | obj achievementMembers =>
                  have hchild : (Json.obj achievementMembers).child "achievementType" =
                      some value := htype
                  have hfront : resolve Json.child (.obj credentialMembers)
                      ["credentialSubject", "achievement"] = some (.obj achievementMembers) := by
                    rw [Json.get?] at hsubject
                    simp [resolve, Json.child, hsubject, hachievement]
                  exact .present hfront rfl hchild
              | null | bool | num | str | arr => cases htype
          | null | bool | num | str | arr => cases hsubject
      | null | bool | num | str | arr => cases h

/-! ## Vocabularies -/

/-- A larger vocabulary leaves a problem as it is, or takes it back. -/
theorem achievementTypeProblem_mono {knownTypes larger : List String} (h : knownTypes ⊆ larger)
    (inArray : Bool) (entry : Json) (index : Nat) :
    achievementTypeProblem larger inArray entry index = none ∨
      achievementTypeProblem larger inArray entry index =
        achievementTypeProblem knownTypes inArray entry index := by
  cases entry with
  | str token =>
      by_cases hlarger : token ∈ larger
      · exact .inl (if_pos hlarger)
      · right
        simp only [achievementTypeProblem]
        rw [if_neg hlarger, if_neg fun hknown => hlarger (h hknown)]
  | null | bool | num | arr | obj => exact .inl rfl

/-- Knowing more types reports fewer of them. -/
theorem evaluateAchievementType_mono {knownTypes larger : List String} (h : knownTypes ⊆ larger)
    (value : Option Json) :
    List.Sublist (evaluateAchievementType value larger)
      (evaluateAchievementType value knownTypes) := by
  cases value with
  | none => exact .slnil
  | some value =>
      apply sublist_filterMap
      intro entry
      exact achievementTypeProblem_mono h _ entry.1 entry.2

/-- The problems of the check. -/
theorem problems_executeForKnownTypes {subject : VerificationSubject} {credential value : Json}
    (hcredential : subject.verifiableCredential.filter Json.truthy = some credential)
    (htype : achievementTypeOf credential = some value) (knownTypes : List String) :
    (executeForKnownTypes subject knownTypes).problems =
        evaluateAchievementType (some value) knownTypes ∧
      ((executeForKnownTypes subject knownTypes).isSuccess = true ↔
        evaluateAchievementType (some value) knownTypes = []) := by
  rw [executeForKnownTypes_eq hcredential, htype]
  dsimp only
  cases evaluateAchievementType (some value) knownTypes with
  | nil => exact ⟨rfl, by simp⟩
  | cons problem problems => exact ⟨rfl, by simp⟩

/-- Only a credential that is an object has a type. -/
theorem truthy_of_achievementTypeOf {credential value : Json}
    (h : achievementTypeOf credential = some value) : credential.truthy = true := by
  cases credential with
  | obj members => rfl
  | null | bool | num | str | arr => cases h

/-- The check under a vocabulary is skipped unless the subject is shaped and its achievement
has a type.  Then it reports the tokens that are neither in the vocabulary nor extensions,
each by a pointer that leads to it, and succeeds without any.  A larger vocabulary only
takes problems back. -/
theorem achievementTypes_reported (subject : VerificationSubject) (credential : Json)
    (hcredential : subject.verifiableCredential = some credential) (knownTypes : List String) :
    (achievementTypeOf credential = none →
      (executeForKnownTypes subject knownTypes).isSkipped = true) ∧
    (∀ value, achievementTypeOf credential = some value →
      ((executeForKnownTypes subject knownTypes).isSuccess = true ↔
        ∀ entry ∈ asEntries value achievementTypePath, isUnknownType knownTypes entry.1 = false) ∧
      (executeForKnownTypes subject knownTypes).problems.map ProblemDetail.instance? =
        ((asEntries value achievementTypePath).filter fun entry =>
          isUnknownType knownTypes entry.1).map fun entry => some (formatJsonPointer entry.2)) ∧
    (∀ value, achievementTypeOf credential = some value →
      ∀ entry ∈ asEntries value achievementTypePath,
        pointerTokens (formatJsonPointer entry.2) = some (entry.2.map PointerSegment.text) ∧
          Points credential (entry.2.map PointerSegment.text) (some entry.1)) ∧
    ∀ larger, knownTypes ⊆ larger →
      List.Sublist (executeForKnownTypes subject larger).problems
        (executeForKnownTypes subject knownTypes).problems := by
  have hfilter (htruthy : credential.truthy = true) :
      subject.verifiableCredential.filter Json.truthy = some credential := by
    rw [hcredential, Option.filter_some, if_pos htruthy]
  have hnone (htype : achievementTypeOf credential = none) (vocabulary : List String) :
      (executeForKnownTypes subject vocabulary).isSkipped = true ∧
        (executeForKnownTypes subject vocabulary).problems = [] := by
    by_cases htruthy : credential.truthy = true
    · rw [executeForKnownTypes_eq (hfilter htruthy), htype]
      exact ⟨rfl, rfl⟩
    · rw [executeForKnownTypes, hcredential, Option.filter_some, if_neg htruthy]
      exact ⟨rfl, rfl⟩
  refine ⟨fun htype => (hnone htype knownTypes).1, ?_, ?_, ?_⟩
  · intro value htype
    have hproblems := problems_executeForKnownTypes
      (hfilter (truthy_of_achievementTypeOf htype)) htype knownTypes
    have hinstances := instances_evaluateAchievementType value knownTypes
    refine ⟨hproblems.2.trans ?_, (congrArg _ hproblems.1).trans hinstances⟩
    rw [← List.map_eq_nil_iff, hinstances, List.map_eq_nil_iff, List.filter_eq_nil_iff]
    simp only [Bool.not_eq_true]
  · intro value htype entry hentry
    exact ⟨pointerTokens_formatJsonPointer _,
      (points_achievementTypeOf htype).of_mem_asEntries hentry⟩
  · intro larger hlarger
    cases htype : achievementTypeOf credential with
    | none =>
        rw [(hnone htype larger).2, (hnone htype knownTypes).2]
    | some value =>
        have htruthy := hfilter (truthy_of_achievementTypeOf htype)
        rw [(problems_executeForKnownTypes htruthy htype larger).1,
          (problems_executeForKnownTypes htruthy htype knownTypes).1]
        exact evaluateAchievementType_mono hlarger _

/-! ### A badge of three types -/

namespace TypedBadge

/-- A known type, an extension and one of the issuer's own. -/
def credential : Json :=
  .obj [("credentialSubject", .obj [("achievement", .obj
    [("achievementType", .arr [.str "Badge", .str "ext:Quest", .str "Quest"])])])]

/-- The badge as a subject. -/
def subject : VerificationSubject :=
  { verifiableCredential := some credential }

end TypedBadge

/-- Only the third type is reported, and not once the caller knows it. -/
theorem achievementTypes_reported_quest :
    (executeForKnownTypes TypedBadge.subject knownAchievementTypes).problems.map
        ProblemDetail.instance? =
      [some (formatJsonPointer (achievementTypePath ++ [.index 2]))] ∧
    (executeForKnownTypes TypedBadge.subject (knownAchievementTypes ++ ["Quest"])).isSuccess =
      true := by
  have htype : achievementTypeOf TypedBadge.credential =
      some (.arr [.str "Badge", .str "ext:Quest", .str "Quest"]) := rfl
  have hplain := (achievementTypes_reported TypedBadge.subject TypedBadge.credential rfl
    knownAchievementTypes).2.1 _ htype
  have hknown := (achievementTypes_reported TypedBadge.subject TypedBadge.credential rfl
    (knownAchievementTypes ++ ["Quest"])).2.1 _ htype
  refine ⟨hplain.2.trans (by decide +kernel), hknown.1.mpr (by decide +kernel)⟩

end VerifierCore
