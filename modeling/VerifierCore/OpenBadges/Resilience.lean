import VerifierCore.OpenBadges.Shapes

/-!
# Malformed neighbours

The rules on results are meant to look at each result on its own.  They do so behind one
parse of the whole subject, and a single member of the wrong type fails that parse: then no
rule reports anything.

Main results:

- Theorem {lit}`BadgeSubject.reportsAt_iff`: a rule reports at an index exactly if the whole
  subject conforms to the shapes and the result there breaks the rule.
- Theorem {lit}`resultRules_resilient_iff`: when the reports of the rules are complete, and
  when they survive the replacement of another result.
-/

namespace VerifierCore

/-! ## Reading members -/

/-- A member that is a string. -/
def stringMember (value : Json) (key : String) : Option String :=
  asString (value.get? key)

/-- A member is missing or a string. -/
def stringOrMissing (value : Json) (key : String) : Bool :=
  (value.get? key).all fun member => (asString member).isSome

/-- The results every member of which has the type the shapes ask for. -/
def isResultShaped (value : Json) : Bool :=
  isPlainObject value && stringOrMissing value "resultDescription" &&
    stringOrMissing value "achievedLevel" && stringOrMissing value "status"

/-- A level has the shape the checks parse. -/
def isLevelShaped (value : Json) : Bool :=
  isPlainObject value && stringOrMissing value "id"

/-- Levels are missing, or an array of levels. -/
def isLevelsShaped : Option Json → Bool
  | none => true
  | some (.arr levels) => levels.all isLevelShaped
  | _ => false

/-- A result description has the shape the checks parse. -/
def isDescriptionShaped (value : Json) : Bool :=
  isPlainObject value && stringOrMissing value "id" && stringOrMissing value "resultType" &&
    isLevelsShaped (value.get? "rubricCriterionLevel")

/-! ### Typed reads -/

/-- What the checks read of a level. -/
def RubricCriterionLevel.read (value : Json) : RubricCriterionLevel :=
  { id := stringMember value "id" }

/-- What the checks read of a result. -/
def Obv3Result.read (value : Json) : Obv3Result :=
  { resultDescription := stringMember value "resultDescription"
    achievedLevel := stringMember value "achievedLevel"
    status := stringMember value "status" }

/-- What the checks read of the levels of a description. -/
def readLevels : Option Json → Option (List RubricCriterionLevel)
  | some (.arr levels) => some (levels.map RubricCriterionLevel.read)
  | _ => none

/-- What the checks read of a description. -/
def Obv3ResultDescription.read (value : Json) : Obv3ResultDescription :=
  { id := stringMember value "id"
    resultType := stringMember value "resultType"
    rubricCriterionLevel := readLevels (value.get? "rubricCriterionLevel") }

section Accepted

open Zod

/-- A member is read if it is missing or a string. -/
theorem accepted_stringField (value : Json) (key : String) :
    (field value key (optional string)).accepted =
      if stringOrMissing value key then some (stringMember value key) else none := by
  rw [accepted_field, accepted_optional_string]
  rfl

/-- The shape of a level accepts those that are shaped so. -/
theorem accepted_levelShape (value : Json) :
    (rubricCriterionLevelShape (some value)).accepted =
      if isLevelShaped value then some (RubricCriterionLevel.read value) else none := by
  cases value with
  | obj members =>
      rw [rubricCriterionLevelShape, accepted_object, Parsed.accepted_map, accepted_stringField]
      by_cases hid : stringOrMissing (.obj members) "id" = true
      · simp [isLevelShaped, isPlainObject, hid, RubricCriterionLevel.read]
      · simp [isLevelShaped, isPlainObject, hid]
  | null | bool | num | str | arr => rfl

/-- The levels of a description are read exactly if they have the shape of levels. -/
theorem accepted_levels (value : Option Json) :
    (optional (array rubricCriterionLevelShape) value).accepted =
      if isLevelsShaped value then some (readLevels value) else none := by
  cases value with
  | none => rfl
  | some value =>
      rw [Zod.optional, Parsed.accepted_map]
      cases value with
      | arr levels =>
          rw [accepted_array_eq_ite accepted_levelShape]
          by_cases hlevels : levels.all isLevelShaped = true
          · simp only [isLevelsShaped, hlevels, if_true, Option.map_some, readLevels]
          · simp only [isLevelsShaped, hlevels, if_false, Option.map_none, Bool.false_eq_true]
      | null | bool | num | str | obj => rfl

/-- An optional array in place is accepted exactly if all its items are. -/
theorem accepted_arrayField {α : Type} {schema : Schema α} {test : Json → Bool} {read : Json → α}
    (hitem : ∀ value, (schema (some value)).accepted =
      if test value then some (read value) else none)
    {members : List (String × Json)} {key : String} {values : List Json}
    (hvalues : members.lookup key = some (.arr values)) :
    (field (.obj members) key (optional (array schema))).accepted =
      if values.all test then some (some (values.map read)) else none := by
  rw [accepted_field, Json.get?, hvalues, Zod.optional, Parsed.accepted_map,
    accepted_array_eq_ite hitem]
  split_ifs <;> rfl

/-- A result is accepted exactly if it has the shape. -/
theorem accepted_resultShape (value : Json) :
    (obv3ResultShape (some value)).accepted =
      if isResultShaped value then some (Obv3Result.read value) else none := by
  cases value with
  | obj members =>
      simp only [obv3ResultShape, accepted_object, Parsed.accepted_seq, Parsed.accepted_map,
        accepted_stringField]
      by_cases hdescription : stringOrMissing (.obj members) "resultDescription" = true
      · by_cases hlevel : stringOrMissing (.obj members) "achievedLevel" = true
        · by_cases hstatus : stringOrMissing (.obj members) "status" = true
          · simp [isResultShaped, isPlainObject, hdescription, hlevel, hstatus, Obv3Result.read]
          · simp [isResultShaped, hdescription, hlevel, hstatus]
        · simp [isResultShaped, hdescription, hlevel]
      · simp [isResultShaped, hdescription]
  | null | bool | num | str | arr => rfl

/-- A description is accepted exactly if it has the shape. -/
theorem accepted_descriptionShape (value : Json) :
    (obv3ResultDescriptionShape (some value)).accepted =
      if isDescriptionShaped value then some (Obv3ResultDescription.read value) else none := by
  cases value with
  | obj members =>
      simp only [obv3ResultDescriptionShape, accepted_object, Parsed.accepted_seq,
        Parsed.accepted_map, accepted_stringField]
      rw [accepted_field, accepted_levels]
      by_cases hid : stringOrMissing (.obj members) "id" = true
      · by_cases htype : stringOrMissing (.obj members) "resultType" = true
        · by_cases hlevels :
              isLevelsShaped ((Json.obj members).get? "rubricCriterionLevel") = true
          · simp [isDescriptionShaped, isPlainObject, hid, htype, hlevels,
              Obv3ResultDescription.read]
          · simp [isDescriptionShaped, hid, htype, hlevels]
        · simp [isDescriptionShaped, hid, htype]
      · simp [isDescriptionShaped, hid]
  | null | bool | num | str | arr => rfl

end Accepted

/-! ## Subjects -/

/-- The `credentialSubject` of an Open Badge with an array of results and an achievement
with an array of descriptions.  The entries of both are arbitrary. -/
structure BadgeSubject where
  members : List (String × Json)
  achievement : List (String × Json)
  results : List Json
  descriptions : List Json
  result_eq : members.lookup "result" = some (.arr results)
  achievement_eq : members.lookup "achievement" = some (.obj achievement)
  description_eq : achievement.lookup "resultDescription" = some (.arr descriptions)

namespace BadgeSubject

/-- The subject with another value for one result. -/
def replace (s : BadgeSubject) (i : Nat) (value : Json) : BadgeSubject where
  members := Json.setMember "result" (.arr (s.results.set i value)) s.members
  achievement := s.achievement
  results := s.results.set i value
  descriptions := s.descriptions
  result_eq := Json.lookup_setMember_self _ _ _
  achievement_eq :=
    (Json.lookup_setMember_of_ne (by decide) _ _).trans s.achievement_eq
  description_eq := s.description_eq

/-- The credential that is verified has this subject. -/
def In (s : BadgeSubject) (subject : VerificationSubject) : Prop :=
  ∃ credential, subject.verifiableCredential = some (.obj credential) ∧
    credential.lookup "credentialSubject" = some (.obj s.members)

/-- All results and all descriptions have their shape. -/
def conforms (s : BadgeSubject) : Bool :=
  s.results.all isResultShaped && s.descriptions.all isDescriptionShaped

/-- The subject as the checks read it. -/
def read (s : BadgeSubject) : Obv3CredentialSubject :=
  { achievement := some
      { achievementType := (Json.obj s.achievement).get? "achievementType"
        resultDescription := some (s.descriptions.map Obv3ResultDescription.read) }
    result := some (s.results.map Obv3Result.read) }

/-- A subject parses exactly if all its entries have their shape. -/
theorem accepted_eq (s : BadgeSubject) :
    (obv3CredentialSubjectShape (some (.obj s.members))).accepted =
      if s.conforms then some s.read else none := by
  have hresults := accepted_arrayField accepted_resultShape s.result_eq
  have hdescriptions := accepted_arrayField accepted_descriptionShape s.description_eq
  have hachievement : (Zod.field (.obj s.members) "achievement"
      (Zod.optional obv3AchievementShape)).accepted =
      if s.descriptions.all isDescriptionShaped then some s.read.achievement else none := by
    rw [Zod.accepted_field, Json.get?, s.achievement_eq, Zod.optional, Zod.Parsed.accepted_map,
      obv3AchievementShape, Zod.accepted_object, Zod.Parsed.accepted_seq, hdescriptions]
    split_ifs <;> rfl
  rw [obv3CredentialSubjectShape, Zod.accepted_object, Zod.Parsed.accepted_seq,
    Zod.Parsed.accepted_map, hachievement, hresults, conforms]
  by_cases hconform : s.descriptions.all isDescriptionShaped = true
  · by_cases hshaped : s.results.all isResultShaped = true
    · simp only [hconform, hshaped, Bool.and_true, if_true]
      rfl
    · simp [hconform, hshaped]
  · simp [hconform]

end BadgeSubject

/-! ## What the rules say -/

/-- The ids of the levels of a description. -/
def levelIds (description : Json) : List String :=
  match description.get? "rubricCriterionLevel" with
  | some (.arr levels) => levels.filterMap fun level => stringMember level "id"
  | _ => []

/-- The levels of the last description with this id that has levels with ids. -/
def declaredLevels (descriptions : List Json) (ref : String) : List String :=
  ((descriptions.reverse.find? fun description =>
    stringMember description "id" = some ref && levelIds description ≠ []).map levelIds).getD []

namespace ResultRule

/-- A result breaks the rule: it refers to a description that is not there, or claims a
level that the description does not declare, or has no status where one is due. -/
def breaks (rule : ResultRule) (descriptions : List Json) (entry : Json) : Bool :=
  (stringMember entry "resultDescription").any fun ref =>
    match rule with
    | resultRef => !descriptions.any fun description => stringMember description "id" = some ref
    | achievedLevel =>
        descriptions ≠ [] && (stringMember entry "achievedLevel").any fun level =>
          level ∉ declaredLevels descriptions ref
    | missingStatus =>
        (descriptions.any fun description =>
          stringMember description "id" = some ref &&
            stringMember description "resultType" = some "Status") &&
          (stringMember entry "status").getD "" = ""

/-- The member of a result that the problems of a rule point at. -/
def member : ResultRule → PointerSegments
  | resultRef => [.name "resultDescription"]
  | achievedLevel => [.name "achievedLevel"]
  | missingStatus => []

/-- The pointer of a problem with the result at an index. -/
def pointer (rule : ResultRule) (index : Nat) : PointerSegments :=
  [.name "credentialSubject", .name "result", .index index] ++ rule.member

end ResultRule

/-- The ids of the levels that are read are those the description has. -/
theorem levelIds_read (description : Json) :
    ((Obv3ResultDescription.read description).rubricCriterionLevel.getD []).filterMap
      (fun level => level.id) = levelIds description := by
  unfold levelIds Obv3ResultDescription.read readLevels
  dsimp only
  split
  · simp only [Option.getD_some, List.filterMap_map]
    rfl
  · rfl

/-- A description adds its levels to the map if it has an id and such levels. -/
theorem levelsByRdId_cons (description : Json) (rest : List Obv3ResultDescription) :
    levelsByRdId (Obv3ResultDescription.read description :: rest) =
      match stringMember description "id" with
      | none => levelsByRdId rest
      | some id =>
          if levelIds description = [] then levelsByRdId rest
          else (id, (levelIds description).eraseDups) :: levelsByRdId rest := by
  rw [levelsByRdId, List.filterMap_cons, levelIds_read]
  dsimp only [Obv3ResultDescription.read]
  cases stringMember description "id" with
  | none => rfl
  | some id =>
      cases levelIds description with
      | nil => rfl
      | cons level levels =>
          rw [List.eraseDups_cons]
          rfl

/-- The map is looked up by the first description with the id and such levels. -/
theorem lookup_levelsByRdId (descriptions : List Json) (ref : String) :
    (levelsByRdId (descriptions.map Obv3ResultDescription.read)).lookup ref =
      (descriptions.find? fun description =>
        stringMember description "id" = some ref && levelIds description ≠ []).map
          fun description => (levelIds description).eraseDups := by
  induction descriptions with
  | nil => rfl
  | cons description rest ih =>
      rw [List.map_cons, levelsByRdId_cons]
      cases hid : stringMember description "id" with
      | none =>
          rw [List.find?_cons_of_neg (by simp [hid])]
          exact ih
      | some id =>
          dsimp only
          by_cases hlevels : levelIds description = []
          · rw [if_pos hlevels, List.find?_cons_of_neg (by simp [hlevels])]
            exact ih
          · rw [if_neg hlevels]
            by_cases href : id = ref
            · rw [List.find?_cons_of_pos (by simp [hid, href, hlevels]), href,
                List.lookup_cons_self, Option.map_some]
            · rw [List.find?_cons_of_neg (by simp [hid, href]), List.lookup_cons,
                beq_eq_false_iff_ne.mpr (Ne.symm href)]
              exact ih

/-- The map holds the levels of the last such description. -/
theorem mapGet_levelsByRdId (descriptions : List Json) (ref : String) :
    mapGet (levelsByRdId (descriptions.map Obv3ResultDescription.read)) ref =
      (descriptions.reverse.find? fun description =>
        stringMember description "id" = some ref && levelIds description ≠ []).map
          fun description => (levelIds description).eraseDups := by
  rw [← lookup_levelsByRdId, mapGet, levelsByRdId, levelsByRdId, ← List.filterMap_reverse,
    List.map_reverse]

/-- A status is expected for the ids of descriptions of that type. -/
theorem mem_statusTypedRdIds (descriptions : List Json) (ref : String) :
    ref ∈ statusTypedRdIds (descriptions.map Obv3ResultDescription.read) ↔
      (descriptions.any fun description =>
        stringMember description "id" = some ref &&
          stringMember description "resultType" = some "Status") = true := by
  simp only [statusTypedRdIds, List.filterMap_map, List.mem_filterMap, List.any_eq_true,
    Function.comp_apply, Obv3ResultDescription.read, Bool.and_eq_true, decide_eq_true_eq]
  apply exists_congr
  intro description
  by_cases hstatus : stringMember description "resultType" = some "Status"
  · simp [hstatus]
  · simp [hstatus]

/-! ### Problems -/

/-- A dangling reference is reported at its result, and nothing else is. -/
theorem instance_resultRefProblem (descriptions : List Json) (entry : Json) (index : Nat) :
    (ResultRule.resultRef.problem (descriptions.map Obv3ResultDescription.read)
      (Obv3Result.read entry) index).map ProblemDetail.instance? =
      if ResultRule.resultRef.breaks descriptions entry then
        some (some (formatJsonPointer (ResultRule.resultRef.pointer index)))
      else none := by
  have hknown (ref : String) :
      ref ∈ (descriptions.map Obv3ResultDescription.read).filterMap (fun rd => rd.id) ↔
        (descriptions.any fun description => stringMember description "id" = some ref) = true := by
    simp [Obv3ResultDescription.read, List.filterMap_map, List.mem_filterMap]
  rw [ResultRule.problem, resultRefProblem, ResultRule.breaks, Obv3Result.read]
  dsimp only
  cases stringMember entry "resultDescription" with
  | none => rfl
  | some ref =>
      dsimp only
      by_cases hmem : (descriptions.any fun description =>
          stringMember description "id" = some ref) = true
      · rw [if_pos ((hknown ref).mpr hmem), Option.any_some, hmem]
        rfl
      · rw [if_neg (mt (hknown ref).mp hmem), Option.any_some, Bool.eq_false_of_not_eq_true hmem]
        rfl

/-- A missing status is reported at its result, and nothing else is. -/
theorem instance_missingStatusProblem (descriptions : List Json) (entry : Json) (index : Nat) :
    (ResultRule.missingStatus.problem (descriptions.map Obv3ResultDescription.read)
      (Obv3Result.read entry) index).map ProblemDetail.instance? =
      if ResultRule.missingStatus.breaks descriptions entry then
        some (some (formatJsonPointer (ResultRule.missingStatus.pointer index)))
      else none := by
  rw [ResultRule.problem, missingStatusProblem, ResultRule.breaks, Obv3Result.read]
  dsimp only
  cases stringMember entry "resultDescription" with
  | none => rfl
  | some ref =>
      dsimp only
      have hmem := mem_statusTypedRdIds descriptions ref
      by_cases htyped : ref ∈ statusTypedRdIds (descriptions.map Obv3ResultDescription.read)
      · rw [if_neg (not_not_intro htyped), Option.any_some, hmem.mp htyped]
        by_cases hstatus : (stringMember entry "status").getD "" = ""
        · simp [hstatus, ResultRule.pointer, ResultRule.member]
        · simp [hstatus]
      · rw [if_pos htyped, Option.any_some, Bool.eq_false_of_not_eq_true (mt hmem.mpr htyped)]
        rfl

/-- An undescribed level is reported at its result, and nothing else is. -/
theorem instance_achievedLevelProblem (descriptions : List Json) (entry : Json) (index : Nat) :
    (ResultRule.achievedLevel.problem (descriptions.map Obv3ResultDescription.read)
      (Obv3Result.read entry) index).map ProblemDetail.instance? =
      if ResultRule.achievedLevel.breaks descriptions entry then
        some (some (formatJsonPointer (ResultRule.achievedLevel.pointer index)))
      else none := by
  rw [ResultRule.problem, achievedLevelProblem, ResultRule.breaks, Obv3Result.read]
  dsimp only
  cases stringMember entry "resultDescription" with
  | none => cases stringMember entry "achievedLevel" <;> simp
  | some ref =>
      cases stringMember entry "achievedLevel" with
      | none => simp
      | some level =>
          by_cases hempty : descriptions = []
          · simp [hempty]
          · rw [if_neg (by simpa using hempty)]
            simp only [mapGet_levelsByRdId, declaredLevels, Option.any_some, hempty, ne_eq,
              not_false_eq_true, decide_true, Bool.true_and, decide_not]
            cases descriptions.reverse.find? fun description =>
                (decide (stringMember description "id" = some ref) &&
                  !decide (levelIds description = [])) with
            | none => simp [ResultRule.pointer, ResultRule.member]
            | some description =>
                by_cases hlevel : level ∈ levelIds description
                · simp [List.mem_eraseDups, hlevel]
                · simp [List.mem_eraseDups, hlevel, ResultRule.pointer, ResultRule.member]

/-- A rule finds a problem with the results that break it, and points at them. -/
theorem ResultRule.instance_problem (rule : ResultRule) (descriptions : List Json) (entry : Json)
    (index : Nat) :
    (rule.problem (descriptions.map Obv3ResultDescription.read) (Obv3Result.read entry)
      index).map ProblemDetail.instance? =
      if rule.breaks descriptions entry then some (some (formatJsonPointer (rule.pointer index)))
      else none := by
  cases rule with
  | resultRef => exact instance_resultRefProblem descriptions entry index
  | achievedLevel => exact instance_achievedLevelProblem descriptions entry index
  | missingStatus => exact instance_missingStatusProblem descriptions entry index

namespace BadgeSubject

variable {s : BadgeSubject} {subject : VerificationSubject}

/-- The pointers of the problems: one for each result that breaks the rule, as long as the
whole subject conforms. -/
theorem instances_outcome (rule : ResultRule) (hin : s.In subject) :
    (rule.outcome subject).problems.map ProblemDetail.instance? =
      if s.conforms then
        (s.results.zipIdx.filter fun entry => rule.breaks s.descriptions entry.1).map fun entry =>
          some (formatJsonPointer (rule.pointer entry.2))
      else [] := by
  rcases hin with ⟨credential, hcredential, hsubject⟩
  have hfilter : subject.verifiableCredential.filter Json.truthy = some (.obj credential) := by
    rw [hcredential]
    rfl
  have hparsed := s.accepted_eq
  rw [← hsubject] at hparsed
  by_cases hconforms : s.conforms = true
  · rw [if_pos hconforms] at hparsed ⊢
    have hdescriptions : s.read.descriptions = s.descriptions.map Obv3ResultDescription.read := rfl
    have hresults : s.read.result.getD [] = s.results.map Obv3Result.read := rfl
    rw [rule.problems_outcome hfilter hparsed, hdescriptions, hresults, List.zipIdx_map,
      List.filterMap_map, List.map_filterMap]
    refine .trans ?_ (List.filterMap_eq_map ▸ List.filterMap_filter).symm
    apply List.filterMap_congr
    intro entry _
    exact rule.instance_problem s.descriptions entry.1 entry.2
  · rw [if_neg hconforms] at hparsed ⊢
    rw [rule.problems_outcome_of_malformed hfilter hparsed]
    rfl

end BadgeSubject

/-! ## Reports at an index -/

/-- An outcome reports a problem with the result at an index, or with a member of it. -/
def ReportsAt (outcome : CheckOutcome) (index : Nat) : Prop :=
  ∃ problem ∈ outcome.problems, ∃ rest,
    problem.instance?.bind pointerTokens =
      some ("credentialSubject" :: "result" :: toString index :: rest)

/-- The pointer of a rule leads to the member of the result it reads. -/
theorem pointerTokens_pointer (rule : ResultRule) (index : Nat) :
    pointerTokens (formatJsonPointer (rule.pointer index)) =
      some ("credentialSubject" :: "result" :: toString index ::
        rule.member.map PointerSegment.text) :=
  pointerTokens_formatJsonPointer _

namespace BadgeSubject

variable {s : BadgeSubject} {subject : VerificationSubject}

/-- A rule reports at an index exactly if the whole subject conforms and the result there
breaks the rule. -/
theorem reportsAt_iff (rule : ResultRule) (hin : s.In subject) (index : Nat) :
    ReportsAt (rule.outcome subject) index ↔
      s.conforms = true ∧ ∃ entry, s.results[index]? = some entry ∧
        rule.breaks s.descriptions entry = true := by
  have hinstances := instances_outcome rule hin
  constructor
  · rintro ⟨problem, hmem, rest, htokens⟩
    have hinstance : problem.instance? ∈
        (rule.outcome subject).problems.map ProblemDetail.instance? := List.mem_map_of_mem hmem
    rw [hinstances] at hinstance
    by_cases hconforms : s.conforms = true
    · rw [if_pos hconforms] at hinstance
      rcases List.mem_map.mp hinstance with ⟨⟨entry, i⟩, hfiltered, heq⟩
      rcases List.mem_filter.mp hfiltered with ⟨hentry, hbreaks⟩
      rw [← heq, Option.bind_some, pointerTokens_pointer] at htokens
      simp only [Option.some.injEq, List.cons.injEq, true_and] at htokens
      have hindex : i = index := Nat.repr_injective htokens.1
      rw [← hindex]
      exact ⟨hconforms, entry, List.mem_zipIdx_iff_getElem?.mp hentry, hbreaks⟩
    · rw [if_neg hconforms] at hinstance
      cases hinstance
  · rintro ⟨hconforms, entry, hentry, hbreaks⟩
    have hfiltered : (entry, index) ∈
        s.results.zipIdx.filter fun entry => rule.breaks s.descriptions entry.1 :=
      List.mem_filter.mpr ⟨List.mem_zipIdx_iff_getElem?.mpr hentry, hbreaks⟩
    have hpointer : some (formatJsonPointer (rule.pointer index)) ∈
        (rule.outcome subject).problems.map ProblemDetail.instance? := by
      rw [hinstances, if_pos hconforms]
      exact List.mem_map.mpr ⟨(entry, index), hfiltered, rfl⟩
    rcases List.mem_map.mp hpointer with ⟨problem, hmem, hinstance⟩
    refine ⟨problem, hmem, rule.member.map PointerSegment.text, ?_⟩
    rw [hinstance, Option.bind_some, pointerTokens_pointer]

/-! ## Resilience -/

/-- The reference check reports exactly one problem for each result whose reference dangles. -/
def ReportsDangling (s : BadgeSubject) (subject : VerificationSubject) : Prop :=
  (obv3ResultRefOutcome subject).problems.map ProblemDetail.instance? =
    (s.results.zipIdx.filter fun entry =>
      ResultRule.resultRef.breaks s.descriptions entry.1).map fun entry =>
        some (formatJsonPointer
          [.name "credentialSubject", .name "result", .index entry.2, .name "resultDescription"])

/-- The dangling references are reported exactly if the subject has the shape or none dangles.
-/
theorem reportsDangling_iff (hin : s.In subject) :
    s.ReportsDangling subject ↔ s.conforms = true ∨
      ∀ entry ∈ s.results, ResultRule.resultRef.breaks s.descriptions entry = false := by
  have hinstances := instances_outcome .resultRef hin
  by_cases hconforms : s.conforms = true
  · rw [if_pos hconforms] at hinstances
    exact ⟨fun _ => .inl hconforms, fun _ => hinstances⟩
  · rw [if_neg hconforms] at hinstances
    have hdangling : s.ReportsDangling subject ↔ s.results.zipIdx.filter (fun entry =>
        ResultRule.resultRef.breaks s.descriptions entry.1) = [] := by
      rw [ReportsDangling]
      refine (iff_of_eq (congrArg (· = _) hinstances)).trans ?_
      rw [eq_comm, List.map_eq_nil_iff]
    rw [hdangling, List.filter_eq_nil_iff]
    constructor
    · intro hnone
      refine .inr fun entry hmem => ?_
      rcases List.mem_iff_getElem?.mp hmem with ⟨i, hentry⟩
      simpa using hnone (entry, i) (List.mem_zipIdx_iff_getElem?.mpr hentry)
    · intro h entry hmem
      rcases h with hconform | hnone
      · exact absurd hconform hconforms
      · simpa using hnone entry.1 (List.mem_of_getElem? (List.mem_zipIdx_iff_getElem?.mp hmem))

/-- Replacing a result replaces it in the list. -/
theorem results_replace (s : BadgeSubject) (j : Nat) (value : Json) :
    (s.replace j value).results = s.results.set j value :=
  rfl

/-- Replacing a result leaves the descriptions as they are. -/
theorem descriptions_replace (s : BadgeSubject) (j : Nat) (value : Json) :
    (s.replace j value).descriptions = s.descriptions :=
  rfl

/-- A replaced result keeps a subject that conforms so exactly if it has the shape. -/
theorem conforms_replace (s : BadgeSubject) (hconforms : s.conforms = true) {j : Nat}
    (hj : j < s.results.length) (value : Json) :
    (s.replace j value).conforms = isResultShaped value := by
  rw [conforms, Bool.and_eq_true] at hconforms
  rw [conforms, results_replace, descriptions_replace, hconforms.2, Bool.and_true]
  by_cases hvalue : isResultShaped value = true
  · rw [hvalue, List.all_eq_true]
    intro entry hmem
    rcases List.mem_or_eq_of_mem_set hmem with hold | hnew
    · exact List.all_eq_true.mp hconforms.1 entry hold
    · rw [hnew, hvalue]
  · rw [Bool.eq_false_of_not_eq_true hvalue, List.all_eq_false]
    exact ⟨value, List.mem_set hj value, hvalue⟩

end BadgeSubject

/-- The reference check reports every dangling reference exactly if all entries have their
shape or none dangles.  A report at one index survives the replacement of another result
exactly if the value put there has the shape, unless there was no report. -/
theorem resultRules_resilient_iff (s : BadgeSubject) (subject : VerificationSubject)
    (hin : s.In subject) :
    (s.ReportsDangling subject ↔ s.conforms = true ∨
      ∀ entry ∈ s.results, ResultRule.resultRef.breaks s.descriptions entry = false) ∧
    ∀ (rule : ResultRule) (i j : Nat) (value : Json) (replaced : VerificationSubject),
      i ≠ j → j < s.results.length → (s.replace j value).In replaced →
        ((ReportsAt (rule.outcome subject) i → ReportsAt (rule.outcome replaced) i) ↔
          isResultShaped value = true ∨ s.conforms = false ∨
            ∀ entry, s.results[i]? = some entry →
              rule.breaks s.descriptions entry = false) := by
  refine ⟨BadgeSubject.reportsDangling_iff hin, ?_⟩
  intro rule i j value replaced hne hj hreplaced
  have hsame : (s.results.set j value)[i]? = s.results[i]? := List.getElem?_set_ne hne.symm
  rw [BadgeSubject.reportsAt_iff rule hin, BadgeSubject.reportsAt_iff rule hreplaced,
    BadgeSubject.results_replace, BadgeSubject.descriptions_replace, hsame]
  by_cases hconforms : s.conforms = true
  · rw [s.conforms_replace hconforms hj]
    constructor
    · intro hstays
      by_cases hbroken : ∃ entry, s.results[i]? = some entry ∧
          rule.breaks s.descriptions entry = true
      · exact .inl (hstays ⟨hconforms, hbroken⟩).1
      · refine .inr (.inr fun entry hentry => ?_)
        exact Bool.eq_false_of_not_eq_true fun hbreaks => hbroken ⟨entry, hentry, hbreaks⟩
    · rintro (hvalue | hmalformed | hnone) ⟨_, entry, hentry, hbreaks⟩
      · exact ⟨hvalue, entry, hentry, hbreaks⟩
      · rw [hconforms] at hmalformed
        cases hmalformed
      · rw [hnone entry hentry] at hbreaks
        cases hbreaks
  · exact iff_of_true (fun h => absurd h.1 hconforms)
      (.inr (.inl (Bool.eq_false_of_not_eq_true hconforms)))

/-! ### A malformed neighbour -/

namespace MalformedNeighbour

/-- An achievement that describes a status. -/
def achievement : List (String × Json) :=
  [("resultDescription", .arr [.obj [("id", .str "urn:status"), ("resultType", .str "Status")]])]

/-- A result that claims a level and has no status, one with a dangling reference, and one
behind them. -/
def results (last : Json) : List Json :=
  [.obj [("resultDescription", .str "urn:status"), ("achievedLevel", .str "urn:gold")],
    .obj [("resultDescription", .str "urn:missing")],
    last]

/-- The subject with these results. -/
def badge (last : Json) : BadgeSubject where
  members := [("achievement", .obj achievement), ("result", .arr (results last))]
  achievement := achievement
  results := results last
  descriptions := [.obj [("id", .str "urn:status"), ("resultType", .str "Status")]]
  result_eq := rfl
  achievement_eq := rfl
  description_eq := rfl

/-- The subject in a credential. -/
def subject (last : Json) : VerificationSubject :=
  { verifiableCredential := some (.obj [("credentialSubject", .obj (badge last).members)]) }

/-- The subject is the one of the badge. -/
theorem badge_in (last : Json) : (badge last).In (subject last) :=
  ⟨_, rfl, rfl⟩

/-- A result with a text for its status. -/
def whole : Json := .obj [("status", .str "completed")]

/-- A result with a number for its status. -/
def numeric : Json := .obj [("status", .num ((5 : ℚ) : WithTop ℚ))]

theorem replace_in : ((badge whole).replace 2 numeric).In (subject numeric) :=
  ⟨_, rfl, rfl⟩

/-- The index a rule reports at as long as the last result has the shape. -/
def reported : ResultRule → Nat
  | .resultRef => 1
  | .achievedLevel => 0
  | .missingStatus => 0

end MalformedNeighbour

open MalformedNeighbour in
/-- Beside a result with a number for its status, the missing status of another is no longer
reported. -/
theorem resultRules_resilient_iff_numeric :
    (badge whole).ReportsDangling (subject whole) ∧
      ¬(ReportsAt (ResultRule.missingStatus.outcome (subject whole)) 0 →
        ReportsAt (ResultRule.missingStatus.outcome (subject numeric)) 0) := by
  have h := resultRules_resilient_iff (badge whole) (subject whole) (badge_in whole)
  refine ⟨h.1.mpr (.inl (by decide)), ?_⟩
  rw [h.2 .missingStatus 0 2 numeric (subject numeric) (by decide) (by decide) replace_in]
  decide

open MalformedNeighbour in
/-- With a number for the status of the last result no rule reports anything. -/
theorem not_resultRules_resilient :
    ¬(badge numeric).ReportsDangling (subject numeric) ∧
      ∀ rule : ResultRule, ReportsAt (rule.outcome (subject whole)) (reported rule) ∧
        ((badge whole).replace 2 numeric).In (subject numeric) ∧
          ¬ReportsAt (rule.outcome (subject numeric)) (reported rule) := by
  constructor
  · rw [BadgeSubject.reportsDangling_iff (badge_in numeric)]
    decide
  · intro rule
    refine ⟨?_, replace_in, ?_⟩
    · rw [BadgeSubject.reportsAt_iff rule (badge_in whole)]
      cases rule with
      | resultRef => exact ⟨by decide, _, rfl, by decide⟩
      | achievedLevel => exact ⟨by decide, _, rfl, by decide⟩
      | missingStatus => exact ⟨by decide, _, rfl, by decide⟩
    · rw [BadgeSubject.reportsAt_iff rule (badge_in numeric)]
      exact fun h => absurd h.1 (by decide)

end VerifierCore
