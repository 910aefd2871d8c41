import VerifierCore.OpenBadges.Recognizers

/-!
# Normalized forms

What an envelope returns is read by consumers, stored and parsed again.  The string forms
of a `type`, a profile and an image are rewritten on the first parse; each rewritten form
is one that the same schema leaves alone, at any depth.

Main results:

- Theorem {lit}`stable_obv3p0AchievementSubjectSchema`: the classes return again what they
  returned.
- Theorem {lit}`normalized_recognized`: a normalized credential is recognized, and is its own
  normalized form.
-/

namespace VerifierCore

open Zod

/-! ## Field builders -/

/-- A string is returned as it is. -/
theorem verbatim_textString : Verbatim (text string) := by
  intro value output h
  exact text_output (Parsed.output_of_accepted h)

@[simp]
theorem stable_textString : Stable (text string) :=
  verbatim_textString.stable

@[simp]
theorem stable_iriString : Stable iriString :=
  stable_text_checked _ _

theorem stable_stringOrStrings : Stable stringOrStrings :=
  Verbatim.stable fun _ _ h => stringOrStrings_accepted h

@[simp]
theorem stable_obv3p0ContextArray : Stable obv3p0ContextArray :=
  Verbatim.stable fun _ _ h => (obv3p0ContextArray_output (Parsed.output_of_accepted h)).1

/-- What is accepted as a string or as strings is accepted as an array of them. -/
theorem stringOrStrings_asArray {types : Json}
    (h : (stringOrStrings (some types)).accepted = some types) :
    (stringOrStrings (some (asArray types))).accepted = some (asArray types) := by
  cases types with
  | str s => rfl
  | arr items => exact h
  | null | bool | num | obj => cases h

/-- A list of values is its own list. -/
theorem asArray_asArray (value : Json) : asArray (asArray value) = asArray value := by
  cases value <;> rfl

/-- A `type` that was read as an array is read as the same array. -/
@[simp]
theorem stable_jsonLdTypeField (requiredTypes : List String) :
    Stable (jsonLdTypeField requiredTypes) := by
  apply stable_refine
  intro value output haccepted
  rw [accepted_transform] at haccepted ⊢
  rcases Option.map_eq_some_iff.mp haccepted with ⟨types, htypes, rfl⟩
  have hstable := stable_stringOrStrings value types htypes
  rw [stringOrStrings_asArray hstable, Option.map_some, asArray_asArray]

/-! ## References by IRI -/

/-- No object is an IRI. -/
theorem iriString_obj (members : List (String × Json)) :
    (iriString (some (.obj members))).accepted = none :=
  rfl

/-- An accepted IRI is a string, and accepted again. -/
theorem iriString_accepted {value : Option Json} {id : Json}
    (h : (iriString value).accepted = some id) :
    (iriString (some id)).accepted = some id ∧ ∃ s, id = .str s := by
  refine ⟨stable_iriString value id h, ?_⟩
  rw [iriString, text, Parsed.accepted_map] at h
  rcases Option.map_eq_some_iff.mp h with ⟨s, _, rfl⟩
  exact ⟨s, rfl⟩

/-- What an object schema returns is an object. -/
theorem passthrough_accepted {fields : Fields} {value : Option Json} {output : Json}
    (h : (passthrough fields value).accepted = some output) : ∃ members, output = .obj members := by
  unfold passthrough at h
  split at h
  · rw [Parsed.accepted_map] at h
    rcases Option.map_eq_some_iff.mp h with ⟨read, _, rfl⟩
    exact ⟨_, rfl⟩
  · cases h

/-- An object, or the IRI of one: stable if the object that stands for an IRI is accepted
as it is. -/
theorem stable_reference {fields : Fields} {refer : Json → List (String × Json)}
    (hfields : Stable (passthrough fields))
    (hrefer : ∀ id, (iriString (some id)).accepted = some id →
      (passthrough fields (some (.obj (refer id)))).accepted = some (.obj (refer id))) :
    Stable (union (transform iriString fun id => .obj (refer id)) (passthrough fields)) := by
  have hrejects (members : List (String × Json)) :
      (transform iriString (fun id => Json.obj (refer id)) (some (.obj members))).accepted =
        none := by
    rw [accepted_transform, iriString_obj, Option.map_none]
  apply stable_union
  · intro value output haccepted
    rw [accepted_transform] at haccepted
    rcases Option.map_eq_some_iff.mp haccepted with ⟨id, hid, rfl⟩
    exact ⟨hrejects (refer id), hrefer id (iriString_accepted hid).1⟩
  · exact hfields
  · intro value output haccepted
    rcases passthrough_accepted haccepted with ⟨members, rfl⟩
    exact hrejects members

/-- The fields accept what they read, with nothing left over. -/
theorem passthrough_obj {fields : Fields} {members read : List (String × Json)}
    (hread : (readFields (.obj members) fields).accepted = some read)
    (hunread : unread fields members = []) :
    (passthrough fields (some (.obj members))).accepted = some (.obj read) := by
  rw [passthrough, Parsed.accepted_map, hread, Option.map_some, hunread, List.append_nil]

/-- A first field that is accepted stands in front of the members the others return. -/
theorem readFields_cons {value : Json} {fields : Fields} {f : String × Schema (Option Json)}
    {v : Json} {read : List (String × Json)}
    (hfield : (f.2 (value.get? f.1)).accepted = some (some v))
    (hread : (readFields value fields).accepted = some read) :
    (readFields value (f :: fields)).accepted = some ((f.1, v) :: read) := by
  rw [readFields, Parsed.accepted_seq, Parsed.accepted_map, accepted_field, hfield, hread]
  rfl

/-- Optional fields that are missing leave nothing behind. -/
theorem readFields_missing {value : Json} {fields : Fields}
    (h : ∀ f ∈ fields, (f.2 (value.get? f.1)).accepted = some none) :
    (readFields value fields).accepted = some [] := by
  induction fields with
  | nil => rfl
  | cons f fields ih =>
      rw [List.forall_mem_cons] at h
      rw [readFields, Parsed.accepted_seq, Parsed.accepted_map, accepted_field, h.1, ih h.2]
      rfl

/-- A value that its schema returns is returned by the required field. -/
theorem required_accepted_self {schema : Schema Json} {value : Json}
    (h : (schema (some value)).accepted = some value) :
    (required schema (some value)).accepted = some (some value) := by
  rw [required, Parsed.accepted_map, h, Option.map_some]

/-- The object that stands for the IRI of an image is an image. -/
@[simp]
theorem stable_imageField : Stable imageField := by
  refine stable_reference ?_ ?_
  · refine stable_passthrough ?_ (by simp)
    simp [imageType, stable_stringOrStrings]
  · intro id hid
    apply passthrough_obj
    · apply readFields_cons (required_accepted_self hid)
      apply readFields_cons (required_accepted_self rfl)
      apply readFields_missing
      simp only [List.forall_mem_cons, List.not_mem_nil, false_implies, implies_true, and_true]
      rfl
    · rfl

/-- The object that stands for the IRI of a profile is a profile. -/
@[simp]
theorem stable_profileRefField (formats : StringFormats) : Stable (profileRefField formats) := by
  refine stable_reference ?_ ?_
  · refine stable_passthrough ?_ (by simp)
    simp
  · intro id hid
    apply passthrough_obj
    · apply readFields_cons (required_accepted_self hid)
      apply readFields_cons (required_accepted_self rfl)
      apply readFields_missing
      simp only [List.forall_mem_cons, List.not_mem_nil, false_implies, implies_true, and_true]
      exact ⟨rfl, rfl, rfl, rfl, rfl⟩
    · rfl

/-! ## Classes -/

section Classes

variable (formats : StringFormats)

@[simp]
theorem stable_obv3p0AlignmentSchema : Stable (obv3p0AlignmentSchema formats) := by
  refine stable_passthrough ?_ (by simp)
  simp

@[simp]
theorem stable_obv3p0RubricCriterionLevelSchema :
    Stable (obv3p0RubricCriterionLevelSchema formats) := by
  refine stable_passthrough ?_ (by simp)
  simp

@[simp]
theorem stable_obv3p0ResultDescriptionSchema :
    Stable (obv3p0ResultDescriptionSchema formats) := by
  refine stable_passthrough ?_ (by simp)
  simp

@[simp]
theorem stable_obv3p0ResultSchema : Stable (obv3p0ResultSchema formats) := by
  refine stable_passthrough ?_ (by simp)
  simp

@[simp]
theorem stable_obv3p0CriteriaSchema : Stable (obv3p0CriteriaSchema formats) := by
  refine stable_passthrough ?_ (by simp)
  simp

/-- An achievement returns itself, with its creator and image expanded. -/
@[simp]
theorem stable_obv3p0AchievementSchema : Stable (obv3p0AchievementSchema formats) := by
  refine stable_passthrough ?_ (by simp)
  simp

@[simp]
theorem stable_obv3p0IdentityObjectSchema : Stable obv3p0IdentityObjectSchema := by
  refine stable_passthrough ?_ (by simp)
  simp

/-- Parsing the subject of a badge again changes nothing. -/
@[simp]
theorem stable_obv3p0AchievementSubjectSchema :
    Stable (obv3p0AchievementSubjectSchema formats) := by
  refine stable_refine (stable_passthrough ?_ (by simp [achievementSubjectFields]))
  simp [achievementSubjectFields]

@[simp]
theorem stable_obv3p0EndorsementSubjectSchema : Stable obv3p0EndorsementSubjectSchema := by
  refine stable_passthrough ?_ (by simp [endorsementSubjectFields])
  simp [endorsementSubjectFields]

/-- Parsing a badge again changes nothing. -/
theorem stable_obv3p0OpenBadgeCredentialSchema :
    Stable (obv3p0OpenBadgeCredentialSchema formats) := by
  refine stable_refine (stable_passthrough ?_ (by simp [openBadgeFields]))
  simp [openBadgeFields, openBadgeTypeField]

/-- Parsing an endorsement again changes nothing. -/
theorem stable_obv3p0EndorsementCredentialSchema :
    Stable (obv3p0EndorsementCredentialSchema formats) := by
  refine stable_refine (stable_passthrough ?_ (by simp [endorsementFields]))
  simp [endorsementFields, endorsementTypeField]

end Classes

/-! ## Recognized credentials -/

/-- A credential is recognized exactly if its envelope accepts it. -/
theorem recognitionResult_eq_recognized_iff {profile profile' : String} {parsed : Parsed Json}
    {normalized : Json} :
    recognitionResult profile parsed = .recognized profile' normalized ↔
      profile = profile' ∧ parsed.accepted = some normalized := by
  unfold recognitionResult
  cases parsed.accepted <;> simp

/-- What a stable envelope returned is recognized as it is. -/
theorem recognized_again {schema : Schema Json} (hstable : Stable schema) {profile profile' : String}
    {credential : Option Json} {normalized : Json}
    (h : recognitionResult profile (schema credential) = .recognized profile' normalized) :
    recognitionResult profile (schema (some normalized)) = .recognized profile' normalized := by
  rw [recognitionResult_eq_recognized_iff] at h ⊢
  exact ⟨h.1, hstable credential normalized h.2⟩

/-- The normalized form of a recognized credential is recognized, with itself as its
normalized form: a `type`, a profile or an image that was rewritten is left alone from then
on, wherever it is. -/
theorem normalized_recognized (formats : StringFormats) :
    (∀ credential profile normalized,
      parseObv3p0OpenBadgeCredential formats credential = .recognized profile normalized →
      parseObv3p0OpenBadgeCredential formats (some normalized) =
        .recognized profile normalized) ∧
    (∀ credential profile normalized,
      parseObv3p0EndorsementCredential formats credential = .recognized profile normalized →
      parseObv3p0EndorsementCredential formats (some normalized) =
        .recognized profile normalized) ∧
    (∀ requiredTypes, Stable (jsonLdTypeField requiredTypes)) ∧
    Stable (profileRefField formats) ∧ Stable imageField := by
  refine ⟨?_, ?_, stable_jsonLdTypeField, stable_profileRefField formats, stable_imageField⟩
  · intro credential profile normalized h
    exact recognized_again (stable_obv3p0OpenBadgeCredentialSchema formats) h
  · intro credential profile normalized h
    exact recognized_again (stable_obv3p0EndorsementCredentialSchema formats) h

/-! ### A badge of short forms -/

namespace SpecConforming

/-- The achievement with its type, creator and image as strings. -/
def shortAchievement : Json :=
  .obj [("id", .str "urn:example:achievement-1"),
    ("type", .str "Achievement"),
    ("name", .str "Example Course"),
    ("description", .str "A short example achievement."),
    ("criteria", .obj [("narrative", .str "Pass the exam.")]),
    ("creator", .str "did:example:creator"),
    ("image", .str "https://example.test/achievement.png")]

/-- A badge with its short forms: names in place of objects, single values in place of lists. -/
def shortBadge : Json :=
  .obj [("@context", context),
    ("id", .str "urn:uuid:33333333-3333-3333-3333-333333333333"),
    ("type", .arr [.str "VerifiableCredential", .str "OpenBadgeCredential"]),
    ("issuer", .str "did:example:issuer"),
    ("validFrom", .str "2024-01-01T00:00:00Z"),
    ("credentialSubject", .obj [("id", .str "did:example:recipient"),
      ("type", .str "AchievementSubject"),
      ("achievement", shortAchievement)])]

/-- The short forms are rewritten. -/
theorem shortBadge_recognized : ∃ normalized,
    parseObv3p0OpenBadgeCredential formats (some shortBadge) =
      .recognized obv3p0OpenBadgeProfile normalized ∧ normalized ≠ shortBadge := by
  have hread : ((obv3p0OpenBadgeCredentialSchema formats (some shortBadge)).accepted.filter
      fun normalized => normalized ≠ shortBadge).isSome := by
    decide +kernel
  rcases Option.isSome_iff_exists.mp hread with ⟨normalized, hnormalized⟩
  rw [Option.filter_eq_some_iff, decide_eq_true_eq] at hnormalized
  exact ⟨normalized, recognitionResult_eq_recognized_iff.mpr ⟨rfl, hnormalized.1⟩, hnormalized.2⟩

/-- An endorsement is recognized too. -/
theorem endorsement_recognized : ∃ normalized,
    parseObv3p0EndorsementCredential formats (some endorsement) =
      .recognized obv3p0EndorsementProfile normalized := by
  have hread :
      (obv3p0EndorsementCredentialSchema formats (some endorsement)).accepted.isSome := by
    decide +kernel
  rcases Option.isSome_iff_exists.mp hread with ⟨normalized, hnormalized⟩
  exact ⟨normalized, recognitionResult_eq_recognized_iff.mpr ⟨rfl, hnormalized⟩⟩

end SpecConforming

open SpecConforming in
/-- The rewritten badge is its own normalized form, and so is the endorsement. -/
theorem normalized_recognized_short :
    (∃ normalized, normalized ≠ shortBadge ∧
      parseObv3p0OpenBadgeCredential formats (some normalized) =
        .recognized obv3p0OpenBadgeProfile normalized) ∧
    ∃ normalized, parseObv3p0EndorsementCredential formats (some normalized) =
      .recognized obv3p0EndorsementProfile normalized := by
  rcases shortBadge_recognized with ⟨badge, hbadge, hrewritten⟩
  rcases endorsement_recognized with ⟨endorsed, hendorsed⟩
  exact ⟨⟨badge, hrewritten, (normalized_recognized formats).1 _ _ _ hbadge⟩,
    endorsed, (normalized_recognized formats).2.1 _ _ _ hendorsed⟩

end VerifierCore
