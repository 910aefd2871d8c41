import VerifierCore.OpenBadges.Zod
import VerifierCore.Text

/-!
# Strict schemas

The field builders and the classes of Open Badges 3.0 that the strict envelopes are made of.
A `type` is read as an array, and a profile or an image that is given by its IRI as an
object; everything else is passed through as issued.

Main results:

- Theorem {lit}`jsonLdTypeField_accepted`: an accepted `type` holds the types it requires.
- Theorem {lit}`obv3p0ContextArray_accepted`: an accepted context has an Open Badges context
  among its strings.
- Theorem {lit}`definite_obv3p0AchievementSubjectSchema`: the classes give a value up only
  with an issue.
-/

namespace VerifierCore

open Zod

/-! ## Field builders -/

/-- Where the contexts of the standard are published. -/
def ob30ContextPrefix : String :=
  "https://purl.imsglobal.org/spec/ob/v3p0/context-3"

/-- A character of the scheme of an IRI behind its first one. -/
def isSchemeChar (c : Char) : Bool :=
  c.isAlphanum || c = '+' || c = '.' || c = '-'

/-- The text matches `^[a-zA-Z][a-zA-Z0-9+.-]*:.+`; one character behind the colon is
enough. -/
def isIri (s : String) : Bool :=
  match s.toList with
  | [] => false
  | c :: rest =>
      c.isAlpha &&
        match rest.dropWhile isSchemeChar with
        | ':' :: next :: _ => !isLineTerminator next
        | _ => false

/-- An IRI, as far as it is tested: a scheme and something behind it. -/
def iriString : Schema Json :=
  text (checked isIri "Expected an IRI (scheme:rest)")

/-- A string, or an array of strings. -/
def stringOrStrings : Schema Json :=
  union (text string) (arrayOf (text string))

/-- A single value as an array. -/
def asArray : Json → Json
  | .arr items => .arr items
  | value => .arr [value]

/-- One issue for each required type that is not there. -/
def requireTypes (requiredTypes : List String) (types : Json) : List Issue :=
  (requiredTypes.filter fun name => name ∉ stringValues (some types)).map fun name =>
    { path := [], message := s!"type must include '{name}'" }

/-- A `type` member that names all the required types, returned as a list. -/
def jsonLdTypeField (requiredTypes : List String) : Schema Json :=
  refine (transform stringOrStrings asArray) (requireTypes requiredTypes)

/-- One issue unless the values pass the test. -/
def requireStrings (test : List String → Bool) (message : String) (value : Json) : List Issue :=
  if test (stringValues (some value)) then [] else [{ path := [], message := message }]

/-- A list of contexts, the first of them of a data model and one of the standard. -/
def obv3p0ContextArray : Schema Json :=
  refine
    (refine (nonempty "@context must be a non-empty array" (text string))
      (requireStrings (fun contexts => contexts.head?.any fun c =>
          c = vcContextV1 || c = vcContextV2)
        "@context[0] must be a VCDM context (v1 or v2)"))
    (requireStrings (fun contexts => contexts.any fun c => startsWith c ob30ContextPrefix)
      s!"@context must include the OB 3.0 context ({ob30ContextPrefix}*)")

/-- The type of every problem that a parse reports. -/
def obMalformedEnvelopeType : String :=
  "urn:dcc-verifier:openbadges:malformed-envelope"

/-- Every issue as a problem; an issue with the value itself has no pointer. -/
def zodErrorToProblems (issues : List Issue) : List ProblemDetail :=
  issues.map fun issue =>
    { type := obMalformedEnvelopeType
      title := "Malformed Open Badges 3.0 Envelope"
      detail := issue.message
      instance? := if issue.path = [] then none else some (formatJsonPointer issue.path) }

/-! ## Classes -/

section Classes

variable (formats : StringFormats)

/-- The `type` of an image stays as issued. -/
def imageType : Schema Json :=
  refine stringOrStrings (requireTypes ["Image"])

/-- An image of a badge, its profile or its achievement. -/
def obv3p0ImageSchema : Schema Json :=
  passthrough
    [("id", required iriString),
      ("type", required imageType),
      ("caption", optional (text string))]

/-- An image, or the IRI of one. -/
def imageField : Schema Json :=
  union (transform iriString fun id => .obj [("id", id), ("type", .str "Image")])
    obv3p0ImageSchema

/-- The profile of an issuer or a creator. -/
def obv3p0ProfileSchema : Schema Json :=
  passthrough
    [("id", required iriString),
      ("type", required (jsonLdTypeField ["Profile"])),
      ("name", optional (text string)),
      ("url", optional (url formats)),
      ("description", optional (text string)),
      ("image", optional imageField),
      ("email", optional (text (checked (fun s => s.toList.contains '@')
        "email must contain \"@\"")))]

/-- A profile, or the IRI of one. -/
def profileRefField : Schema Json :=
  union (transform iriString fun id => .obj [("id", id), ("type", .arr [.str "Profile"])])
    (obv3p0ProfileSchema formats)

/-- An alignment of an achievement with a framework. -/
def obv3p0AlignmentSchema : Schema Json :=
  passthrough
    [("type", required (jsonLdTypeField ["Alignment"])),
      ("targetName", required (text string)),
      ("targetUrl", required (url formats)),
      ("targetCode", optional (text string)),
      ("targetDescription", optional (text string)),
      ("targetFramework", optional (text string)),
      ("targetType", optional (text string))]

/-- A level of a rubric that a result can claim. -/
def obv3p0RubricCriterionLevelSchema : Schema Json :=
  passthrough
    [("id", required (url formats)),
      ("type", required (jsonLdTypeField ["RubricCriterionLevel"])),
      ("name", required (text string)),
      ("alignment", optional (arrayOf (obv3p0AlignmentSchema formats))),
      ("description", optional (text string)),
      ("level", optional (text string)),
      ("points", optional (text string))]

/-- What a result of an achievement looks like. -/
def obv3p0ResultDescriptionSchema : Schema Json :=
  passthrough
    [("id", required (url formats)),
      ("type", required (jsonLdTypeField ["ResultDescription"])),
      ("name", required (text string)),
      ("resultType", required (text string)),
      ("alignment", optional (arrayOf (obv3p0AlignmentSchema formats))),
      ("allowedValue", optional (arrayOf (text string))),
      ("requiredLevel", optional (url formats)),
      ("requiredValue", optional (text string)),
      ("rubricCriterionLevel", optional (arrayOf (obv3p0RubricCriterionLevelSchema formats))),
      ("valueMax", optional (text string)),
      ("valueMin", optional (text string))]

/-- A result that the subject of a badge achieved. -/
def obv3p0ResultSchema : Schema Json :=
  passthrough
    [("type", required (jsonLdTypeField ["Result"])),
      ("achievedLevel", optional (url formats)),
      ("alignment", optional (arrayOf (obv3p0AlignmentSchema formats))),
      ("resultDescription", optional (url formats)),
      ("status", optional (text string)),
      ("value", optional (text string))]

/-- The criteria of an achievement. -/
def obv3p0CriteriaSchema : Schema Json :=
  passthrough
    [("id", optional (url formats)),
      ("narrative", optional (text string))]

/-- The achievement of a badge. -/
def obv3p0AchievementSchema : Schema Json :=
  passthrough
    [("id", required (url formats)),
      ("type", required (jsonLdTypeField ["Achievement"])),
      ("criteria", required (obv3p0CriteriaSchema formats)),
      ("description", required (text string)),
      ("name", required (text string)),
      ("alignment", optional (arrayOf (obv3p0AlignmentSchema formats))),
      ("creator", optional (profileRefField formats)),
      ("image", optional imageField),
      ("resultDescription", optional (arrayOf (obv3p0ResultDescriptionSchema formats)))]

/-- An object that identifies the subject. -/
def obv3p0IdentityObjectSchema : Schema Json :=
  passthrough [("type", required (jsonLdTypeField ["IdentityObject"]))]

/-- A subject is identified by an id or by identifier objects. -/
def requireRecipient (subject : Json) : List Issue :=
  let hasId := (asString (subject.get? "id")).any fun id => id ≠ ""
  let hasIdentifier :=
    match subject.get? "identifier" with
    | some (.arr (_ :: _)) => true
    | _ => false
  if !hasId && !hasIdentifier then
    [{ path := [], message := "AchievementSubject requires either id or non-empty identifier[]" }]
  else []

/-- The fields of the subject of a badge. -/
def achievementSubjectFields : Fields :=
  [("type", required (jsonLdTypeField ["AchievementSubject"])),
    ("achievement", required (obv3p0AchievementSchema formats)),
    ("id", optional (url formats)),
    ("identifier", optional (arrayOf obv3p0IdentityObjectSchema)),
    ("result", optional (arrayOf (obv3p0ResultSchema formats))),
    ("image", optional imageField)]

/-- The subject of a badge. -/
def obv3p0AchievementSubjectSchema : Schema Json :=
  refine (passthrough (achievementSubjectFields formats)) requireRecipient

end Classes

/-! ## What is accepted -/

/-- A string is passed on. -/
theorem text_output {value : Option Json} {output : Json}
    (h : (text string value).output = some output) : value = some output := by
  unfold text string at h
  split at h
  · cases h
    rfl
  · cases h

/-- A parse of strings returns the items it read. -/
theorem items_text_output {values outputs : List Json} {i : Nat}
    (h : (items (text string) values i).output = some outputs) : outputs = values := by
  induction values generalizing outputs i with
  | nil =>
      cases h
      rfl
  | cons value rest ih =>
      rcases Option.bind_eq_some_iff.mp h with ⟨cons, hcons, hmap⟩
      rcases Option.map_eq_some_iff.mp hcons with ⟨output, hfirst, rfl⟩
      rcases Option.map_eq_some_iff.mp hmap with ⟨back, hback, rfl⟩
      rw [ih hback, Option.some.inj (text_output hfirst)]

/-- An array of strings is passed on. -/
theorem strings_output {value : Option Json} {output : Json}
    (h : (arrayOf (text string) value).output = some output) :
    value = some output ∧ ∃ items, output = .arr items := by
  rcases Option.map_eq_some_iff.mp h with ⟨outputs, houtputs, rfl⟩
  unfold array at houtputs
  split at houtputs
  · rename_i values
    rw [items_text_output houtputs]
    exact ⟨rfl, values, rfl⟩
  · cases houtputs

/-- A string or a list of strings is returned as it was read. -/
theorem stringOrStrings_accepted {value : Option Json} {output : Json}
    (h : (stringOrStrings value).accepted = some output) : value = some output := by
  rw [stringOrStrings, accepted_union] at h
  cases hfirst : (text string value).accepted with
  | some first =>
      rw [hfirst] at h
      cases h
      exact text_output (Parsed.output_of_accepted hfirst)
  | none =>
      rw [hfirst, Option.none_or] at h
      exact (strings_output (Parsed.output_of_accepted h)).1

/-- A single value and the list of it have the same strings. -/
theorem stringValues_asArray (value : Json) :
    stringValues (some (asArray value)) = stringValues (some value) := by
  cases value <;> rfl

/-- A `type` raises no issue exactly if it names all the required types. -/
theorem requireTypes_eq_nil_iff (requiredTypes : List String) (types : Json) :
    requireTypes requiredTypes types = [] ↔
      ∀ name ∈ requiredTypes, name ∈ stringValues (some types) := by
  simp [requireTypes, List.filter_eq_nil_iff]

/-- Strings raise no issue exactly if they pass the test. -/
theorem requireStrings_eq_nil_iff (test : List String → Bool) (message : String) (value : Json) :
    requireStrings test message value = [] ↔ test (stringValues (some value)) = true := by
  simp [requireStrings]

/-- An accepted output of a refined schema passes the check. -/
theorem refine_accepted {schema : Schema Json} {check : Json → List Issue} {value : Option Json}
    {output : Json} (h : (refine schema check value).accepted = some output) :
    (schema value).accepted = some output ∧ check output = [] := by
  rw [accepted_refine, Option.filter_eq_some_iff] at h
  exact ⟨h.1, by simpa using h.2⟩

/-- An accepted `type` holds the types it requires, and keeps its strings. -/
theorem jsonLdTypeField_accepted {requiredTypes : List String} {value : Option Json}
    {output : Json} (h : (jsonLdTypeField requiredTypes value).accepted = some output) :
    stringValues (some output) = stringValues value ∧
      ∀ name ∈ requiredTypes, name ∈ stringValues value := by
  rcases refine_accepted h with ⟨hbase, hcheck⟩
  rw [accepted_transform] at hbase
  rcases Option.map_eq_some_iff.mp hbase with ⟨types, htypes, rfl⟩
  rw [requireTypes_eq_nil_iff, stringValues_asArray] at hcheck
  rw [stringOrStrings_accepted htypes, stringValues_asArray]
  exact ⟨rfl, hcheck⟩

/-- A context that is an array of strings is passed on. -/
theorem obv3p0ContextArray_output {value : Option Json} {output : Json}
    (h : (obv3p0ContextArray value).output = some output) :
    value = some output ∧ ∃ items, output = .arr items := by
  have hstrings : (nonempty "@context must be a non-empty array" (text string) value).output =
      some output := h
  unfold nonempty at hstrings
  split at hstrings
  · cases hstrings
    exact ⟨rfl, [], rfl⟩
  · exact strings_output hstrings

/-- An accepted context has an Open Badges context among its strings. -/
theorem obv3p0ContextArray_accepted {value : Option Json} {output : Json}
    (h : (obv3p0ContextArray value).accepted = some output) :
    ∃ context ∈ stringValues value, startsWith context ob30ContextPrefix = true := by
  have hbadge := (refine_accepted h).2
  rw [requireStrings_eq_nil_iff, List.any_eq_true] at hbadge
  rw [(obv3p0ContextArray_output (Parsed.output_of_accepted h)).1]
  exact hbadge

/-! ## Definite classes -/

section Definite

variable (formats : StringFormats)

@[simp]
theorem definite_textString : Definite (text string) :=
  definite_text definite_string

@[simp]
theorem definite_iriString : Definite iriString :=
  definite_text (definite_checked _ _)

@[simp]
theorem definite_stringOrStrings : Definite stringOrStrings :=
  definite_union definite_textString (definite_arrayOf definite_textString)

@[simp]
theorem definite_jsonLdTypeField (requiredTypes : List String) :
    Definite (jsonLdTypeField requiredTypes) :=
  definite_refine (definite_transform definite_stringOrStrings)

@[simp]
theorem definite_obv3p0ContextArray : Definite obv3p0ContextArray :=
  definite_refine (definite_refine (definite_nonempty _ definite_textString))

@[simp]
theorem definite_imageField : Definite imageField := by
  refine definite_union (definite_transform definite_iriString) (definite_passthrough ?_)
  simp [imageType]

@[simp]
theorem definite_profileRefField : Definite (profileRefField formats) := by
  refine definite_union (definite_transform definite_iriString) (definite_passthrough ?_)
  simp

@[simp]
theorem definite_obv3p0AlignmentSchema : Definite (obv3p0AlignmentSchema formats) := by
  refine definite_passthrough ?_
  simp

@[simp]
theorem definite_obv3p0RubricCriterionLevelSchema :
    Definite (obv3p0RubricCriterionLevelSchema formats) := by
  refine definite_passthrough ?_
  simp

@[simp]
theorem definite_obv3p0ResultDescriptionSchema :
    Definite (obv3p0ResultDescriptionSchema formats) := by
  refine definite_passthrough ?_
  simp

@[simp]
theorem definite_obv3p0ResultSchema : Definite (obv3p0ResultSchema formats) := by
  refine definite_passthrough ?_
  simp

@[simp]
theorem definite_obv3p0CriteriaSchema : Definite (obv3p0CriteriaSchema formats) := by
  refine definite_passthrough ?_
  simp

@[simp]
theorem definite_obv3p0AchievementSchema : Definite (obv3p0AchievementSchema formats) := by
  refine definite_passthrough ?_
  simp

@[simp]
theorem definite_obv3p0IdentityObjectSchema : Definite obv3p0IdentityObjectSchema := by
  refine definite_passthrough ?_
  simp

/-- The fields of an achievement subject. -/
theorem definite_achievementSubjectFields :
    ∀ f ∈ achievementSubjectFields formats, Definite f.2 := by
  simp [achievementSubjectFields]

@[simp]
theorem definite_obv3p0AchievementSubjectSchema :
    Definite (obv3p0AchievementSubjectSchema formats) :=
  definite_refine (definite_passthrough (definite_achievementSubjectFields formats))

end Definite

end VerifierCore
