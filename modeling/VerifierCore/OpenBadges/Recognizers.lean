import VerifierCore.OpenBadges.Classes
import VerifierCore.Suites.Registry

/-!
# Recognizers

The two Open Badges recognizers: the predicates that gate them, the envelopes they parse
with and what they return.

Main results:

- Theorem {lit}`acceptedEnvelopes_gated`: which of the credentials that the envelopes accept
  pass the gate.
-/

namespace VerifierCore

open Zod

/-! ## Gates -/

/-- The start of the contexts of version 3.0. -/
def obv303ContextMatcher : String :=
  "https://purl.imsglobal.org/spec/ob/v3p0/context-3"

/-- A member of a value that may be missing itself. -/
def memberOf (value : Option Json) (key : String) : Option Json :=
  value.bind fun v => v.get? key

/-- The credential names a context of the standard. -/
def hasObv3Context (credential : Option Json) : Bool :=
  (stringValues (memberOf credential "@context")).any fun context =>
    startsWith context obv303ContextMatcher

/-- The credential names the type, alone or in a list. -/
def hasType (credential : Option Json) (typeName : String) : Bool :=
  match memberOf credential "type" with
  | some (.str type) => type = typeName
  | some (.arr types) => types.any fun type => type = .str typeName
  | _ => false

/-- The credential says that it is a badge. -/
def isOpenBadgeCredential (credential : Option Json) : Bool :=
  hasObv3Context credential && hasType credential "OpenBadgeCredential"

/-- The credential says that it is an endorsement. -/
def isEndorsementCredential (credential : Option Json) : Bool :=
  hasObv3Context credential && hasType credential "EndorsementCredential"

/-- The strings of a list are its items that are strings. -/
theorem mem_stringValues_arr (items : List Json) (s : String) :
    s ∈ stringValues (some (.arr items)) ↔ ∃ item ∈ items, item = .str s := by
  simp only [stringValues, List.mem_filterMap, List.bind_eq_flatMap, List.mem_flatMap,
    List.pure_def, List.mem_singleton]
  constructor
  · rintro ⟨_, ⟨item, hitem, rfl⟩, hstring⟩
    cases item with
    | str text =>
        cases hstring
        exact ⟨_, hitem, rfl⟩
    | null | bool | num | arr | obj => cases hstring
  · rintro ⟨_, hitem, rfl⟩
    exact ⟨_, ⟨_, hitem, rfl⟩, rfl⟩

/-- A credential has a type exactly if the type is one of its strings. -/
theorem hasType_eq (credential : Option Json) (typeName : String) :
    hasType credential typeName =
      decide (typeName ∈ stringValues (memberOf credential "type")) := by
  cases htype : memberOf credential "type" with
  | none => simp [hasType, htype, stringValues]
  | some type =>
      cases type with
      | str s => simp [hasType, htype, stringValues, eq_comm]
      | arr types =>
          rw [Bool.eq_iff_iff, decide_eq_true_eq, mem_stringValues_arr, hasType, htype]
          simp
      | null | bool | num | obj => simp [hasType, htype, stringValues]

/-! ## Envelopes -/

/-- The date that the version of the credential calls for. -/
def requireDates (credential : Json) : List Issue :=
  let head := match credential.get? "@context" with
    | some (.arr contexts) => contexts.head?
    | _ => none
  (if head = some (.str vcContextV1) ∧ credential.get? "issuanceDate" = none then
    [{ path := [.name "issuanceDate"]
       message := "issuanceDate is required for VCDM v1 credentials" }]
  else []) ++
  (if head = some (.str vcContextV2) ∧ credential.get? "validFrom" = none then
    [{ path := [.name "validFrom"]
       message := "validFrom is required for VCDM v2 credentials" }]
  else [])

/-- The `type` of an Open Badge. -/
def openBadgeTypeField : Schema Json :=
  refine (jsonLdTypeField ["VerifiableCredential"])
    (requireStrings (fun types => "AchievementCredential" ∈ types || "OpenBadgeCredential" ∈ types)
      "type must include 'AchievementCredential' or 'OpenBadgeCredential'")

/-- The `type` of an endorsement. -/
def endorsementTypeField : Schema Json :=
  refine (jsonLdTypeField ["VerifiableCredential"])
    (requireStrings (fun types => "EndorsementCredential" ∈ types)
      "type must include 'EndorsementCredential'")

section Envelopes

variable (formats : StringFormats)

/-- The fields of the envelope of a badge. -/
def openBadgeFields : Fields :=
  [("@context", required obv3p0ContextArray),
    ("id", required iriString),
    ("type", required openBadgeTypeField),
    ("issuer", required (profileRefField formats)),
    ("issuanceDate", optional (datetime formats)),
    ("validFrom", optional (datetime formats)),
    ("validUntil", optional (datetime formats)),
    ("image", optional imageField),
    ("credentialSubject", required (obv3p0AchievementSubjectSchema formats))]

/-- A badge as a whole. -/
def obv3p0OpenBadgeCredentialSchema : Schema Json :=
  refine (passthrough (openBadgeFields formats)) requireDates

/-- The fields of the subject of an endorsement. -/
def endorsementSubjectFields : Fields :=
  [("id", required iriString),
    ("type", required (jsonLdTypeField ["EndorsementSubject"])),
    ("endorsementComment", optional (text string))]

/-- The subject of an endorsement. -/
def obv3p0EndorsementSubjectSchema : Schema Json :=
  passthrough endorsementSubjectFields

/-- The fields of the envelope of an endorsement. -/
def endorsementFields : Fields :=
  [("@context", required obv3p0ContextArray),
    ("id", required iriString),
    ("type", required endorsementTypeField),
    ("name", required (text string)),
    ("description", optional (text string)),
    ("issuer", required (profileRefField formats)),
    ("issuanceDate", optional (datetime formats)),
    ("validFrom", optional (datetime formats)),
    ("validUntil", optional (datetime formats)),
    ("awardedDate", optional (datetime formats)),
    ("image", optional imageField),
    ("credentialSubject", required obv3p0EndorsementSubjectSchema)]

/-- An endorsement as a whole. -/
def obv3p0EndorsementCredentialSchema : Schema Json :=
  refine (passthrough (endorsementFields formats)) requireDates

/-- What a parse of an envelope is reported as. -/
def recognitionResult (profile : String) (parsed : Parsed Json) : RecognitionResult :=
  match parsed.accepted with
  | some normalized => .recognized profile normalized
  | none => .malformed profile (zodErrorToProblems parsed.issues)

/-- The profile a parsed badge is recognized under. -/
def obv3p0OpenBadgeProfile : String :=
  "obv3p0.openbadge"

/-- What the recognizer of badges makes of a credential. -/
def parseObv3p0OpenBadgeCredential (credential : Option Json) : RecognitionResult :=
  recognitionResult obv3p0OpenBadgeProfile (obv3p0OpenBadgeCredentialSchema formats credential)

/-- The profile a parsed endorsement is recognized under. -/
def obv3p0EndorsementProfile : String :=
  "obv3p0.endorsement"

/-- What the recognizer of endorsements makes of a credential. -/
def parseObv3p0EndorsementCredential (credential : Option Json) : RecognitionResult :=
  recognitionResult obv3p0EndorsementProfile (obv3p0EndorsementCredentialSchema formats credential)

/-- The recognizer of badges. -/
def obv3p0Recognizer : RecognizerSpec where
  applies := fun subject => .ok (isOpenBadgeCredential subject)
  parse := fun credential => .ok (parseObv3p0OpenBadgeCredential formats credential)

/-- The recognizer of endorsements. -/
def obv3p0EndorsementRecognizer : RecognizerSpec where
  applies := fun subject => .ok (isEndorsementCredential subject)
  parse := fun credential => .ok (parseObv3p0EndorsementCredential formats credential)

end Envelopes

/-! ### Definite envelopes -/

theorem definite_endorsementSubjectFields : ∀ f ∈ endorsementSubjectFields, Definite f.2 := by
  simp [endorsementSubjectFields]

@[simp]
theorem definite_obv3p0EndorsementSubjectSchema : Definite obv3p0EndorsementSubjectSchema :=
  definite_passthrough definite_endorsementSubjectFields

theorem definite_openBadgeFields (formats : StringFormats) :
    ∀ f ∈ openBadgeFields formats, Definite f.2 := by
  simp [openBadgeFields, openBadgeTypeField]

theorem definite_endorsementFields (formats : StringFormats) :
    ∀ f ∈ endorsementFields formats, Definite f.2 := by
  simp [endorsementFields, endorsementTypeField]

theorem definite_obv3p0OpenBadgeCredentialSchema (formats : StringFormats) :
    Definite (obv3p0OpenBadgeCredentialSchema formats) :=
  definite_refine (definite_passthrough (definite_openBadgeFields formats))

theorem definite_obv3p0EndorsementCredentialSchema (formats : StringFormats) :
    Definite (obv3p0EndorsementCredentialSchema formats) :=
  definite_refine (definite_passthrough (definite_endorsementFields formats))

/-! ## Gate and parser -/

/-- A field of an accepted envelope is accepted. -/
theorem envelope_accepted {fields : Fields} {credential : Option Json} {normalized : Json}
    {f : String × Schema (Option Json)}
    (h : (refine (passthrough fields) requireDates credential).accepted = some normalized)
    (hmem : f ∈ fields) :
    ∃ output, (f.2 (memberOf credential f.1)).accepted = some output := by
  have hbase := (refine_accepted h).1
  cases credential with
  | none => cases hbase
  | some credential =>
      cases credential with
      | obj members =>
          rw [passthrough, Parsed.accepted_map] at hbase
          rcases Option.map_eq_some_iff.mp hbase with ⟨read, hread, _⟩
          exact accepted_of_mem_fields hread hmem
      | null | bool | num | str | arr => cases hbase

/-- A required field is accepted only with a value that is there. -/
theorem required_accepted {schema : Schema Json} {value : Option Json} {output : Option Json}
    (h : (required schema value).accepted = some output) :
    ∃ v, (schema value).accepted = some v := by
  rw [required, Parsed.accepted_map] at h
  rcases Option.map_eq_some_iff.mp h with ⟨v, hv, _⟩
  exact ⟨v, hv⟩

/-- Both envelopes ask for the context the gates ask for. -/
theorem hasObv3Context_of_accepted {fields : Fields} {credential : Option Json} {normalized : Json}
    (h : (refine (passthrough fields) requireDates credential).accepted = some normalized)
    (hmem : ("@context", required obv3p0ContextArray) ∈ fields) :
    hasObv3Context credential = true := by
  rcases envelope_accepted h hmem with ⟨output, houtput⟩
  rcases required_accepted houtput with ⟨contexts, hcontexts⟩
  rcases obv3p0ContextArray_accepted hcontexts with ⟨context, hcontext, hstarts⟩
  exact List.any_eq_true.mpr ⟨context, hcontext, hstarts⟩

/-- Every credential the endorsement envelope accepts passes its gate.  A credential the
badge envelope accepts passes its gate exactly if its `type` includes
`OpenBadgeCredential`: the envelope is content with `AchievementCredential`. -/
theorem acceptedEnvelopes_gated (formats : StringFormats) (credential : Option Json)
    (normalized : Json) :
    ((obv3p0OpenBadgeCredentialSchema formats credential).accepted = some normalized →
      (isOpenBadgeCredential credential = true ↔
        "OpenBadgeCredential" ∈ stringValues (memberOf credential "type"))) ∧
    ((obv3p0EndorsementCredentialSchema formats credential).accepted = some normalized →
      isEndorsementCredential credential = true) := by
  constructor
  · intro h
    rw [isOpenBadgeCredential, hasObv3Context_of_accepted h (by simp [openBadgeFields]),
      hasType_eq, Bool.true_and, decide_eq_true_eq]
  · intro h
    have htype : ("type", required endorsementTypeField) ∈ endorsementFields formats := by
      simp [endorsementFields]
    rcases envelope_accepted h htype with ⟨output, houtput⟩
    rcases required_accepted houtput with ⟨types, htypes⟩
    rcases refine_accepted htypes with ⟨hbase, hcheck⟩
    rw [requireStrings_eq_nil_iff, (jsonLdTypeField_accepted hbase).1] at hcheck
    rw [isEndorsementCredential,
      hasObv3Context_of_accepted h (by simp [endorsementFields]), hasType_eq, Bool.true_and]
    exact hcheck

/-! ### An achievement credential -/

namespace SpecConforming

/-- The URLs are the IRIs, and one date is known. -/
def formats : StringFormats where
  url := isIri
  datetime := fun s => s = "2024-01-01T00:00:00Z"

/-- A short achievement. -/
def achievement : Json :=
  .obj [("id", .str "urn:example:achievement-1"),
    ("type", .arr [.str "Achievement"]),
    ("achievementType", .str "Course"),
    ("name", .str "Example Course"),
    ("description", .str "A short example achievement."),
    ("criteria", .obj [("narrative", .str "Pass the exam.")])]

/-- The contexts of a badge. -/
def context : Json :=
  .arr [.str vcContextV2, .str "https://purl.imsglobal.org/spec/ob/v3p0/context-3.0.3.json"]

/-- A badge with these types. -/
def badge (types : List Json) : Json :=
  .obj [("@context", context),
    ("id", .str "urn:uuid:11111111-1111-1111-1111-111111111111"),
    ("type", .arr types),
    ("issuer", .obj [("id", .str "did:example:issuer"),
      ("type", .arr [.str "Profile"]),
      ("name", .str "Spec-Conforming Issuer")]),
    ("validFrom", .str "2024-01-01T00:00:00Z"),
    ("image", .obj [("id", .str "https://example.test/badge.png"),
      ("type", .arr [.str "Image"]),
      ("caption", .str "Spec-conforming badge image")]),
    ("credentialSubject", .obj [("id", .str "did:example:recipient"),
      ("type", .arr [.str "AchievementSubject"]),
      ("achievement", achievement)])]

/-- A badge under the name the standard uses today. -/
def openBadge : Json :=
  badge [.str "VerifiableCredential", .str "OpenBadgeCredential"]

/-- The badge under the alias of its type. -/
def achievementCredential : Json :=
  badge [.str "VerifiableCredential", .str "AchievementCredential"]

/-- An endorsement of the issuer of the badge. -/
def endorsement : Json :=
  .obj [("@context", context),
    ("id", .str "urn:uuid:22222222-2222-2222-2222-222222222222"),
    ("type", .arr [.str "VerifiableCredential", .str "EndorsementCredential"]),
    ("name", .str "Endorsement"),
    ("issuer", .str "did:example:endorser"),
    ("validFrom", .str "2024-01-01T00:00:00Z"),
    ("credentialSubject", .obj [("id", .str "did:example:issuer"),
      ("type", .arr [.str "EndorsementSubject"])])]

/-- The schema of badges accepts the alias. -/
theorem achievementCredential_accepted : ∃ normalized,
    (obv3p0OpenBadgeCredentialSchema formats (some achievementCredential)).accepted =
      some normalized :=
  Option.isSome_iff_exists.mp (by decide +kernel)

end SpecConforming

open SpecConforming in
theorem acceptedEnvelopes_gated_endorsement :
    isOpenBadgeCredential (some openBadge) = true ∧
      isOpenBadgeCredential (some achievementCredential) = false ∧
      isEndorsementCredential (some endorsement) = true := by
  have hbadge : (obv3p0OpenBadgeCredentialSchema formats (some openBadge)).accepted.isSome := by
    decide +kernel
  have hendorsement :
      (obv3p0EndorsementCredentialSchema formats (some endorsement)).accepted.isSome := by
    decide +kernel
  rcases Option.isSome_iff_exists.mp hbadge with ⟨_, hbadge⟩
  rcases achievementCredential_accepted with ⟨_, hachievement⟩
  rcases Option.isSome_iff_exists.mp hendorsement with ⟨_, hendorsement⟩
  refine ⟨?_, ?_, (acceptedEnvelopes_gated formats _ _).2 hendorsement⟩
  · rw [(acceptedEnvelopes_gated formats _ _).1 hbadge]
    decide
  · rw [← Bool.not_eq_true, (acceptedEnvelopes_gated formats _ _).1 hachievement]
    decide

open SpecConforming in
/-- An achievement credential is accepted and does not pass the gate. -/
theorem not_acceptedEnvelopes_gated :
    (∃ normalized, (obv3p0OpenBadgeCredentialSchema formats
      (some achievementCredential)).accepted = some normalized) ∧
        isOpenBadgeCredential (some achievementCredential) = false :=
  ⟨achievementCredential_accepted, by decide⟩

end VerifierCore
