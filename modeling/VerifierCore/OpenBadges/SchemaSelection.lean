import VerifierCore.OpenBadges.Recognizers
import VerifierCore.OpenBadges.Resilience

/-!
# Which schema applies

The vendored schema of an Open Badges credential is chosen by the credential's type and by
its version.  The schemas that the credential declares itself are compared with the chosen
one and reported where they do not fit.

Main results:

- Theorem {lit}`schemaSelection_sound`: a schema is found whenever one is looked for, and the
  declared schemas have no part in it.
- Theorem {lit}`declaredSchemas_reported`: which declarations are reported, and where.
-/

namespace VerifierCore

open Foundations

/-! ## Vendored schemas -/

/-- The Open Badges type of a credential. -/
inductive ObType where
  | openBadgeCredential
  | endorsementCredential
deriving DecidableEq

/-- The name of the type in credentials. -/
def ObType.name : ObType → String
  | .openBadgeCredential => "OpenBadgeCredential"
  | .endorsementCredential => "EndorsementCredential"

/-- One vendored schema, and what it applies to. -/
structure VendoredObSchema where
  id : String
  specSection : String
  obType : ObType
  vcVersion : VcVersion
deriving DecidableEq

/-- The schema of badges of the second version. -/
def achievementCredential : VendoredObSchema where
  id := "https://purl.imsglobal.org/spec/ob/v3p0/schema/json/ob_v3p0_achievementcredential-jsonschema1.json"
  specSection := "E.2.1.2 AchievementCredential"
  obType := .openBadgeCredential
  vcVersion := .v2

/-- The schema of badges of the first version. -/
def achievementCredentialV1p1 : VendoredObSchema where
  id := "https://purl.imsglobal.org/spec/ob/v3p0/schema/json/ob_v3p0_achievementcredentialv1p1-jsonschema1.json"
  specSection := "E.2.1.34 AchievementCredentialv1p1"
  obType := .openBadgeCredential
  vcVersion := .v1

/-- The schema of endorsements of the second version. -/
def endorsementCredential : VendoredObSchema where
  id := "https://purl.imsglobal.org/spec/ob/v3p0/schema/json/ob_v3p0_endorsementcredential-jsonschema1.json"
  specSection := "E.2.1.7 EndorsementCredential"
  obType := .endorsementCredential
  vcVersion := .v2

/-- The schema of endorsements of the first version. -/
def endorsementCredentialV1p1 : VendoredObSchema where
  id := "https://purl.imsglobal.org/spec/ob/v3p0/schema/json/ob_v3p0_endorsementcredentialv1p1-jsonschema1.json"
  specSection := "E.2.1.36 EndorsementCredentialv1p1"
  obType := .endorsementCredential
  vcVersion := .v1

/-- The schemas the module brings along. -/
def vendoredObSchemas : List VendoredObSchema :=
  [achievementCredential, achievementCredentialV1p1, endorsementCredential,
    endorsementCredentialV1p1]

/-! ## Known schema URLs -/

/-- What a known schema URL is for. -/
structure KnownObSchemaUrl where
  obType : ObType
  accepts : List VcVersion
deriving DecidableEq

/-- Where the schemas of the standard are published. -/
def obSchemaPrefix : String :=
  "https://purl.imsglobal.org/spec/ob/v3p0/schema/"

/-- The entries of the map in the order they are set. -/
def knownObSchemaUrls : List (String × KnownObSchemaUrl) :=
  (["json/", "json-ld/"].flatMap fun dir =>
    [(obSchemaPrefix ++ dir ++ "ob_v3p0_achievementcredential_schema.json",
        ⟨.openBadgeCredential, [.v2]⟩),
      (obSchemaPrefix ++ dir ++ "ob_v3p0_anyachievementcredential_schema.json",
        ⟨.openBadgeCredential, [.v1, .v2]⟩),
      (obSchemaPrefix ++ dir ++ "ob_v3p0_endorsementcredential_schema.json",
        ⟨.endorsementCredential, [.v2]⟩),
      (obSchemaPrefix ++ dir ++ "ob_v3p0_anyendorsementcredential_schema.json",
        ⟨.endorsementCredential, [.v1, .v2]⟩)]) ++
  [(obSchemaPrefix ++ "json/ob_v3p0_achievementcredential-jsonschema1.json",
      ⟨.openBadgeCredential, [.v2]⟩),
    (obSchemaPrefix ++ "json/ob_v3p0_achievementcredentialv1p1-jsonschema1.json",
      ⟨.openBadgeCredential, [.v1]⟩),
    (obSchemaPrefix ++ "json/ob_v3p0_endorsementcredential-jsonschema1.json",
      ⟨.endorsementCredential, [.v2]⟩),
    (obSchemaPrefix ++ "json/ob_v3p0_endorsementcredentialv1p1-jsonschema1.json",
      ⟨.endorsementCredential, [.v1]⟩)]

/-- The entry of the map that was set last. -/
def knownObSchemaUrl (id : String) : Option KnownObSchemaUrl :=
  knownObSchemaUrls.reverse.lookup id

/-! ## Selection -/

/-- An achievement credential is one even if it is an endorsement as well. -/
def getObType (credential : Option Json) : Option ObType :=
  if isOpenBadgeCredential credential then some .openBadgeCredential
  else if isEndorsementCredential credential then some .endorsementCredential
  else none

/-- The version in messages about schemas. -/
def VcVersion.name : VcVersion → String
  | .v1 => "v1"
  | .v2 => "v2"

/-- The vendored schema for a type and a version. -/
def vendoredSchemaFor (obType : ObType) (vcVersion : VcVersion) :
    Except Thrown VendoredObSchema :=
  match vendoredObSchemas.find? fun s => s.obType = obType && s.vcVersion = vcVersion with
  | some found => .ok found
  | none =>
      .error (.obj [("message", .str
        s!"No vendored Open Badges schema for {obType.name} / {vcVersion.name}")])

/-- A credential and the schema that applies to it. -/
structure ObSelection where
  credential : Json
  obType : ObType
  vcVersion : VcVersion
  vendored : VendoredObSchema

/-- What both schema checks start from. -/
inductive SchemaSelection where
  | selected (selection : ObSelection)
  | skipped (reason : String)

/-- The schema a credential is validated against, or why there is none. -/
def selectObSchema (subject : VerificationSubject) : Except Thrown SchemaSelection :=
  match subject.verifiableCredential.filter Json.truthy with
  | none => .ok (.skipped "No verifiable credential found in subject.")
  | some credential =>
      match getObType (some credential) with
      | none => .ok (.skipped
          "Credential does not appear to be an OBv3 credential (OpenBadgeCredential or EndorsementCredential).")
      | some obType =>
          match vcVersionOf (credential.get? "@context") with
          | none => .ok (.skipped
              "Credential has neither the VC 1.1 nor the VC 2.0 context, so no Open Badges schema applies.")
          | some vcVersion =>
              (vendoredSchemaFor obType vcVersion).map fun vendored =>
                .selected
                  { credential := credential
                    obType := obType
                    vcVersion := vcVersion
                    vendored := vendored }

/-! ## Declared schemas -/

/-- The version in the words of the data model. -/
def vcVersionLabel : VcVersion → String
  | .v1 => "1.1"
  | .v2 => "2.0"

/-- A declared schema id, with the pointer of its entry. -/
structure DeclaredSchema where
  id : String
  path : PointerSegments

/-- The declared schema ids.  An entry without a text for its id is left to others. -/
def declaredSchemaIds (credentialSchema : Option Json) : List DeclaredSchema :=
  match credentialSchema with
  | none => []
  | some value =>
      (asEntries value [.name "credentialSchema"]).filterMap fun entry =>
        (asString (entry.1.get? "id")).map fun id => { id := id, path := entry.2 }

namespace Obv3ProblemTypes

def obDeclaredSchemaMismatch := problemType "OB_DECLARED_SCHEMA_MISMATCH"
def obDeclaredSchemaNotChecked := problemType "OB_DECLARED_SCHEMA_NOT_CHECKED"

end Obv3ProblemTypes

/-- What is reported of one declaration. -/
def declaredSchemaProblem (selection : ObSelection) (declared : DeclaredSchema) :
    Option ProblemDetail :=
  let specSection := selection.vendored.specSection
  match knownObSchemaUrl declared.id with
  | none => some
      { type := Obv3ProblemTypes.obDeclaredSchemaNotChecked
        title := "Declared Schema Not Checked"
        detail := s!"credentialSchema declares {declared.id}, which is not a known Open Badges 3.0 schema. It was not fetched or checked; the credential was validated against {specSection}."
        instance? := some (formatJsonPointer declared.path) }
  | some known =>
      if known.obType ≠ selection.obType ∨ selection.vcVersion ∉ known.accepts then
        let accepts := join " or " (known.accepts.map vcVersionLabel)
        some
          { type := Obv3ProblemTypes.obDeclaredSchemaMismatch
            title := "Declared Schema Does Not Match Credential"
            detail := s!"credentialSchema declares {declared.id}, an Open Badges schema for {known.obType.name} / VC {accepts}, but this is an {selection.obType.name} using VC {vcVersionLabel selection.vcVersion}. It was validated against {specSection} instead."
            instance? := some (formatJsonPointer declared.path) }
      else none

/-- The outcome for a selected schema. -/
def declaredSchemaOutcome (selection : ObSelection) : CheckOutcome :=
  let declared := declaredSchemaIds (selection.credential.get? "credentialSchema")
  if declared = [] then .skipped "No credentialSchema declared."
  else
    match declared.filterMap (declaredSchemaProblem selection) with
    | [] =>
        let ids := join ", " (declared.map DeclaredSchema.id)
        .success s!"Declared credentialSchema fits this {selection.obType.name} using VC {vcVersionLabel selection.vcVersion}: {ids}."
    | problems => .failure problems

/-- The outcome for the schemas that a credential declares. -/
def executeDeclaredSchema (subject : VerificationSubject) : Except Thrown CheckOutcome :=
  (selectObSchema subject).map fun selection =>
    match selection with
    | .skipped reason => .skipped reason
    | .selected selection => declaredSchemaOutcome selection

/-- The check of the declared schemas. -/
def obv3DeclaredSchemaCheck : VerificationCheck where
  id := "schema.obv3.declared"
  fatal := some false
  appliesTo := some [.verifiableCredential]
  execute := pureBody fun subject _ => executeDeclaredSchema subject

/-! ## What is selected -/

/-- Every type and version has one vendored schema, whose own URL is known as one of this
type and version. -/
theorem vendoredSchemaFor_ok (obType : ObType) (vcVersion : VcVersion) :
    ∃ vendored ∈ vendoredObSchemas, vendoredSchemaFor obType vcVersion = .ok vendored ∧
      vendored.obType = obType ∧ vendored.vcVersion = vcVersion ∧
      knownObSchemaUrl vendored.id = some ⟨obType, [vcVersion]⟩ := by
  cases obType with
  | openBadgeCredential =>
      cases vcVersion with
      | v1 => exact ⟨achievementCredentialV1p1, by simp [vendoredObSchemas], rfl, rfl, rfl, by decide +kernel⟩
      | v2 => exact ⟨achievementCredential, by simp [vendoredObSchemas], rfl, rfl, rfl, by decide +kernel⟩
  | endorsementCredential =>
      cases vcVersion with
      | v1 => exact ⟨endorsementCredentialV1p1, by simp [vendoredObSchemas], rfl, rfl, rfl, by decide +kernel⟩
      | v2 => exact ⟨endorsementCredential, by simp [vendoredObSchemas], rfl, rfl, rfl, by decide +kernel⟩

/-- The parts of a selection that belong together. -/
structure ObSelection.Sound (selection : ObSelection) : Prop where
  obType : getObType (some selection.credential) = some selection.obType
  vcVersion : vcVersionOf (selection.credential.get? "@context") = some selection.vcVersion
  vendored : selection.vendored ∈ vendoredObSchemas
  fits : selection.vendored.obType = selection.obType ∧
    selection.vendored.vcVersion = selection.vcVersion
  known : knownObSchemaUrl selection.vendored.id = some ⟨selection.obType, [selection.vcVersion]⟩

/-- A selection never throws, and what it selects belongs together. -/
theorem selectObSchema_ok (subject : VerificationSubject) :
    (∃ reason, selectObSchema subject = .ok (.skipped reason)) ∨
      ∃ selection, selectObSchema subject = .ok (.selected selection) ∧
        subject.verifiableCredential = some selection.credential ∧ selection.Sound := by
  unfold selectObSchema
  cases hcredential : subject.verifiableCredential.filter Json.truthy with
  | none => exact .inl ⟨_, rfl⟩
  | some credential =>
      dsimp only
      cases hobType : getObType (some credential) with
      | none => exact .inl ⟨_, rfl⟩
      | some obType =>
          dsimp only
          cases hversion : vcVersionOf (credential.get? "@context") with
          | none => exact .inl ⟨_, rfl⟩
          | some vcVersion =>
              rcases vendoredSchemaFor_ok obType vcVersion with
                ⟨vendored, hmem, hfound, htype, hvcVersion, hknown⟩
              dsimp only
              rw [hfound]
              exact .inr ⟨_, rfl, (Option.filter_eq_some_iff.mp hcredential).1,
                ⟨hobType, hversion, hmem, ⟨htype, hvcVersion⟩, hknown⟩⟩

/-- The schema that a subject's credential is validated against. -/
def selectedSchema (subject : VerificationSubject) : Option VendoredObSchema :=
  match selectObSchema subject with
  | .ok (.selected selection) => some selection.vendored
  | _ => none

/-- The type of a badge is read off its contexts and its types. -/
theorem getObType_congr {credential other : Json}
    (hcontext : credential.get? "@context" = other.get? "@context")
    (htype : credential.get? "type" = other.get? "type") :
    getObType (some credential) = getObType (some other) := by
  have hobv3 : hasObv3Context (some credential) = hasObv3Context (some other) := by
    simp only [hasObv3Context, memberOf, Option.bind_some, hcontext]
  have hsame (typeName : String) :
      hasType (some credential) typeName = hasType (some other) typeName := by
    rw [hasType_eq, hasType_eq, memberOf, memberOf, Option.bind_some, Option.bind_some, htype]
  unfold getObType isOpenBadgeCredential isEndorsementCredential
  rw [hobv3, hsame, hsame]

/-- Nothing but the context and the type of a credential chooses its schema. -/
theorem selectedSchema_congr {members others : List (String × Json)}
    (hcontext : (Json.obj members).get? "@context" = (Json.obj others).get? "@context")
    (htype : (Json.obj members).get? "type" = (Json.obj others).get? "type") :
    selectedSchema { verifiableCredential := some (.obj members) } =
      selectedSchema { verifiableCredential := some (.obj others) } := by
  have hfilter (shown : List (String × Json)) :
      (some (Json.obj shown)).filter Json.truthy = some (.obj shown) := rfl
  simp only [selectedSchema, selectObSchema, hfilter, getObType_congr hcontext htype, hcontext]
  cases getObType (some (.obj others)) with
  | none => rfl
  | some obType =>
      cases vcVersionOf ((Json.obj others).get? "@context") with
      | none => rfl
      | some vcVersion =>
          dsimp only
          cases vendoredSchemaFor obType vcVersion <;> rfl

/-- Only an object has an Open Badges type. -/
theorem members_of_getObType {credential : Json} {obType : ObType}
    (h : getObType (some credential) = some obType) : ∃ members, credential = .obj members := by
  cases credential with
  | obj members => exact ⟨members, rfl⟩
  | null | bool | num | str | arr => cases h

/-- There is one vendored schema for each type and version. -/
theorem vendored_unique : ∀ schema ∈ vendoredObSchemas, ∀ other ∈ vendoredObSchemas,
    schema.obType = other.obType → schema.vcVersion = other.vcVersion → schema = other := by
  decide +kernel

/-- A schema is found for every Open Badges credential of either version, the one for its
type and version, and no other member of the credential has a part in it: neither the
schemas it declares nor anything else. -/
theorem schemaSelection_sound (subject : VerificationSubject) :
    (∃ selection, selectObSchema subject = .ok selection) ∧
    (∀ credential obType vcVersion, subject.verifiableCredential = some credential →
      getObType (some credential) = some obType →
      vcVersionOf (credential.get? "@context") = some vcVersion →
      ∃ vendored ∈ vendoredObSchemas, selectedSchema subject = some vendored ∧
        ∀ schema ∈ vendoredObSchemas,
          schema.obType = obType ∧ schema.vcVersion = vcVersion ↔ schema = vendored) ∧
    ∀ members key value, subject.verifiableCredential = some (.obj members) →
      key ≠ "@context" → key ≠ "type" →
      selectedSchema { verifiableCredential := some ((Json.obj members).set key value) } =
        selectedSchema subject := by
  refine ⟨?_, ?_, ?_⟩
  · rcases selectObSchema_ok subject with ⟨reason, hskipped⟩ | ⟨selection, hselected, _⟩
    · exact ⟨_, hskipped⟩
    · exact ⟨_, hselected⟩
  · intro credential obType vcVersion hcredential hobType hversion
    rcases members_of_getObType hobType with ⟨members, rfl⟩
    rcases vendoredSchemaFor_ok obType vcVersion with
      ⟨vendored, hmem, hfound, htype, hvcVersion, _⟩
    refine ⟨vendored, hmem, ?_, ?_⟩
    · have hfilter : subject.verifiableCredential.filter Json.truthy = some (.obj members) := by
        rw [hcredential]
        rfl
      simp only [selectedSchema, selectObSchema, hfilter, hobType, hversion, hfound]
      rfl
    · intro schema hschema
      constructor
      · rintro ⟨hsameType, hsameVersion⟩
        exact vendored_unique schema hschema vendored hmem (hsameType.trans htype.symm)
          (hsameVersion.trans hvcVersion.symm)
      · rintro rfl
        exact ⟨htype, hvcVersion⟩
  · intro members key value hcredential hcontext htype
    have hsame : selectedSchema subject =
        selectedSchema { verifiableCredential := some (.obj members) } := by
      unfold selectedSchema selectObSchema
      rw [hcredential]
    rw [hsame]
    exact selectedSchema_congr (Json.get?_set_of_ne hcontext.symm members value)
      (Json.get?_set_of_ne htype.symm members value)

/-! ## What is reported -/

/-- The URL is known as one of a schema for the selection's type and version. -/
def ObSelection.fits (selection : ObSelection) (id : String) : Bool :=
  (knownObSchemaUrl id).any fun known =>
    known.obType = selection.obType && selection.vcVersion ∈ known.accepts

/-- The type of the problem with a declaration that does not fit. -/
def declaredProblemType (id : String) : String :=
  if (knownObSchemaUrl id).isSome then Obv3ProblemTypes.obDeclaredSchemaMismatch
  else Obv3ProblemTypes.obDeclaredSchemaNotChecked

/-- A declaration is reported exactly if it does not fit. -/
theorem declaredSchemaProblem_eq (selection : ObSelection) (declared : DeclaredSchema) :
    (declaredSchemaProblem selection declared).map (fun problem =>
        (problem.type, problem.instance?)) =
      if !selection.fits declared.id then
        some (declaredProblemType declared.id, some (formatJsonPointer declared.path))
      else none := by
  unfold declaredSchemaProblem ObSelection.fits declaredProblemType
  cases knownObSchemaUrl declared.id with
  | none => rfl
  | some known =>
      by_cases htype : known.obType = selection.obType
      · by_cases hversion : selection.vcVersion ∈ known.accepts
        · simp [htype, hversion]
        · simp [htype, hversion]
      · simp [htype]

/-- A declared id is where its pointer leads. -/
theorem points_declaredSchemaIds {members : List (String × Json)} {declared : DeclaredSchema}
    (h : declared ∈ declaredSchemaIds ((Json.obj members).get? "credentialSchema")) :
    ∃ entry, Points (.obj members) (declared.path.map PointerSegment.text) (some entry) ∧
      entry.get? "id" = some (.str declared.id) := by
  unfold declaredSchemaIds at h
  cases hvalue : (Json.obj members).get? "credentialSchema" with
  | none =>
      rw [hvalue] at h
      cases h
  | some value =>
      rw [hvalue] at h
      rcases List.mem_filterMap.mp h with ⟨⟨entry, path⟩, hentry, hdeclared⟩
      rcases Option.map_eq_some_iff.mp hdeclared with ⟨id, hid, rfl⟩
      have hpoints : Points (.obj members)
          ([PointerSegment.name "credentialSchema"].map PointerSegment.text) (some value) := by
        have hroot : resolve Json.child (.obj members)
            (([] : PointerSegments).map PointerSegment.text) = some (.obj members) := rfl
        have hmember := Points.member "credentialSchema" hroot
        rw [hvalue] at hmember
        exact hmember
      refine ⟨entry, hpoints.of_mem_asEntries hentry, ?_⟩
      rcases hmember : entry.get? "id" with _ | value
      · rw [hmember] at hid
        cases hid
      · rw [hmember] at hid
        cases value with
        | str text =>
            cases hid
            rfl
        | null | bool | num | arr | obj => cases hid

/-- The problems of the check, with their types and pointers. -/
theorem problems_filterMap_declared (selection : ObSelection) (declared : List DeclaredSchema) :
    (declared.filterMap (declaredSchemaProblem selection)).map (fun problem =>
        (problem.type, problem.instance?)) =
      (declared.filter fun d => !selection.fits d.id).map fun d =>
        (declaredProblemType d.id, some (formatJsonPointer d.path)) := by
  apply map_filterMap_eq
  exact declaredSchemaProblem_eq selection

/-- The kind of the outcome, by the declarations and their problems. -/
theorem declaredSchemaOutcome_kinds {selection : ObSelection} {declared : List DeclaredSchema}
    (hdeclared : declaredSchemaIds (selection.credential.get? "credentialSchema") = declared) :
    ((declaredSchemaOutcome selection).isSkipped = true ↔ declared = []) ∧
      ((declaredSchemaOutcome selection).isSuccess = true ↔
        declared ≠ [] ∧ declared.filterMap (declaredSchemaProblem selection) = []) ∧
      (declaredSchemaOutcome selection).problems =
        declared.filterMap (declaredSchemaProblem selection) := by
  rw [declaredSchemaOutcome, hdeclared]
  dsimp only
  by_cases hnone : declared = []
  · rw [if_pos hnone, hnone]
    exact ⟨by simp [CheckOutcome.isSkipped], by simp, rfl⟩
  · rw [if_neg hnone]
    cases declared.filterMap (declaredSchemaProblem selection) with
    | nil => exact ⟨by simp [CheckOutcome.isSkipped, hnone], by simp [hnone], rfl⟩
    | cons problem problems => exact ⟨by simp [CheckOutcome.isSkipped, hnone], by simp, rfl⟩

/-- The URL of the schema that a credential is validated against fits it. -/
theorem fits_vendored {selection : ObSelection} (h : selection.Sound) :
    selection.fits selection.vendored.id = true := by
  rw [ObSelection.fits, h.known, Option.any_some, Bool.and_eq_true, decide_eq_true_eq,
    decide_eq_true_eq]
  exact ⟨rfl, List.mem_singleton_self _⟩

/-- For a credential that a schema applies to, the check is skipped without a declaration
and succeeds if all of them fit.  It reports the others, each by a pointer that leads to the
entry that declares it.  A declaration of the schema that is used fits. -/
theorem declaredSchemas_reported {subject : VerificationSubject} {selection : ObSelection}
    (hselected : selectObSchema subject = .ok (.selected selection)) :
    ∃ outcome declared, executeDeclaredSchema subject = .ok outcome ∧
      declared = declaredSchemaIds (selection.credential.get? "credentialSchema") ∧
      (outcome.isSkipped = true ↔ declared = []) ∧
      (outcome.isSuccess = true ↔
        declared ≠ [] ∧ ∀ d ∈ declared, selection.fits d.id = true) ∧
      outcome.problems.map (fun problem => (problem.type, problem.instance?)) =
        ((declared.filter fun d => !selection.fits d.id).map fun d =>
          (declaredProblemType d.id, some (formatJsonPointer d.path))) ∧
      (∀ d ∈ declared, pointerTokens (formatJsonPointer d.path) =
          some (d.path.map PointerSegment.text) ∧
        ∃ entry, Points selection.credential (d.path.map PointerSegment.text) (some entry) ∧
          entry.get? "id" = some (.str d.id)) ∧
      selection.fits selection.vendored.id = true := by
  have hsound : selection.Sound := by
    rcases selectObSchema_ok subject with ⟨reason, hskipped⟩ | ⟨found, hfound, _, hsound⟩
    · rw [hskipped] at hselected
      cases hselected
    · rw [hfound] at hselected
      cases hselected
      exact hsound
  rcases members_of_getObType hsound.obType with ⟨members, hmembers⟩
  have hproblems := problems_filterMap_declared selection
    (declaredSchemaIds (selection.credential.get? "credentialSchema"))
  have hkinds := @declaredSchemaOutcome_kinds selection _ rfl
  refine ⟨declaredSchemaOutcome selection, _, ?_, rfl, hkinds.1, ?_,
    (congrArg _ hkinds.2.2).trans hproblems, ?_, fits_vendored hsound⟩
  · rw [executeDeclaredSchema, hselected]
    rfl
  · rw [hkinds.2.1, ← List.map_eq_nil_iff, hproblems, List.map_eq_nil_iff, List.filter_eq_nil_iff]
    simp
  · intro d hd
    rw [hmembers] at hd ⊢
    exact ⟨pointerTokens_formatJsonPointer _, points_declaredSchemaIds hd⟩

/-! ### A badge of the second version -/

namespace DeclaredBadge

/-- A badge that declares its own schema, that of another version, and one of its issuer's. -/
def credential : Json :=
  .obj
    [("@context", .arr [.str vcContextV2,
        .str "https://purl.imsglobal.org/spec/ob/v3p0/context-3.0.3.json"]),
      ("type", .arr [.str "VerifiableCredential", .str "OpenBadgeCredential"]),
      ("credentialSchema", .arr [.obj [("id", .str achievementCredential.id)],
        .obj [("id", .str achievementCredentialV1p1.id)],
        .obj [("id", .str "https://issuer.example/schema.json")]])]

/-- The badge as a subject. -/
def subject : VerificationSubject :=
  { verifiableCredential := some credential }

/-- The schema of badges of its version. -/
def selection : ObSelection where
  credential := credential
  obType := .openBadgeCredential
  vcVersion := .v2
  vendored := achievementCredential

end DeclaredBadge

/-- The second declaration does not fit and the third is not known. -/
theorem declaredSchemas_reported_badge :
    ∃ outcome, executeDeclaredSchema DeclaredBadge.subject = .ok outcome ∧
      outcome.problems.map (fun problem => (problem.type, problem.instance?)) =
        [(Obv3ProblemTypes.obDeclaredSchemaMismatch, some "/credentialSchema/1"),
          (Obv3ProblemTypes.obDeclaredSchemaNotChecked, some "/credentialSchema/2")] := by
  have hselected : selectObSchema DeclaredBadge.subject =
      .ok (.selected DeclaredBadge.selection) := rfl
  rcases declaredSchemas_reported hselected with ⟨outcome, declared, houtcome, rfl, _, _, hproblems, _⟩
  exact ⟨outcome, houtcome, hproblems.trans (by decide +kernel)⟩

/-- The badge is validated against the schema of its version. -/
theorem schemaSelection_sound_badge :
    selectedSchema { verifiableCredential := some (DeclaredBadge.credential.set "credentialSchema"
        (.obj [("id", .str endorsementCredential.id)])) } = some achievementCredential := by
  have hsound := schemaSelection_sound DeclaredBadge.subject
  have hselected : selectedSchema DeclaredBadge.subject = some achievementCredential := rfl
  exact (hsound.2.2 _ "credentialSchema" _ rfl (by decide) (by decide)).trans hselected

end VerifierCore
