import VerifierCore.Json

/-!
# The envelope gates

The schemas that a credential and a presentation pass before any suite runs.
Only the shapes the pipeline reads are checked; each bad field has one message,
and what the gate accepts is verified as the caller supplied it.

Main results:

- Theorem {lit}`parseCredential_eq_nil_iff`: the credentials the gate accepts.
-/

namespace VerifierCore

/-! ## Field schemas -/

/-- One `@context` entry: a URL string or an inline context object. -/
def contextEntrySchema : Json → Bool
  | .str _ | .obj _ => true
  | _ => false

/-- `@context` as a single entry or an array of entries. -/
def contextSchema : Option Json → Bool
  | some (.arr entries) => entries.all contextEntrySchema
  | some entry => contextEntrySchema entry
  | none => false

/-- `type` as a single string or an array of strings. -/
def typeSchema : Option Json → Bool
  | some (.str _) => true
  | some (.arr items) => items.all fun item => (asString (some item)).isSome
  | _ => false

/-- A URL string, or an object with a string `id`. -/
def idSchema : Option Json → Bool
  | some (.str _) => true
  | some (.obj members) => (asString ((Json.obj members).get? "id")).isSome
  | _ => false

/-- An issuer is a URL string or an object with a string `id`. -/
def issuerSchema : Option Json → Bool :=
  idSchema

/-- A holder may be left out. -/
def holderSchema : Option Json → Bool
  | none => true
  | some holder => idSchema (some holder)

/-- A subject is an object, or a list of objects. -/
def credentialSubjectSchema : Option Json → Bool
  | some (.obj _) => true
  | some (.arr items) => items.all fun item => isPlainObject (some item)
  | _ => false

/-! ## Gates -/

/-- One field of a gate: its name, its schema and the message for a misfit. -/
structure FieldSchema where
  field : String
  schema : Option Json → Bool
  message : String

/-- The contexts of a document. -/
def contextField : FieldSchema where
  field := "@context"
  schema := contextSchema
  message := "\"@context\" is required and must be a string, a context object, or an array of them."

/-- The types of a document. -/
def typeField : FieldSchema where
  field := "type"
  schema := typeSchema
  message := "\"type\" is required and must be a string or an array of strings."

/-- The issuer of a credential. -/
def issuerField : FieldSchema where
  field := "issuer"
  schema := issuerSchema
  message := "\"issuer\" is required and must be a string or an object with a string \"id\"."

/-- The subject of a credential. -/
def credentialSubjectField : FieldSchema where
  field := "credentialSubject"
  schema := credentialSubjectSchema
  message := "\"credentialSubject\" is required and must be an object or an array of objects."

/-- The holder of a presentation. -/
def holderField : FieldSchema where
  field := "holder"
  schema := holderSchema
  message := "\"holder\" must be a string or an object with a string \"id\"."

/-- The messages of the fields that do not fit; for anything but an object, the
one message given for that. -/
def objectMessages (notObject : String) (fields : List FieldSchema) (input : Option Json) :
    List String :=
  match input with
  | some (.obj members) =>
      (fields.filter fun field => !field.schema ((Json.obj members).get? field.field)).map
        FieldSchema.message
  | _ => [notObject]

/-- The messages for a value that is no credential. -/
def credentialSchema : Option Json → List String :=
  objectMessages "The credential must be a JSON object."
    [contextField, typeField, issuerField, credentialSubjectField]

/-- The messages for a value that is no presentation. -/
def presentationSchema : Option Json → List String :=
  objectMessages "The presentation must be a JSON object."
    [contextField, typeField, holderField]

/-- The message for an enveloped input, if it is one. -/
def rejectEnveloped (input : Option Json) (envelopedType message : String) : Option String :=
  if isPlainObject input ∧ envelopedType ∈ stringValues (input.bind (Json.get? · "type")) then
    some message
  else none

/-- The messages of the credential gate; none if it accepts. -/
def parseCredential (input : Option Json) : List String :=
  match rejectEnveloped input "EnvelopedVerifiableCredential"
      "Enveloped credentials (VC-JOSE-COSE) are not supported by this verifier." with
  | some message => [message]
  | none => credentialSchema input

/-- The messages of the presentation gate; none if it accepts. -/
def parsePresentation (input : Option Json) : List String :=
  match rejectEnveloped input "EnvelopedVerifiablePresentation"
      "Enveloped presentations (VC-JOSE-COSE) are not supported by this verifier." with
  | some message => [message]
  | none => presentationSchema input

/-! ## What the gates accept -/

/-- Only an object whose fields all fit raises no message. -/
theorem objectMessages_eq_nil_iff {notObject : String} {fields : List FieldSchema}
    {input : Option Json} :
    objectMessages notObject fields input = [] ↔
      ∃ members, input = some (.obj members) ∧
        ∀ field ∈ fields, field.schema ((Json.obj members).get? field.field) = true := by
  unfold objectMessages
  split
  · simp [List.filter_eq_nil_iff]
  · rename_i hnot
    simp only [List.cons_ne_nil, false_iff]
    intro h
    rcases h with ⟨members, hinput, _⟩
    exact hnot members hinput

/-- The gate accepts exactly the objects that are not enveloped and whose four
fields fit. -/
theorem parseCredential_eq_nil_iff {input : Option Json} :
    parseCredential input = [] ↔
      ∃ members, input = some (.obj members) ∧
        "EnvelopedVerifiableCredential" ∉ stringValues ((Json.obj members).get? "type") ∧
        contextSchema ((Json.obj members).get? "@context") = true ∧
        typeSchema ((Json.obj members).get? "type") = true ∧
        issuerSchema ((Json.obj members).get? "issuer") = true ∧
        credentialSubjectSchema ((Json.obj members).get? "credentialSubject") = true := by
  unfold parseCredential rejectEnveloped credentialSchema
  by_cases henveloped : isPlainObject input = true ∧
      "EnvelopedVerifiableCredential" ∈ stringValues (input.bind (Json.get? · "type"))
  · rw [if_pos henveloped]
    simp only [List.cons_ne_nil, false_iff]
    intro h
    rcases h with ⟨members, rfl, hnot, _⟩
    exact hnot henveloped.2
  · rw [if_neg henveloped]
    simp only [objectMessages_eq_nil_iff]
    constructor
    · intro h
      rcases h with ⟨members, rfl, hfields⟩
      have hnot : "EnvelopedVerifiableCredential" ∉
          stringValues ((Json.obj members).get? "type") := by
        intro hmem
        exact henveloped ⟨rfl, hmem⟩
      refine ⟨members, rfl, hnot, ?_⟩
      simpa [contextField, typeField, issuerField, credentialSubjectField] using hfields
    · intro h
      rcases h with ⟨members, rfl, _, hfields⟩
      refine ⟨members, rfl, ?_⟩
      simpa [contextField, typeField, issuerField, credentialSubjectField] using hfields

end VerifierCore
