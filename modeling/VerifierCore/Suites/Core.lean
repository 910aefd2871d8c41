import VerifierCore.RunSuites
import VerifierCore.CryptoDispatch

/-!
# The core suite

Structure checks on a credential or a presentation.  The structure rules report
every violation with the path it was found at; a check succeeds exactly when
its rules report nothing.

Main results:

- Theorem {lit}`runStructureRules_success_iff`: success is the absence of
  violations.
- Theorem {lit}`proof_entries_plain_of_vcStructureCheck` and
  {lit}`proof_entries_plain_of_vpStructureCheck`: every entry of a proof that
  passed is a plain object.
- Theorem {lit}`passesCore_proof_entries`: the same from the whole suite.
-/

namespace VerifierCore

open Foundations Program

/-! ## JSON pointers -/

/-- One segment of a pointer. -/
inductive PointerSegment where
  | name (text : String)
  | index (i : Nat)
deriving DecidableEq

/-- The segments of a pointer into a credential. -/
abbrev PointerSegments := List PointerSegment

/-- Format a sequence of segments as a JSON Pointer. -/
def formatJsonPointer (segments : PointerSegments) : String :=
  if segments.length = 0 then ""
  else "/" ++ join "/" (segments.map fun segment =>
    let text := match segment with
      | .name text => text
      | .index i => toString i
    replaceAll (replaceAll text '~' "~0") '/' "~1")

/-- A readable name for a pointer. -/
def displayPath (pointer : PointerSegments) : String :=
  join "" (pointer.zipIdx.map fun segment =>
    match segment with
    | (.index n, _) => s!"[{n}]"
    | (.name text, i) => if i = 0 then text else s!".{text}")

example : displayPath [.name "credentialStatus", .index 1, .name "id"] =
    "credentialStatus[1].id" := by decide +kernel

/-! ## VC contexts -/

/-- The context of the first version of the data model. -/
def vcContextV1 : String :=
  "https://www.w3.org/2018/credentials/v1"

/-- The context of the second version of the data model. -/
def vcContextV2 : String :=
  "https://www.w3.org/ns/credentials/v2"

/-- The value is a context of the data model. -/
def isVcContext (value : Option Json) : Bool :=
  value = some (.str vcContextV1) || value = some (.str vcContextV2)

/-- The first context entry: the value itself when it is not an array. -/
def firstContextEntry : Option Json → Option Json
  | some (.arr items) => items.head?
  | context => context

/-- The version of the VC data model. -/
inductive VcVersion where
  | v1
  | v2
deriving DecidableEq

/-- The version named by the first context entry. -/
def vcVersionOf (context : Option Json) : Option VcVersion :=
  let first := firstContextEntry context
  if first = some (.str vcContextV1) then some .v1
  else if first = some (.str vcContextV2) then some .v2
  else none

/-- Whether the context includes either VC context anywhere. -/
def includesVcContext (context : Option Json) : Bool :=
  (stringValues context).any fun value => isVcContext (some (.str value))

/-! ## Structure rules -/

/-- One structural violation: where it is, and what is wrong. -/
structure Violation where
  pointer : PointerSegments
  detail : String
deriving DecidableEq

/-- Report one violation. -/
def report (pointer : PointerSegments) (detail : String) : List Violation :=
  [{ pointer := pointer, detail := detail }]

/-- The failure when the subject carries no object to check. -/
def missingSubjectFailure (title detail : String) : CheckOutcome :=
  .failure [{ type := ProblemTypes.malformedValueError, title := title, detail := detail }]

/-- The outcome of structure rules: every violation is a problem. -/
def runStructureRules (title successMessage : String) (violations : List Violation) :
    CheckOutcome :=
  let problems := violations.map fun violation : Violation =>
    { type := ProblemTypes.malformedValueError
      title := title
      detail := violation.detail
      instance? := some (formatJsonPointer violation.pointer) : ProblemDetail }
  if problems.length > 0 then .failure problems else .success successMessage

/-- Structure rules succeed exactly when they report nothing. -/
theorem runStructureRules_success_iff {title successMessage : String}
    {violations : List Violation} :
    (runStructureRules title successMessage violations).isSuccess = true ↔ violations = [] := by
  unfold runStructureRules
  cases violations <;> simp

/-- Every problem of failed structure rules points at a reported violation. -/
theorem runStructureRules_problems {title successMessage : String} {violations : List Violation}
    {problems : List ProblemDetail} {payload : Option CheckPayload}
    (h : runStructureRules title successMessage violations = .failure problems payload) :
    problems.map (fun p => (p.instance?, p.detail)) =
      violations.map fun v => (some (formatJsonPointer v.pointer), v.detail) := by
  unfold runStructureRules at h
  dsimp only at h
  split at h
  · cases h
    simp
  · cases h

/-- A context of the data model stands in front of all others. -/
def checkFirstContextEntry (context : Option Json) : List Violation :=
  if !includesVcContext context || isVcContext (firstContextEntry context) then []
  else report
    (if isArray context then [.name "@context", .index 0] else [.name "@context"])
    s!"The first \"@context\" entry must be \"{vcContextV1}\" or \"{vcContextV2}\"."

/-- The types name the required one. -/
def checkTypeIncludes (type : Option Json) (required : String) : List Violation :=
  match type with
  | none => report [.name "type"] "\"type\" is required."
  | some _ =>
      if required ∈ stringValues type then []
      else report [.name "type"] s!"\"type\" must include \"{required}\"."

/-- The rule shared by `issuer` and `holder`. -/
def checkUrlOrIdObject (platform : Platform) (value : Json) (pointer : PointerSegments) :
    List Violation :=
  let name := displayPath pointer
  match value with
  | .str s => if platform.isUrl (some (.str s)) then [] else report pointer s!"\"{name}\" must be a URL."
  | .obj members =>
      if platform.isUrl ((Json.obj members).get? "id") then []
      else report (pointer ++ [.name "id"]) s!"\"{name}.id\" must be a URL."
  | _ => report pointer s!"\"{name}\" must be a URL or an object with a URL \"id\"."

/-- An XML Schema dateTime string, as the VC library tests it. -/
def isDateTime (platform : Platform) : Json → Bool
  | .str s => platform.dateRegexTest s
  | _ => false

/-- A single value or an array as entries with their pointers. -/
def asEntries (value : Json) (pointer : PointerSegments) : List (Json × PointerSegments) :=
  match value with
  | .arr items => items.zipIdx.map fun entry => (entry.1, pointer ++ [.index entry.2])
  | value => [(value, pointer)]

/-- The rule shared by every property whose entries must be typed objects. -/
def checkTypedEntry (entry : Json) (pointer : PointerSegments) : List Violation :=
  let name := displayPath pointer
  if !isPlainObject (some entry) then
    report pointer s!"\"{name}\" must be an object with a \"type\"."
  else if (stringValues (entry.get? "type")).length = 0 then
    report (pointer ++ [.name "type"]) s!"\"{name}\" must have a \"type\"."
  else []

theorem isPlainObject_of_checkTypedEntry {entry : Json} {pointer : PointerSegments}
    (h : checkTypedEntry entry pointer = []) : isPlainObject (some entry) = true := by
  unfold checkTypedEntry at h
  dsimp only at h
  split at h
  · simp [report] at h
  · rename_i hplain
    simpa using hplain

/-! ## Credential structure -/

/-- Whether a typed entry's `id` must be a URL when present, or always. -/
inductive IdRule where
  | optional
  | required
deriving DecidableEq

/-- The properties whose every entry must be an object with a `type`, with the
rule for the entry's `id`. -/
def typedProperties : List (String × Option IdRule) :=
  [("credentialStatus", some .optional), ("proof", none), ("termsOfUse", none),
    ("evidence", some .optional), ("credentialSchema", some .required)]

/-- Each subject is an object that claims something. -/
def checkCredentialSubject (platform : Platform) (credential : Json) : List Violation :=
  let pointer : PointerSegments := [.name "credentialSubject"]
  match credential.get? "credentialSubject" with
  | none => report pointer "\"credentialSubject\" is required."
  | some .null => report pointer "\"credentialSubject\" is required."
  | some (.arr []) => report pointer "\"credentialSubject\" must have at least one entry."
  | some value =>
      (asEntries value pointer).flatMap fun entry =>
        let name := displayPath entry.2
        if !isPlainObject (some entry.1) || entry.1 = .obj [] then
          report entry.2 s!"\"{name}\" must be a non-empty object."
        else
          match entry.1.get? "id" with
          | none => []
          | some id =>
              if platform.isUrl (some id) then []
              else report (entry.2 ++ [.name "id"]) s!"\"{name}.id\" must be a URL."

/-- Report a property that is present and not a dateTime. -/
def checkDateTime (platform : Platform) (credential : Json) (prop : String) : List Violation :=
  match credential.get? prop with
  | none => []
  | some value =>
      if isDateTime platform value then []
      else report [.name prop] s!"\"{prop}\" must be a valid dateTime."

/-- The dates of the version of the data model can be read, and those it requires are there. -/
def checkDates (platform : Platform) (credential : Json) : List Violation :=
  match vcVersionOf (credential.get? "@context") with
  | some .v1 =>
      (if (credential.get? "issuanceDate").isNone then
        report [.name "issuanceDate"] "\"issuanceDate\" is required." else []) ++
      checkDateTime platform credential "issuanceDate" ++
      checkDateTime platform credential "expirationDate"
  | some .v2 =>
      checkDateTime platform credential "validFrom" ++
      checkDateTime platform credential "validUntil"
  | none => []

/-- An entry's `id` is a URL where there is one, and there is one where the rule requires it. -/
def checkEntryId (platform : Platform) (entry : Json) (pointer : PointerSegments)
    (rule : IdRule) : List Violation :=
  match entry.get? "id" with
  | none =>
      match rule with
      | .required =>
          report (pointer ++ [.name "id"]) s!"\"{displayPath pointer}\" must have a URL \"id\"."
      | .optional => []
  | some id =>
      if platform.isUrl (some id) then []
      else report (pointer ++ [.name "id"]) s!"\"{displayPath pointer}.id\" must be a URL."

/-- Every entry of a typed property, with the rule for its `id`. -/
def checkTypedProperty (platform : Platform) (credential : Json)
    (property : String × Option IdRule) : List Violation :=
  match credential.get? property.1 with
  | none => []
  | some value =>
      (asEntries value [.name property.1]).flatMap fun entry =>
        checkTypedEntry entry.1 entry.2 ++
          if isPlainObject (some entry.1) then
            match property.2 with
            | some rule => checkEntryId platform entry.1 entry.2 rule
            | none => []
          else []

/-- The typed properties have typed entries. -/
def checkTypedProperties (platform : Platform) (credential : Json) : List Violation :=
  typedProperties.flatMap (checkTypedProperty platform credential)

/-- The rules of the credential structure check. -/
def vcStructureRules (platform : Platform) (credential : Json) : List Violation :=
  checkFirstContextEntry (credential.get? "@context") ++
  checkTypeIncludes (credential.get? "type") "VerifiableCredential" ++
  checkCredentialSubject platform credential ++
  (match credential.get? "issuer" with
    | none => report [.name "issuer"] "\"issuer\" is required."
    | some issuer => checkUrlOrIdObject platform issuer [.name "issuer"]) ++
  checkDates platform credential ++
  checkTypedProperties platform credential

/-- The outcome of the structure rules on a credential. -/
def vcStructureOutcome (platform : Platform) (subject : VerificationSubject) : CheckOutcome :=
  let title := "Invalid Credential Structure"
  match subject.verifiableCredential with
  | some (.obj members) =>
      runStructureRules title "Credential structure conforms to the VC Data Model."
        (vcStructureRules platform (.obj members))
  | _ => missingSubjectFailure title "No verifiable credential found in subject."

/-- The structure of a credential. -/
def vcStructureCheck (platform : Platform) : VerificationCheck where
  id := "core.vc-structure"
  fatal := some true
  appliesTo := some [.verifiableCredential]
  execute := pureBody fun subject _ => .ok (vcStructureOutcome platform subject)

/-! ## Presentation structure -/

/-- Apply a rule to the entries of a property that is present. -/
def checkEntries (document : Json) (prop : String)
    (rule : Json → PointerSegments → List Violation) : List Violation :=
  match document.get? prop with
  | none => []
  | some value => (asEntries value [.name prop]).flatMap fun entry => rule entry.1 entry.2

/-- The rules of the presentation structure check. -/
def vpStructureRules (platform : Platform) (presentation : Json) : List Violation :=
  (if includesVcContext (presentation.get? "@context") then []
    else report [.name "@context"]
      s!"\"@context\" must include \"{vcContextV1}\" or \"{vcContextV2}\".") ++
  checkFirstContextEntry (presentation.get? "@context") ++
  checkTypeIncludes (presentation.get? "type") "VerifiablePresentation" ++
  (match presentation.get? "id" with
    | none => []
    | some id =>
        if platform.isUrl (some id) then [] else report [.name "id"] "\"id\" must be a URL.") ++
  (match presentation.get? "holder" with
    | none => []
    | some holder => checkUrlOrIdObject platform holder [.name "holder"]) ++
  checkEntries presentation "proof" checkTypedEntry ++
  checkEntries presentation "verifiableCredential" fun entry pointer =>
    if isPlainObject (some entry) then []
    else report pointer s!"\"{displayPath pointer}\" must be an object."

/-- The outcome of the structure rules on a presentation. -/
def vpStructureOutcome (platform : Platform) (subject : VerificationSubject) : CheckOutcome :=
  let title := "Invalid Presentation Structure"
  match subject.verifiablePresentation with
  | some (.obj members) =>
      runStructureRules title "Presentation structure conforms to the VC Data Model."
        (vpStructureRules platform (.obj members))
  | _ => missingSubjectFailure title "No verifiable presentation found in subject."

/-- The structure of a presentation. -/
def vpStructureCheck (platform : Platform) : VerificationCheck where
  id := "core.vp-structure"
  fatal := some true
  appliesTo := some [.verifiablePresentation]
  execute := pureBody fun subject _ => .ok (vpStructureOutcome platform subject)

/-! ## The other core checks -/

/-- A failure with a single problem. -/
def failWith (type title detail : String) : CheckOutcome :=
  .failure [{ type := type, title := title, detail := detail }]

/-- The outcome of a check on the subject's credential, or its failure when the
subject has none. -/
def onCredential (type title : String) (outcome : Json → CheckOutcome)
    (subject : VerificationSubject) : CheckOutcome :=
  match subject.verifiableCredential with
  | some credential =>
      if credential.truthy then outcome credential
      else failWith type title "No verifiable credential found in subject."
  | none => failWith type title "No verifiable credential found in subject."

/-- A credential has a context, and it is not empty. -/
def contextOutcome (credential : Json) : CheckOutcome :=
  let fail := failWith ProblemTypes.parsingError "Invalid JSON-LD"
  let context := credential.get? "@context"
  if !truthy context then fail "Credential is missing required @context property."
  else
    let isValid : Bool := match context with
      | some (.arr items) => items.length > 0
      | some (.str s) => s.length > 0
      | _ => false
    if isValid then .success "Credential has a valid @context property."
    else fail "Credential @context property is empty."

/-- The context of a credential. -/
def contextCheck : VerificationCheck where
  id := "core.context-exists"
  fatal := some true
  appliesTo := some [.verifiableCredential]
  execute := pureBody fun subject _ =>
    .ok (onCredential ProblemTypes.parsingError "Invalid JSON-LD" contextOutcome subject)

/-- The context names a version of the data model. -/
def vcContextOutcome (credential : Json) : CheckOutcome :=
  if !includesVcContext (credential.get? "@context") then
    failWith ProblemTypes.parsingError "No VC Context"
      s!"Credential @context does not include required VC context URI ({vcContextV1} or {vcContextV2})."
  else .success "Credential @context includes a valid VC context URI."

/-- The version of the data model a credential names. -/
def vcContextCheck : VerificationCheck where
  id := "core.vc-context"
  fatal := some true
  appliesTo := some [.verifiableCredential]
  execute := pureBody fun subject _ =>
    .ok (onCredential ProblemTypes.parsingError "No VC Context" vcContextOutcome subject)

/-- The `id` of a credential is a URL, if there is one. -/
def credentialIdOutcome (platform : Platform) (credential : Json) : CheckOutcome :=
  let fail := failWith ProblemTypes.invalidCredentialId "Invalid Credential ID"
  match credential.get? "id" with
  | none | some .null => .success "Credential has no ID (optional field)."
  | some (.str id) =>
      if platform.isUrl (some (.str id)) then .success "Credential has a valid ID."
      else fail s!"Credential ID is not a valid URL: {id}"
  | some _ => fail "Credential ID must be a string URL."

/-- The `id` of a credential. -/
def credentialIdCheck (platform : Platform) : VerificationCheck where
  id := "core.credential-id"
  fatal := some true
  appliesTo := some [.verifiableCredential]
  execute := pureBody fun subject _ =>
    .ok (onCredential ProblemTypes.invalidCredentialId "Invalid Credential ID"
      (credentialIdOutcome platform) subject)

/-- A credential has a proof, and all its proofs are objects. -/
def proofExistsOutcome (credential : Json) : CheckOutcome :=
  let fail := failWith ProblemTypes.proofVerificationError "No Proof"
  let entries := proofEntries (some credential)
  if entries.length = 0 then fail "Credential is missing required proof property."
  else
    match credential.get? "proof" with
    | some (.arr proof) =>
        if entries.length ≠ proof.length then fail "Credential proof property is invalid."
        else .success "Credential has a valid proof property."
    | _ => .success "Credential has a valid proof property."

/-- The proof of a credential. -/
def proofExistsCheck : VerificationCheck where
  id := "core.proof-exists"
  fatal := some true
  appliesTo := some [.verifiableCredential]
  execute := pureBody fun subject _ =>
    .ok (onCredential ProblemTypes.proofVerificationError "No Proof" proofExistsOutcome subject)

/-- The core structure suite. -/
def coreSuite (platform : Platform) : VerificationSuite where
  id := "core"
  phase := some .cryptographic
  checks :=
    [contextCheck, vcContextCheck, vcStructureCheck platform, vpStructureCheck platform,
      credentialIdCheck platform, proofExistsCheck]

/-! ## What a passing structure means for proofs -/

/-- Every check of the core suite that applies to the subject succeeds. -/
def PassesCore (platform : Platform) (subject : VerificationSubject)
    (context : VerificationContext) (store : ContextStore) : Prop :=
  ∀ check ∈ (coreSuite platform).checks, appliesToSubject check subject = true →
    ∀ trace result store', Executes (check.execute subject context store) trace (result, store') →
      ∃ outcome, result = .ok outcome ∧ outcome.isSuccess = true

/-- Every entry of an array is among its entries with pointers. -/
theorem mem_asEntries {items : List Json} {entry : Json} (h : entry ∈ items)
    (pointer : PointerSegments) : ∃ path, (entry, path) ∈ asEntries (.arr items) pointer := by
  rcases List.mem_iff_getElem.mp h with ⟨i, hi, rfl⟩
  refine ⟨pointer ++ [.index i], List.mem_map.mpr ⟨(items[i], i), ?_, rfl⟩⟩
  exact List.mem_zipIdx_iff_getElem?.mpr (by simp [hi])

/-- A typed property without violations has only plain objects as entries. -/
theorem isPlainObject_of_checkTypedProperty {platform : Platform} {credential : Json}
    {prop : String} {rule : Option IdRule} {items : List Json}
    (hvalue : credential.get? prop = some (.arr items))
    (h : checkTypedProperty platform credential (prop, rule) = []) :
    ∀ entry ∈ items, isPlainObject (some entry) = true := by
  intro entry hentry
  rcases mem_asEntries hentry [.name prop] with ⟨path, hpath⟩
  simp only [checkTypedProperty, hvalue, List.flatMap_eq_nil_iff] at h
  exact isPlainObject_of_checkTypedEntry (List.append_eq_nil_iff.mp (h _ hpath)).1

/-- The proofs of a well-formed credential are objects. -/
theorem proof_entries_plain_of_vcStructureCheck {platform : Platform} {members : List (String × Json)}
    {items : List Json} (hproof : (Json.obj members).get? "proof" = some (.arr items))
    (h : (vcStructureOutcome platform
      { verifiableCredential := some (.obj members) }).isSuccess = true) :
    ∀ entry ∈ items, isPlainObject (some entry) = true := by
  have hrules := runStructureRules_success_iff.mp h
  have htyped := (List.append_eq_nil_iff.mp hrules).2
  rw [checkTypedProperties, List.flatMap_eq_nil_iff] at htyped
  exact isPlainObject_of_checkTypedProperty hproof (htyped ("proof", none) (by simp [typedProperties]))

/-- The proofs of a well-formed presentation are objects. -/
theorem proof_entries_plain_of_vpStructureCheck {platform : Platform} {members : List (String × Json)}
    {items : List Json} (hproof : (Json.obj members).get? "proof" = some (.arr items))
    (h : (vpStructureOutcome platform
      { verifiablePresentation := some (.obj members) }).isSuccess = true) :
    ∀ entry ∈ items, isPlainObject (some entry) = true := by
  have hrules := runStructureRules_success_iff.mp h
  have hproofs := (List.append_eq_nil_iff.mp (List.append_eq_nil_iff.mp hrules).1).2
  intro entry hentry
  rcases mem_asEntries hentry [.name "proof"] with ⟨path, hpath⟩
  simp only [checkEntries, hproof, List.flatMap_eq_nil_iff] at hproofs
  exact isPlainObject_of_checkTypedEntry (hproofs _ hpath)

/-- A subject that carries one document: a credential or a presentation. -/
inductive CarriesDocument (document : Json) : VerificationSubject → Prop where
  | credential : CarriesDocument document { verifiableCredential := some document }
  | presentation : CarriesDocument document { verifiablePresentation := some document }

/-- Once the core suite passes, every entry of the document's proof array is a
plain object. -/
theorem passesCore_proof_entries {platform : Platform} {subject : VerificationSubject}
    {context : VerificationContext} {store : ContextStore} {document : Json} {items : List Json}
    (hsubject : CarriesDocument document subject)
    (hproof : document.get? "proof" = some (.arr items))
    (hcore : PassesCore platform subject context store) :
    ∀ entry ∈ items, isPlainObject (some entry) = true := by
  have hobject : ∃ members, document = .obj members := by
    cases document <;> simp_all [Json.get?]
  rcases hobject with ⟨members, rfl⟩
  cases hsubject with
  | credential =>
      rcases hcore (vcStructureCheck platform) (by simp [coreSuite])
        (by simp [appliesToSubject, checkAppliesTo, subjectTypes, vcStructureCheck]) [] _ _ (.done _)
        with ⟨outcome, houtcome, hsuccess⟩
      cases houtcome
      exact proof_entries_plain_of_vcStructureCheck hproof hsuccess
  | presentation =>
      rcases hcore (vpStructureCheck platform) (by simp [coreSuite])
        (by simp [appliesToSubject, checkAppliesTo, subjectTypes, vpStructureCheck]) [] _ _ (.done _)
        with ⟨outcome, houtcome, hsuccess⟩
      cases houtcome
      exact proof_entries_plain_of_vpStructureCheck hproof hsuccess

end VerifierCore
