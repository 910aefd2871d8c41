import VerifierCore.Suites.Proof

/-!
# Rejections of the signature library

The library reports a document it does not verify with an error, and only the error's
name, message and sub-errors tell what went wrong.  Here they are read: a date rejection
comes after a proof that verified, a proof that no suite or purpose matched was not
checked at all, and everything else becomes a problem for the caller.
-/

namespace VerifierCore

/-! ## Error values -/

/-- A JavaScript value, as far as an error is read.  An object says whether it is an
instance of `Error`, and what coercing it to a string gives: its `toString` may be its
own, and may throw. -/
inductive JsValue where
  | undefined
  | null
  | bool (b : Bool)
  | num (n : Num)
  | bigint (n : Int)
  | symbol
  | str (s : String)
  | arr (items : List JsValue)
  | obj (isError : Bool) (members : List (String × JsValue)) (coerced : Except Thrown String)
deriving Inhabited

/-- What coercing a symbol to a string throws. -/
def symbolError : Thrown :=
  .obj [("message", .str "Cannot convert a Symbol value to a string")]

namespace JsValue

/-- A member of a value. -/
def get : JsValue → String → JsValue
  | .obj _ members _, key => (members.lookup key).getD .undefined
  | _, _ => .undefined

/-- The text of a string. -/
def text? : JsValue → Option String
  | .str s => some s
  | _ => none

/-- Whether a condition takes the value for true. -/
def truthy : JsValue → Bool
  | .undefined | .null => false
  | .bool b => b
  | .num n => n ≠ 0
  | .bigint n => n ≠ 0
  | .str s => s ≠ ""
  | .symbol | .arr _ | .obj .. => true

/-- The text of a member, unless it is empty. -/
def textMember (value : JsValue) (key : String) : Option String :=
  (value.get key).text?.filter fun text => text ≠ ""

/-- `value instanceof Error`. -/
def isError : JsValue → Bool
  | .obj isError .. => isError
  | _ => false

/-- `typeof value === 'object' && value !== null`. -/
def isObjectType : JsValue → Bool
  | .arr _ | .obj .. => true
  | _ => false

/-- The value's `errors` array, if it has one. -/
def errors? (value : JsValue) : Option (List JsValue) :=
  match value.get "errors" with
  | .arr items => some items
  | _ => none

/-- `value.name === name`. -/
def hasName (value : JsValue) (name : String) : Bool :=
  (value.get "name").text? = some name

mutual

/-- The string a value is coerced to, where one is expected. -/
def coerceToString (platform : Platform) : JsValue → Except Thrown String
  | .undefined => .ok "undefined"
  | .null => .ok "null"
  | .bool b => .ok (if b then "true" else "false")
  | .num n => .ok (platform.numberToString n)
  | .bigint n => .ok (toString n)
  | .symbol => .error symbolError
  | .str s => .ok s
  | .arr items => (coerceItems platform items).map (join ",")
  | .obj _ _ coerced => coerced

/-- The strings an array joins; a missing item is left empty. -/
def coerceItems (platform : Platform) : List JsValue → Except Thrown (List String)
  | [] => .ok []
  | .undefined :: rest => (coerceItems platform rest).map ("" :: ·)
  | .null :: rest => (coerceItems platform rest).map ("" :: ·)
  | item :: rest =>
      match item.coerceToString platform with
      | .error error => .error error
      | .ok text => (coerceItems platform rest).map (text :: ·)

end

end JsValue

/-! ## Validity dates -/

/-- The messages of the two validity-period rejections, as pieces of text with anything
between them. -/
def dateRejectionMessages : DateRejection → List (List String)
  | .expired =>
      [["Credential has expired."],
        ["The current date time (", ") is after \"validUntil\" (", ")."]]
  | .notYetValid =>
      [["The current date time (", ") is before \"validFrom\" (", ")."],
        ["The current date time (", ") is before the \"issuanceDate\" (", ")."]]

/-- The validity-period rejection whose message the text is. -/
def dateRejectionOfText (text : String) : Option DateRejection :=
  [DateRejection.expired, .notYetValid].find? fun kind =>
    (dateRejectionMessages kind).any fun pieces => matchesPattern pieces text

/-- Which validity-period rejection an error is, if it is one.  Testing a message against
a pattern coerces it to a string. -/
def classifyDateRejection (platform : Platform) (error : JsValue) :
    Except Thrown (Option DateRejection) :=
  if !error.isError || error.hasName "VerificationError" then .ok none
  else if error.errors?.isSome then .ok none
  else ((error.get "message").coerceToString platform).map dateRejectionOfText

/-! ## Proofs that nothing matched -/

/-- The library's message for a document none of whose proofs it was asked to check. -/
def jsigsNoMatchMessage : String :=
  "Did not verify any proofs; insufficient proofs matched the acceptable suite(s) and required purpose(s)."

/-- The error that says that no proof matched. -/
def isNoMatchError (error : JsValue) : Bool :=
  error.isError && error.hasName "NotFoundError" &&
    (error.get "message").text? = some jsigsNoMatchMessage

/-- Whether the error is a `VerificationError` that wraps the one "no proof matched"
failure. -/
def isJsigsNoMatch (error : JsValue) : Bool :=
  error.isError && error.hasName "VerificationError" &&
    match error.errors? with
    | some [inner] => isNoMatchError inner
    | _ => false

/-! ## Sub-errors -/

/-- The objects among the sub-errors of an aggregate, or the error itself. -/
def extractErrors (error : JsValue) : List JsValue :=
  (error.errors?.getD [error]).filter JsValue.isObjectType

/-- The error a sub-error wraps, or the sub-error itself. -/
def unwrapSubError (e : JsValue) : JsValue :=
  match e.get "error" with
  | .undefined | .null => e
  | inner => inner

/-- The message of a sub-error, if it is a text that says anything. -/
def subErrorMessage (e : JsValue) : Option String :=
  (unwrapSubError e).textMember "message"

/-- The typed verification method fault a sub-error is, if it is one. -/
def verificationMethodError (e : JsValue) : Option JsValue :=
  if (unwrapSubError e).hasName "VerificationMethodError" then some (unwrapSubError e) else none

/-- What is said of a typed fault that brings no message. -/
def typedFaultDetail (typed : JsValue) : String :=
  let named :=
    match typed.textMember "verificationMethod" with
    | some id => s!" \"{id}\""
    | none => ""
  s!"Verification method{named} cannot back the proof."

/-- The library's messages for a verification method that cannot back the proof. -/
def verificationMethodPatterns : List (List String) :=
  [["Verification method ", " not authorized by controller for proof purpose ", "."],
    ["Verification method ID ", " must be a string."],
    ["Verification method ", " not found."],
    ["DID document entity with id ", " not found."],
    ["Key ", " not found in DID document."]]

/-- The message blames the verification method. -/
def isVerificationMethodMessage (message : String) : Bool :=
  verificationMethodPatterns.any fun pieces => matchesPattern pieces message

/-- The distinct messages, with the verification method faults apart from the rest. -/
structure SubErrorMessages where
  messages : List String := []
  faults : List String := []

/-- The messages that do not blame the verification method. -/
def SubErrorMessages.others (found : SubErrorMessages) : List String :=
  found.messages.filter fun message => message ∉ found.faults

/-- `set.add(text)`. -/
def addText (texts : List String) (text : String) : List String :=
  if text ∈ texts then texts else texts ++ [text]

/-- Note the message of one sub-error. -/
def SubErrorMessages.note (found : SubErrorMessages) (e : JsValue) : SubErrorMessages :=
  let typed := verificationMethodError e
  match (subErrorMessage e).or (typed.map typedFaultDetail) with
  | none => found
  | some message =>
      { messages := addText found.messages message
        faults :=
          if typed.isSome || isVerificationMethodMessage message then
            addText found.faults message
          else found.faults }

/-- The messages of all sub-errors, each noted once. -/
def partitionSubErrorMessages (errors : List JsValue) : SubErrorMessages :=
  errors.foldl SubErrorMessages.note {}

/-! ## Kinds of failures -/

/-- An error of the named kind, by its `name` or its `type`. -/
def isOfKind (kind : String) (e : JsValue) : Bool :=
  e.hasName kind || (e.get "type").text? = some kind

/-- The name of a failed request. -/
def httpErrorKind : String :=
  "HTTPError"

/-- The name of a document that is no JSON-LD. -/
def jsonldValidationError : String :=
  "jsonld.ValidationError"

/-- The library's message for an issuer that does not control the verification method. -/
def issuerControllerMismatch : String :=
  "issuer must match the verification method controller"

/-- The library's messages for a proof that does not bind to the request, each with the
proof field it names and the title it is reported under. -/
def bindingMismatches : List (String × String × String) :=
  [("The challenge is not as expected", "challenge", "Challenge Mismatch"),
    ("The domain is not as expected", "domain", "Domain Mismatch")]

/-- Some message quotes the text. -/
def hasMessage (messages : List String) (text : String) : Bool :=
  messages.any fun message => includes message text

/-- The issuer is named by a host. -/
def isDidWeb (platform : Platform) (did : String) : Bool :=
  startsWith (platform.toLowerCase did) "did:web:"

/-- A resolver said that it did not find a document, or failed to fetch it. -/
def isDidUnresolved (errors : List JsValue) : Bool :=
  errors.any fun e =>
    let inner := unwrapSubError e
    inner.hasName "DIDResolutionError" &&
      ((inner.get "code").text? = some "notFound" ||
        (inner.get "code").text? = some "internalError")

/-- What the URL of a `did:web` document is expected to contain. -/
def didWebToUrlPattern (platform : Platform) (did : String) : String :=
  platform.toLowerCase (replaceAll (sliceAfter did "did:web:") ':' "/")

/-- `/driver for did(?: method)? .* not found/i`.  Without the Unicode flag a pattern of
ASCII letters matches ASCII letters only. -/
def isDriverNotFound (message : String) : Bool :=
  let endsAfter (rest : List Char) : Bool :=
    (rest.takeWhile fun c => !isLineTerminator c).tails.any fun tail =>
      " not found".toList.isPrefixOf tail
  (lowerAscii message).toList.tails.any fun text =>
    ["driver for did method ", "driver for did "].any fun start =>
      start.toList.isPrefixOf text && endsAfter (text.drop start.length)

/-- There was no driver for the DID of the verification method. -/
def isVerificationMethodUnresolved (messages : List String) : Bool :=
  messages.any isDriverNotFound

/-- The verification method the first proof names. -/
def proofVerificationMethod (credential : Option Json) : Option String :=
  let first :=
    match credential.bind (Json.get? · "proof") with
    | some (.arr proofs) => proofs.head?
    | proof => proof
  asString (first.bind (Json.get? · "verificationMethod"))

/-! ## Problems -/

/-- The one problem for a document that could not be fetched. -/
def didUnresolvedProblems (detail : String) : List ProblemDetail :=
  [{ type := ProblemTypes.didWebUnresolved, title := "DID Web Unresolved", detail := detail }]

/-- The generic verdict, with the messages of the sub-errors. -/
def invalidSignature (messages : List String) : ProblemDetail :=
  let detail := join "; " messages
  { type := ProblemTypes.invalidSignature
    title := "Invalid Signature"
    detail := if detail ≠ "" then detail else "The signature is not valid." }

/-- `requestUrl || url || ''`. -/
def requestUrl (httpError : JsValue) : JsValue :=
  if (httpError.get "requestUrl").truthy then httpError.get "requestUrl"
  else if (httpError.get "url").truthy then httpError.get "url"
  else .str ""

/-- What reading the lower case of a value that is no text throws. -/
def notTextError : Thrown :=
  .obj [("message", .str "requestUrl.toLowerCase is not a function")]

/-- The problem for any other failed request. -/
def httpErrorProblem (httpError : JsValue) : ProblemDetail :=
  { type := ProblemTypes.httpError
    title := "HTTP Error"
    detail := (httpError.textMember "message").getD "An HTTP error prevented the signature check." }

/-- The problem of a failed request: that the issuer's document could not be fetched,
where that was what was requested.  For a `did:web` issuer, a URL that is no text throws. -/
def httpProblems (platform : Platform) (httpError : JsValue) (credential : Option Json) :
    Except Thrown (List ProblemDetail) :=
  let issuerDid := ((credential.filter Json.truthy).bind credentialIssuerId).getD ""
  if isDidWeb platform issuerDid then
    match requestUrl httpError with
    | .str requestUrl =>
        if includes (platform.toLowerCase requestUrl) (didWebToUrlPattern platform issuerDid) then
          .ok (didUnresolvedProblems
            s!"The signature could not be checked because the public signing key could not be retrieved from {requestUrl}")
        else .ok [httpErrorProblem httpError]
    | _ => .error notTextError
  else .ok [httpErrorProblem httpError]

/-- The problem of an issuer that is not the controller of the verification method. -/
def issuerMismatchProblem (credential : Option Json) : ProblemDetail :=
  let named :=
    match (credential.filter Json.truthy).bind credentialIssuerId with
    | some issuerId => s!" ({issuerId})"
    | none => ""
  { type := ProblemTypes.issuerProofMismatch
    title := "Issuer / Proof Mismatch"
    detail := s!"The credential's issuer{named} does not match the controller of the proof's verification method." }

/-- The problem for a verification method no driver resolves. -/
def methodUnresolvedProblem (vmId : Option String) : ProblemDetail :=
  let named :=
    match vmId.filter fun id => id ≠ "" with
    | some id => s!" ({id})"
    | none => ""
  { type := ProblemTypes.verificationMethodUnresolved
    title := "Verification Method Unresolved"
    detail := s!"The signature could not be checked because the proof's verification method uses a DID method the verifier cannot resolve{named}. Register a resolver/driver for it in the document loader." }

/-- The problems of verification methods that cannot back the proof, beside what else
failed. -/
def faultProblems (found : SubErrorMessages) : List ProblemDetail :=
  (found.faults.map fun detail : String =>
    { type := ProblemTypes.verificationMethodError
      title := "Verification Method Error"
      detail := detail : ProblemDetail }) ++
    if found.others.length > 0 then [invalidSignature found.others] else []

/-- The problem of a proof that does not bind to the request. -/
def mismatchProblem (field title : String) : ProblemDetail :=
  { type := ProblemTypes.proofPurposeMismatch
    title := title
    detail := s!"The presentation proof's {field} does not match the expected {field}." }

/-- The problem for one sub-error of a document that is no JSON-LD. -/
def jsonldProblem (e : JsValue) : ProblemDetail :=
  { type := ProblemTypes.parsingError
    title := "JSON-LD Validation Error"
    detail := (e.textMember "message").getD "Invalid JSON-LD document" }

/-- The problems of an error that is no date rejection. -/
def signatureProblems (platform : Platform) (error : JsValue) (credential : Option Json) :
    Except Thrown (List ProblemDetail) :=
  let errors := extractErrors error
  let found := partitionSubErrorMessages errors
  let vmId := proofVerificationMethod credential
  if errors.any (isOfKind jsonldValidationError) then .ok (errors.map jsonldProblem)
  else
    match errors.find? (isOfKind httpErrorKind) with
    | some httpError => httpProblems platform httpError credential
    | none =>
        if isDidUnresolved errors then
          let vmDid :=
            match vmId with
            | some id => (split id '#').headD ""
            | none => "the verification method DID"
          .ok (didUnresolvedProblems
            s!"The signature could not be checked because {vmDid} could not be resolved.")
        else if hasMessage found.messages issuerControllerMismatch then
          .ok [issuerMismatchProblem credential]
        else if isVerificationMethodUnresolved found.messages then
          .ok [methodUnresolvedProblem vmId]
        else if found.faults.length > 0 then .ok (faultProblems found)
        else
          match bindingMismatches.find? fun mismatch => hasMessage found.messages mismatch.1 with
          | some (_, field, title) => .ok [mismatchProblem field title]
          | none => .ok [invalidSignature found.messages]

/-! ## Verdicts on errors -/

/-- What the errors say of the verification method: neither the network nor a resolver
is to blame, nor the issuer, and a method cannot back the proof. -/
structure BlamesVerificationMethod (errors : List JsValue) : Prop where
  jsonld : errors.any (isOfKind jsonldValidationError) = false
  http : errors.find? (isOfKind httpErrorKind) = none
  resolved : isDidUnresolved errors = false
  issuer : hasMessage (partitionSubErrorMessages errors).messages issuerControllerMismatch = false
  driver : isVerificationMethodUnresolved (partitionSubErrorMessages errors).messages = false
  faults : (partitionSubErrorMessages errors).faults ≠ []

/-- What is reported of a proof that was looked at. -/
def proofFaultTypes : List String :=
  ["ISSUER_PROOF_MISMATCH", "VERIFICATION_METHOD_UNRESOLVED", "VERIFICATION_METHOD_ERROR",
    "PROOF_PURPOSE_MISMATCH", "INVALID_SIGNATURE"].map problemType

/-- One or more problems with the proof. -/
def ProofFaults (problems : List ProblemDetail) : Prop :=
  problems ≠ [] ∧ ∀ problem ∈ problems, problem.type ∈ proofFaultTypes

/-- The verdicts on an error that is no date rejection, by what is to blame first. -/
inductive SignatureVerdict (platform : Platform) (error : JsValue) (credential : Option Json) :
    Except Thrown (List ProblemDetail) → Prop where
  | jsonld :
      (extractErrors error).any (isOfKind jsonldValidationError) = true →
      SignatureVerdict platform error credential (.ok ((extractErrors error).map jsonldProblem))
  | http {httpError : JsValue} :
      (extractErrors error).find? (isOfKind httpErrorKind) = some httpError →
      SignatureVerdict platform error credential (httpProblems platform httpError credential)
  | didUnresolved {detail : String} :
      (extractErrors error).find? (isOfKind httpErrorKind) = none →
      isDidUnresolved (extractErrors error) = true →
      SignatureVerdict platform error credential (.ok (didUnresolvedProblems detail))
  | verificationMethod :
      BlamesVerificationMethod (extractErrors error) →
      SignatureVerdict platform error credential
        (.ok (faultProblems (partitionSubErrorMessages (extractErrors error))))
  | proof {problem : ProblemDetail} :
      (extractErrors error).find? (isOfKind httpErrorKind) = none →
      isDidUnresolved (extractErrors error) = false → problem.type ∈ proofFaultTypes →
      ¬BlamesVerificationMethod (extractErrors error) →
      SignatureVerdict platform error credential (.ok [problem])

/-- Every verdict on such an error is one of these. -/
theorem signatureVerdict (platform : Platform) (error : JsValue) (credential : Option Json) :
    SignatureVerdict platform error credential (signatureProblems platform error credential) := by
  unfold signatureProblems
  dsimp only
  by_cases hjsonld : (extractErrors error).any (isOfKind jsonldValidationError) = true
  · rw [if_pos hjsonld]
    exact .jsonld hjsonld
  · rw [if_neg hjsonld]
    cases hhttp : (extractErrors error).find? (isOfKind httpErrorKind) with
    | some httpError => exact .http hhttp
    | none =>
        dsimp only
        by_cases hresolved : isDidUnresolved (extractErrors error) = true
        · rw [if_pos hresolved]
          exact .didUnresolved hhttp hresolved
        · rw [if_neg hresolved]
          have hresolved := Bool.not_eq_true _ ▸ hresolved
          split_ifs with hissuer hdriver hfaults
          · refine .proof hhttp hresolved (List.mem_map_of_mem (by simp)) ?_
            intro hblames
            simp [hblames.issuer] at hissuer
          · refine .proof hhttp hresolved (List.mem_map_of_mem (by simp)) ?_
            intro hblames
            simp [hblames.driver] at hdriver
          · exact .verificationMethod ⟨by simpa using hjsonld, hhttp, hresolved,
              by simpa using hissuer, by simpa using hdriver, List.length_pos_iff.mp hfaults⟩
          · have hnot : ¬BlamesVerificationMethod (extractErrors error) := by
              intro hblames
              exact hfaults (List.length_pos_iff.mpr hblames.faults)
            split
            · exact .proof hhttp hresolved (List.mem_map_of_mem (by simp)) hnot
            · exact .proof hhttp hresolved (List.mem_map_of_mem (by simp)) hnot

/-- Faults are reported as such, and what else failed as an invalid signature. -/
theorem type_of_mem_faultProblems {found : SubErrorMessages} {problem : ProblemDetail}
    (h : problem ∈ faultProblems found) :
    problem.type = ProblemTypes.verificationMethodError ∨
      problem.type = ProblemTypes.invalidSignature := by
  rcases List.mem_append.mp h with hfault | hother
  · rcases List.mem_map.mp hfault with ⟨detail, _, rfl⟩
    exact .inl rfl
  · split_ifs at hother
    · rw [List.mem_singleton.mp hother]
      exact .inr rfl
    · cases hother

/-- Where there are faults, one of the problems says so. -/
theorem proofFaults_faultProblems {found : SubErrorMessages} (h : found.faults ≠ []) :
    ProofFaults (faultProblems found) := by
  constructor
  · simp [faultProblems, h]
  · intro problem hproblem
    rcases type_of_mem_faultProblems hproblem with htype | htype
    · rw [htype]
      exact List.mem_map_of_mem (by simp)
    · rw [htype]
      exact List.mem_map_of_mem (by simp)

/-- The problems of a verdict, by what is to blame first. -/
theorem SignatureVerdict.type_cases {platform : Platform} {error : JsValue} {credential : Option Json}
    {verdict : Except Thrown (List ProblemDetail)} (h : SignatureVerdict platform error credential verdict) :
    ((extractErrors error).any (isOfKind jsonldValidationError) = true ∧
      verdict = .ok ((extractErrors error).map jsonldProblem)) ∨
    (∃ httpError, (extractErrors error).find? (isOfKind httpErrorKind) = some httpError ∧
      verdict = httpProblems platform httpError credential) ∨
    (extractErrors error).find? (isOfKind httpErrorKind) = none ∧
      ((isDidUnresolved (extractErrors error) = true ∧
        ∃ detail, verdict = .ok (didUnresolvedProblems detail)) ∨
      (isDidUnresolved (extractErrors error) = false ∧
        ∃ problems, verdict = .ok problems ∧ ProofFaults problems)) := by
  cases h with
  | jsonld hjsonld => exact .inl ⟨hjsonld, rfl⟩
  | http hhttp => exact .inr (.inl ⟨_, hhttp, rfl⟩)
  | didUnresolved hhttp hunresolved => exact .inr (.inr ⟨hhttp, .inl ⟨hunresolved, _, rfl⟩⟩)
  | verificationMethod hblames =>
      exact .inr (.inr ⟨hblames.http, .inr ⟨hblames.resolved, _, rfl,
        proofFaults_faultProblems hblames.faults⟩⟩)
  | proof hhttp hresolved htype _ =>
      exact .inr (.inr ⟨hhttp, .inr ⟨hresolved, _, rfl, by simp, by simpa using htype⟩⟩)

/-- Map a rejection of the library onto problems. -/
def classifySignatureError (platform : Platform) (error : JsValue) (credential : Option Json)
    (now : ℚ) : Except Thrown (List ProblemDetail) := do
  match ← classifyDateRejection platform error with
  | some kind => do
      let problem ← dateRejectionProblem platform kind credential now none
      .ok [problem]
  | none => signatureProblems platform error credential

/-- The verdict on a rejection.  Only a date rejection says that the proof verified. -/
def rejection (platform : Platform) (error : JsValue) (credential : Option Json) (now : ℚ) :
    Except Thrown CryptoResult := do
  let problems ← classifySignatureError platform error credential now
  let dateRejection ← classifyDateRejection platform error
  .ok (.rejected problems (dateRejection.map fun _ => true))

/-- The error is read as a date rejection. -/
def IsDateRejection (platform : Platform) (error : JsValue) : Prop :=
  ∃ kind, classifyDateRejection platform error = .ok (some kind)

/-- A rejection that vouches for the proof is a date rejection. -/
theorem isDateRejection_of_rejection_accepted {platform : Platform} {error : JsValue}
    {credential : Option Json} {now : ℚ} {result : CryptoResult}
    (h : rejection platform error credential now = .ok result)
    (haccepted : (serviceResult (.ok result)).isAccepted = true) :
    IsDateRejection platform error := by
  unfold rejection at h
  cases hclassified : classifySignatureError platform error credential now with
  | error thrown =>
      rw [hclassified] at h
      cases h
  | ok problems =>
      rw [hclassified] at h
      cases hdate : classifyDateRejection platform error with
      | error thrown =>
          rw [hdate] at h
          cases h
      | ok kind =>
          rw [hdate] at h
          cases h
          cases kind with
          | none => cases haccepted
          | some kind => exact ⟨kind, hdate⟩

end VerifierCore
