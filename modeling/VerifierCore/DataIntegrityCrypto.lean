import VerifierCore.DataIntegrityCrypto.Rejection

/-!
# The default crypto service

Linked data proofs and data integrity proofs, verified by a signature library.  What the
library answers is not assumed; the service decides which purpose it asks for and what
becomes of its answer.

Main results:

- Theorem {lit}`executes_verifyPresentation`: the one document the service hands to the
  library, and when it accepts the answer.
-/

namespace VerifierCore

open Foundations Program

/-! ## The library -/

/-- What a presentation's proof is checked for. -/
inductive PresentationPurpose where
  | authentication (challenge : String) (domain : Option String)
  | controllerAuthentication
  | assertion
deriving DecidableEq

/-- The proof purpose a proof must state. -/
def PresentationPurpose.term : PresentationPurpose → String
  | .authentication .. | .controllerAuthentication => "authentication"
  | .assertion => "assertionMethod"

/-- The calls to the signature library, to its suites by their position, and to the
clock. -/
inductive LibraryPort where
  | verifyCredential (credential : Json) (now : ℚ)
  | verifyPresentation (presentation : Json) (purpose : PresentationPurpose)
  | matchProof (suite : Nat) (proof document : Json)
  | newDate
deriving DecidableEq

/-- What the library reports on a document. -/
structure LibraryResult where
  verified : Option Bool
  error : JsValue

/-- What the library returns, or what it throws. -/
@[reducible]
def LibraryPort.Answer : LibraryPort → Type
  | .verifyCredential .. => Except Thrown LibraryResult
  | .verifyPresentation .. => Except Thrown LibraryResult
  | .matchProof .. => Except Thrown Bool
  | .newDate => ℚ

/-- The body of an async function of the service. -/
abbrev Verifying (α : Type) : Type :=
  Program LibraryPort LibraryPort.Answer α

/-- A call of the library with its answer. -/
abbrev LibraryEvent : Type :=
  Event LibraryPort LibraryPort.Answer

/-- Call the library. -/
def library (port : LibraryPort) : Verifying port.Answer :=
  Program.perform port

/-- A call of the library is the first event of an execution, with any answer. -/
theorem executes_library_bind_iff {port : LibraryPort} {α : Type}
    {f : port.Answer → Verifying α} {a : α} {trace : List LibraryEvent} :
    Executes (library port >>= f) trace a ↔
      ∃ answer rest, trace = ⟨port, answer⟩ :: rest ∧ Executes (f answer) rest a :=
  executes_perform_bind_iff

namespace DataIntegrityCrypto

/-! ## Purposes -/

/-- The purpose of a proof is authentication. -/
def isAuthenticationPurpose (proofPurpose : Option Json) : Bool :=
  proofPurpose = some (.str "authentication") || proofPurpose = some (.str "authenticationMethod")

/-- Whether any proof of the presentation is an authentication proof. -/
def hasAuthenticationProof (presentation : Json) : Bool :=
  (proofEntries (some presentation)).any fun entry =>
    isAuthenticationPurpose (entry.get? "proofPurpose")

/-- The purpose a presentation's proofs are verified under.  A challenge decides it; the
presentation cannot opt out. -/
def getPresentationPurpose (presentation : Json) (challenge domain : Option String) :
    PresentationPurpose :=
  match challenge with
  | some challenge => .authentication challenge domain
  | none =>
      if hasAuthenticationProof presentation then .controllerAuthentication else .assertion

/-- The purpose the library checks a credential's proof for. -/
def credentialProofPurpose : String :=
  "assertionMethod"

/-! ## Proofs that were not checked -/

/-- The members an object or an array spreads. -/
def spreadMembers : Json → List (String × Json)
  | .obj members => members
  | .arr items => items.zipIdx.map fun item => (toString item.2, item.1)
  | _ => []

/-- The proof with the document's context in front. -/
def proofWithContext (proof document : Json) : Json :=
  let context : Json :=
    .obj ((document.get? "@context").toList.map fun context => ("@context", context))
  (spreadMembers proof).foldl (fun object member => object.set member.1 member.2) context

/-- Whether a suite would check the proof; without an answer if none did and one threw. -/
def anySuiteMatches (proof document : Json) : List Nat → Bool → Verifying (Option Bool)
  | [], threw => pure (if threw then none else some false)
  | suite :: rest, threw => do
      match ← library (.matchProof suite (proofWithContext proof document) document) with
      | .ok true => pure (some true)
      | .ok false => anySuiteMatches proof document rest threw
      | .error _ => anySuiteMatches proof document rest true

/-- The purpose a proof states, as a string. -/
def statedPurpose (platform : Platform) (proof : Json) : Except Thrown String :=
  match proof.get? "proofPurpose" with
  | none | some .null => .ok "none"
  | some purpose => platform.coerceToString purpose

/-- The detail of the problem for a document without a proof for this service. -/
def unsupportedDetail : String :=
  "No proof in this document could be checked: none uses a cryptosuite this verifier supports with the expected proof purpose."

/-- Why the library did not check the only proof of a document. -/
def singleProofDetail (platform : Platform) (proof : Json) (expectedPurpose : String)
    (matched : Option Bool) : Except Thrown String :=
  match matched with
  | some false => .ok "This verifier does not support this proof's cryptosuite."
  | some true =>
      if proof.get? "proofPurpose" ≠ some (.str expectedPurpose) then do
        let purpose ← statedPurpose platform proof
        .ok s!"This proof's purpose ({purpose}) is not the one being checked ({expectedPurpose})."
      else .ok unsupportedDetail
  | none => .ok unsupportedDetail

/-- Say why the library checked no proof. -/
def unsupportedProofProblem (platform : Platform) (document : Json) (suites : List Nat)
    (expectedPurpose : String) : Verifying (Except Thrown ProblemDetail) := do
  let problem (detail : String) : ProblemDetail :=
    { type := ProblemTypes.proofUnsupported, title := "Unsupported Proof", detail := detail }
  match proofEntries (some document) with
  | [proof] => do
      let matched ← anySuiteMatches proof document suites false
      pure ((singleProofDetail platform proof expectedPurpose matched).map problem)
  -- Each of several proofs may have been skipped for a reason of its own.
  | _ => pure (.ok (problem unsupportedDetail))

/-! ## The service -/

/-- The verdict where the library threw. -/
def verificationErrorResult (error : Thrown) : CryptoResult :=
  .rejected
    [{ type := ProblemTypes.proofVerificationError
       title := "Verification Error"
       detail := errorMessage error
        "An unexpected error occurred during signature verification." }]
    none

/-- The answer of a body whose throws are caught. -/
def caught : Except Thrown CryptoResult → CryptoResult
  | .ok result => result
  | .error error => verificationErrorResult error

/-- `options.now ?? new Date()`. -/
def nowOf (options : CryptoVerifyOptions) : Verifying ℚ :=
  match options.now with
  | some now => pure now
  | none => library .newDate

/-- The verdict where the library accepted the proofs. -/
def signatureVerified : CryptoResult :=
  .verified (some "Signature verified successfully.")

/-- `canVerify` of the service. -/
def canVerify (subject : VerificationSubject) : Bool :=
  documentHasProof
    ((subject.verifiablePresentation.filter fun document => document ≠ .null).or
      subject.verifiableCredential)

/-- `verifyCredential` of the service. -/
def verifyCredential (platform : Platform) (suites : List Nat) (credential : Json)
    (options : CryptoVerifyOptions) : Verifying CryptoResult := do
  let now ← nowOf options
  match ← library (.verifyCredential credential now) with
  | .error error => pure (verificationErrorResult error)
  | .ok result =>
      if result.verified = some true then pure signatureVerified
      else if isJsigsNoMatch result.error then do
        let problem ← unsupportedProofProblem platform credential suites credentialProofPurpose
        pure (caught (problem.map fun problem => .rejected [problem] none))
      else pure (caught (rejection platform result.error (some credential) now))

/-- `verifyPresentation` of the service. -/
def verifyPresentation (platform : Platform) (suites : List Nat) (presentation : Json)
    (options : CryptoVerifyOptions) : Verifying CryptoResult := do
  let purpose := getPresentationPurpose presentation options.challenge options.domain
  match ← library (.verifyPresentation presentation purpose) with
  | .error error => pure (verificationErrorResult error)
  | .ok result =>
      if result.verified = some true then pure signatureVerified
      else if isJsigsNoMatch result.error then do
        let problem ← unsupportedProofProblem platform presentation suites purpose.term
        pure (caught (problem.map fun problem => .rejected [problem] none))
      else do
        let now ← nowOf options
        pure (caught (rejection platform result.error none now))

/-! ## What the service accepts -/

/-- The library reported the document verified, or found nothing wrong with it but its
dates, which it judges behind the proof. -/
def LibraryAccepts (platform : Platform) (result : LibraryResult) : Prop :=
  result.verified = some true ∨ IsDateRejection platform result.error

/-- A document without a proof for this service is not accepted. -/
theorem isAccepted_unsupported {problem : Except Thrown ProblemDetail} :
    (serviceResult (.ok (caught
      (problem.map fun problem => .rejected [problem] none)))).isAccepted = false := by
  cases problem with
  | error error => rfl
  | ok problem => rfl

/-- The service hands the document to the library once, under the purpose of the
options, and accepts it only if the library does. -/
theorem executes_verifyPresentation {platform : Platform} {suites : List Nat}
    {presentation : Json} {options : CryptoVerifyOptions} {events : List LibraryEvent}
    {result : CryptoResult}
    (h : Executes (verifyPresentation platform suites presentation options) events result)
    (haccepted : (serviceResult (.ok result)).isAccepted = true) :
    ∃ answer rest, LibraryAccepts platform answer ∧ events = ⟨.verifyPresentation presentation
      (getPresentationPurpose presentation options.challenge options.domain),
        .ok answer⟩ :: rest := by
  rcases executes_library_bind_iff.mp h with ⟨answer, rest, rfl, hrest⟩
  cases answer with
  | error error =>
      rcases executes_pure_iff.mp hrest with ⟨_, rfl⟩
      cases haccepted
  | ok answer =>
      refine ⟨answer, rest, ?_, rfl⟩
      dsimp only at hrest
      split_ifs at hrest with hverified hmatch
      · exact .inl hverified
      · rcases executes_bind_iff.mp hrest with ⟨_, _, problem, rfl, _, hpure⟩
        rcases executes_pure_iff.mp hpure with ⟨_, rfl⟩
        rw [isAccepted_unsupported] at haccepted
        cases haccepted
      · rcases executes_bind_iff.mp hrest with ⟨_, _, now, rfl, _, hpure⟩
        rcases executes_pure_iff.mp hpure with ⟨_, rfl⟩
        right
        cases hrejection : rejection platform answer.error none now with
        | error error =>
            rw [hrejection] at haccepted
            cases haccepted
        | ok judged =>
            rw [hrejection] at haccepted
            exact isDateRejection_of_rejection_accepted hrejection haccepted

end DataIntegrityCrypto

end VerifierCore
