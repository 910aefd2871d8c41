import VerifierCore.Suites.Core

/-!
# The proof suite

The signature check dispatches the document's proofs to the crypto services and
keeps the verdict for the check behind it; the last check judges the
credential's own dates.

Main results:

- Theorem {lit}`executes_signatureCheck`: what the signature check does with each
  kind of subject.
- Theorem {lit}`signature_evidence`: a credential's signature only succeeds if a
  crypto service was handed a proof of it and accepted.
- Theorem {lit}`signature_success_iff`: on a proof set, the check succeeds exactly
  when every entry, dispatched alone, is accepted or cannot be checked, and one
  that can be checked is accepted.
-/

namespace VerifierCore

open Foundations Program

/-! ## The verdict shared within one run -/

/-- The options every proof of a context is verified with. -/
def proofOptions (context : VerificationContext) : CryptoVerifyOptions :=
  { challenge := context.challenge, domain := context.domain, now := some context.now }

/-- Start a fresh record of proof verifications. -/
def beginProofRun (store : ContextStore) : ContextStore :=
  { store with verifiedProofs := some [] }

/-- Verify the proofs of the subject's document.  Within a run, a document is
verified once and the verdict is shared. -/
def verifyProofSet (subject : VerificationSubject) (context : VerificationContext)
    (store : ContextStore) : Async (ProofSetDispatchResult × ContextStore) :=
  let dispatch := dispatchProofSetVerification context.cryptoServices subject
    (proofOptions context)
  match store.verifiedProofs, proofDocument subject with
  | some byDocument, some document =>
      if document.isObjectType then
        match byDocument.lookup document with
        | some pending => pure (pending, store)
        | none => do
            let verdict ← dispatch
            pure (verdict,
              { store with verifiedProofs := some ((document, verdict) :: byDocument) })
      else do
        let verdict ← dispatch
        pure (verdict, store)
  | _, _ => do
      let verdict ← dispatch
      pure (verdict, store)

/-! ## Signature -/

/-- The outcome a dispatch is reported as. -/
def signatureOutcome : CryptoDispatchResult → CheckOutcome
  | .verified message => .success (message.getD "Signature verified successfully.")
  | .rejected problems proofVerified =>
      if proofVerified then .success "Signature verified successfully." else .failure problems
  | .noService =>
      failWith ProblemTypes.proofVerificationError "No Applicable Crypto Service"
        "No registered crypto service can verify this subject (check canVerify / cryptoServices)."
  | .threw _ message =>
      failWith ProblemTypes.proofVerificationError "Verification Error" message

/-- The outcome of a subject whose document has no proof, if it has none. -/
def noProofOutcome (subject : VerificationSubject) (context : VerificationContext) :
    Option CheckOutcome :=
  if truthy subject.verifiablePresentation then
    if !documentHasProof subject.verifiablePresentation then
      if context.unsignedPresentation then
        some (.skipped "Presentation is unsigned; accepted because unsignedPresentation is set."
          (some "unsigned-presentation"))
      else
        some (failWith ProblemTypes.proofVerificationError "Presentation Not Signed"
          "The presentation has no proof. Pass unsignedPresentation: true to accept an unsigned presentation.")
    else none
  else if !documentHasProof subject.verifiableCredential then
    some (failWith ProblemTypes.proofVerificationError "No Proof"
      "Subject has no proof to verify.")
  else none

/-- The proofs of a document are dispatched, and the verdict on all of them is the outcome. -/
def signatureCheck : VerificationCheck where
  id := "proof.signature"
  fatal := some true
  appliesTo := some [.verifiableCredential, .verifiablePresentation]
  execute subject context store :=
    if !truthy subject.verifiableCredential && !truthy subject.verifiablePresentation then
      pure (.ok (failWith ProblemTypes.proofVerificationError "No Verifiable Content"
        "No verifiable credential or presentation found in subject."), store)
    else
      match noProofOutcome subject context with
      | some outcome => pure (.ok outcome, store)
      | none => do
          let dispatched ← verifyProofSet subject context (beginProofRun store)
          pure (.ok (signatureOutcome dispatched.1.combined), dispatched.2)

/-! ## Unsupported proofs -/

/-- The proofs that no service supports are reported. -/
def unsupportedProofsCheck : VerificationCheck where
  id := "proof.unsupported-proofs"
  fatal := some false
  appliesTo := some [.verifiableCredential, .verifiablePresentation]
  execute subject context store :=
    if !documentHasProof (proofDocument subject) then
      pure (.ok (.skipped "The document has no proof."), store)
    else do
      let dispatched ← verifyProofSet subject context store
      let problems := (dispatched.1.proofs.filter fun outcome =>
        isUnsupportedProof outcome.result).flatMap problemsOfProof
      let outcome :=
        if problems.length > 0 then .failure problems
        else .success "Every proof was checked."
      pure (.ok outcome, dispatched.2)

/-! ## Validity period -/

/-- The credential's start and end date properties. -/
structure ValidityProperties where
  start : String
  «end» : String

/-- The members that state the validity in a version of the data model. -/
def validityProperties : VcVersion → ValidityProperties
  | .v1 => { start := "issuanceDate", «end» := "expirationDate" }
  | .v2 => { start := "validFrom", «end» := "validUntil" }

/-- What a stated date names. -/
inductive StatedDate where
  | absent
  | unparseable
  | date (ms : ℚ)

/-- The date a member states, as `new Date` reads it. -/
def dateOf (platform : Platform) : Option Json → StatedDate
  | none => .absent
  | some (.str s) =>
      match platform.parseDate s with
      | some ms => .date ms
      | none => .unparseable
  | some _ => .unparseable

/-- The two validity-period rejections. -/
inductive DateRejection where
  | expired
  | notYetValid
deriving DecidableEq

/-- How a rejection is described, with the properties it reads, newest first. -/
structure DateRejectionText where
  type : String
  title : String
  verdict : String
  properties : List String

/-- How the two rejections are reported. -/
def dateRejections : DateRejection → DateRejectionText
  | .expired =>
      { type := ProblemTypes.credentialExpired
        title := "Credential Expired"
        verdict := "Validity ended"
        properties := ["validUntil", "expirationDate"] }
  | .notYetValid =>
      { type := ProblemTypes.credentialNotYetValid
        title := "Credential Not Yet Valid"
        verdict := "Validity starts"
        properties := ["validFrom", "issuanceDate"] }

/-- The problem for a validity-period rejection.  Quoting the date coerces it to
a string, which can throw. -/
def dateRejectionProblem (platform : Platform) (rejection : DateRejection)
    (credential : Option Json) (now : ℚ) (property : Option String) :
    Except Thrown ProblemDetail := do
  let text := dateRejections rejection
  let quoted := property.or (text.properties.find? fun name =>
    (asString (credential.bind (Json.get? · name))).isSome)
  let when ←
    match quoted with
    | none => .ok ""
    | some name =>
        match credential.bind (Json.get? · name) with
        | none => .ok ""
        | some value => do
            let date ← platform.coerceToString value
            .ok s!" at {date} ({name})"
  .ok
    { type := text.type
      title := text.title
      detail := s!"{text.verdict}{when}. Verified at {platform.toISOString now}." }

/-- The outcome of the validity dates of a credential of a known version. -/
def validityOutcome (platform : Platform) (credential : Json) (now : ℚ)
    (properties : ValidityProperties) : Except Thrown CheckOutcome := do
  let skip (field : String) : CheckOutcome :=
    .skipped s!"{field} is not a date, so the validity period cannot be judged."
      (some "unparseable-date")
  let expired (stop : ℚ) : Except Thrown (List ProblemDetail) := do
    if now > stop then
      .ok [← dateRejectionProblem platform .expired (some credential) now (some properties.end)]
    else .ok []
  let notYetValid (start : ℚ) : Except Thrown (List ProblemDetail) := do
    if now < start then
      .ok [← dateRejectionProblem platform .notYetValid (some credential) now
        (some properties.start)]
    else .ok []
  let judge (problems : List ProblemDetail) : CheckOutcome :=
    if problems.length > 0 then .failure problems
    else .success "The credential is within its validity period."
  match dateOf platform (credential.get? properties.start),
      dateOf platform (credential.get? properties.end) with
  | .unparseable, _ => .ok (skip properties.start)
  | _, .unparseable => .ok (skip properties.end)
  | .absent, .absent => .ok (.success "No validity period stated.")
  | .absent, .date stop => .ok (judge (← expired stop))
  | .date start, .absent => .ok (judge (← notYetValid start))
  | .date start, .date stop => .ok (judge ((← expired stop) ++ (← notYetValid start)))

/-- The check of a credential's validity period against the current time. -/
def validityPeriodCheck (platform : Platform) : VerificationCheck where
  id := "proof.validity-period"
  fatal := some true
  halts := some false
  appliesTo := some [.verifiableCredential]
  execute := pureBody fun subject context =>
    match subject.verifiableCredential.filter Json.truthy with
    | none => .ok (.skipped "No verifiable credential found in subject.")
    | some credential =>
        match vcVersionOf (credential.get? "@context") with
        | none =>
            .ok (.skipped
              "The first @context entry is not a VC context, so the validity period cannot be read."
              (some "unknown-vc-version"))
        | some version =>
            validityOutcome platform credential context.now (validityProperties version)

/-- The proof verification suite. -/
def proofSuite (platform : Platform) : VerificationSuite where
  id := "proof"
  phase := some .cryptographic
  checks := [signatureCheck, unsupportedProofsCheck, validityPeriodCheck platform]

/-! ## The proof checks leave the cache alone -/

/-- Verifying proofs does not use the cache. -/
theorem leavesCache_verifyProofSet (subject : VerificationSubject)
    (context : VerificationContext) (store : ContextStore) :
    (verifyProofSet subject context store).Confined Port.LeavesCache := by
  have hdispatch {resume : ProofSetDispatchResult → ProofSetDispatchResult × ContextStore} :
      (dispatchProofSetVerification context.cryptoServices subject (proofOptions context) >>=
        fun verdict => pure (resume verdict)).Confined Port.LeavesCache := by
    apply Confined.bind (leavesCache_dispatchProofSetVerification _ _ _)
    intro verdict
    exact confined_pure _
  unfold verifyProofSet
  dsimp only
  split
  · split
    · split
      · exact confined_pure _
      · exact hdispatch
    · exact hdispatch
  · exact hdispatch

/-- The signature check does not use the cache. -/
theorem leavesCache_signatureCheck (subject : VerificationSubject)
    (context : VerificationContext) (store : ContextStore) :
    (signatureCheck.execute subject context store).Confined Port.LeavesCache := by
  unfold signatureCheck
  dsimp only
  split
  · exact confined_pure _
  · split
    · exact confined_pure _
    · apply Confined.bind (leavesCache_verifyProofSet _ _ _)
      intro dispatched
      exact confined_pure _

/-- The report of unsupported proofs does not use the cache. -/
theorem leavesCache_unsupportedProofsCheck (subject : VerificationSubject)
    (context : VerificationContext) (store : ContextStore) :
    (unsupportedProofsCheck.execute subject context store).Confined Port.LeavesCache := by
  unfold unsupportedProofsCheck
  dsimp only
  split
  · exact confined_pure _
  · apply Confined.bind (leavesCache_verifyProofSet _ _ _)
    intro dispatched
    exact confined_pure _

/-! ## What the signature check does -/

/-- A signature outcome is a success exactly when the dispatch is accepted. -/
theorem isSuccess_signatureOutcome (result : CryptoDispatchResult) :
    (signatureOutcome result).isSuccess = result.isAccepted := by
  cases result with
  | verified message => rfl
  | rejected problems proofVerified => cases proofVerified <;> rfl
  | noService => rfl
  | threw error message => rfl

/-- What is not accepted is a failure; a dispatch is never skipped. -/
theorem isFailure_signatureOutcome (result : CryptoDispatchResult) :
    (signatureOutcome result).isFailure = !result.isAccepted := by
  cases result with
  | verified message => rfl
  | rejected problems proofVerified => cases proofVerified <;> rfl
  | noService => rfl
  | threw error message => rfl

/-- At the start of a run the record is empty, so the document is verified. -/
theorem executes_verifyProofSet_begin {subject : VerificationSubject}
    {context : VerificationContext} {store : ContextStore} {trace : List PortEvent}
    {verdict : ProofSetDispatchResult} {store' : ContextStore}
    (h : Executes (verifyProofSet subject context (beginProofRun store)) trace
      (verdict, store')) :
    Executes (dispatchProofSetVerification context.cryptoServices subject
      (proofOptions context)) trace verdict := by
  unfold verifyProofSet beginProofRun at h
  dsimp only at h
  have hplain {resume : ProofSetDispatchResult → ProofSetDispatchResult × ContextStore}
      (hresume : ∀ v, (resume v).1 = v)
      (hrun : Executes (dispatchProofSetVerification context.cryptoServices subject
        (proofOptions context) >>= fun v => pure (resume v)) trace (verdict, store')) :
      Executes (dispatchProofSetVerification context.cryptoServices subject
        (proofOptions context)) trace verdict := by
    rcases executes_bind_iff.mp hrun with ⟨first, second, v, rfl, hdispatch, hpure⟩
    rcases executes_pure_iff.mp hpure with ⟨rfl, hv⟩
    have hverdict : verdict = v := by rw [← hresume v, ← hv]
    rw [hverdict]
    simpa using hdispatch
  cases hdocument : proofDocument subject with
  | none =>
      simp only [hdocument] at h
      exact hplain (fun _ => rfl) h
  | some document =>
      simp only [hdocument, List.lookup_nil] at h
      split at h
      · exact hplain (fun _ => rfl) h
      · exact hplain (fun _ => rfl) h

/-- The signature check either answers without any call, or dispatches the
document's proofs and reports the verdict. -/
theorem executes_signatureCheck {subject : VerificationSubject} {context : VerificationContext}
    {store store' : ContextStore} {trace : List PortEvent} {result : Except Thrown CheckOutcome}
    (h : Executes (signatureCheck.execute subject context store) trace (result, store')) :
    (trace = [] ∧ ((∃ outcome, noProofOutcome subject context = some outcome ∧
        result = .ok outcome) ∨ ∃ problems, result = .ok (.failure problems))) ∨
      noProofOutcome subject context = none ∧
      ∃ verdict, Executes (dispatchProofSetVerification context.cryptoServices subject
          (proofOptions context)) trace verdict ∧
        result = .ok (signatureOutcome verdict.combined) := by
  unfold signatureCheck at h
  dsimp only at h
  split at h
  · simp only [executes_pure_iff, Prod.mk.injEq] at h
    exact .inl ⟨h.1, .inr ⟨_, h.2.1⟩⟩
  · cases hproof : noProofOutcome subject context with
    | some outcome =>
        simp only [hproof, executes_pure_iff, Prod.mk.injEq] at h
        exact .inl ⟨h.1, .inl ⟨outcome, rfl, h.2.1⟩⟩
    | none =>
        simp only [hproof] at h
        rcases executes_bind_iff.mp h with ⟨first, second, dispatched, rfl, hverify, hpure⟩
        simp only [executes_pure_iff, Prod.mk.injEq] at hpure
        rcases hpure with ⟨rfl, rfl, rfl⟩
        refine .inr ⟨rfl, dispatched.1, ?_, rfl⟩
        simpa using executes_verifyProofSet_begin hverify

/-- The check never answers success without a dispatch. -/
theorem isSuccess_noProofOutcome {subject : VerificationSubject} {context : VerificationContext}
    {outcome : CheckOutcome} (h : noProofOutcome subject context = some outcome) :
    outcome.isSuccess = false := by
  unfold noProofOutcome at h
  split_ifs at h <;> cases h <;> rfl

/-- A proof of the document was handed to a crypto service, which accepted it. -/
def ProofAccepted (subject : VerificationSubject) (trace : List PortEvent) : Prop :=
  ∃ handed service document options answer, proofDocument handed = some document ∧
    (handed = subject ∨ ∃ proof, handed = withSingleProof subject proof) ∧
    verifyEvent (proofDocumentKey handed) service document options answer ∈ trace ∧
    (serviceResult answer).isAccepted = true

/-- An accepted dispatch accepted a proof of the document. -/
theorem proofAccepted_of_dispatch {services : List Nat} {subject handed : VerificationSubject}
    {options : CryptoVerifyOptions} {trace : List PortEvent} {result : CryptoDispatchResult}
    (hhanded : handed = subject ∨ ∃ proof, handed = withSingleProof subject proof)
    (h : Executes (dispatchProofVerification services handed options) trace result)
    (haccepted : result.isAccepted = true) : ProofAccepted subject trace := by
  rcases executes_dispatchProofVerification h with ⟨_, hresult⟩ |
    ⟨selection, service, document, answer, _, _, hdocument, rfl, rfl⟩
  · rcases hresult with rfl | ⟨error, rfl⟩
    · cases haccepted
    · cases haccepted
  · exact ⟨handed, service, document, options, answer, hdocument, hhanded, by simp, haccepted⟩

/-- A successful signature check has seen a crypto service accept a proof. -/
theorem signature_evidence {subject : VerificationSubject} {context : VerificationContext}
    {store store' : ContextStore} {trace : List PortEvent} {outcome : CheckOutcome}
    (h : Executes (signatureCheck.execute subject context store) trace (.ok outcome, store'))
    (hsuccess : outcome.isSuccess = true) : ProofAccepted subject trace := by
  rcases executes_signatureCheck h with ⟨_, hquiet | ⟨problems, hfailure⟩⟩ |
    ⟨_, verdict, hdispatch, hresult⟩
  · rcases hquiet with ⟨other, hproof, hother⟩
    cases hother
    rw [isSuccess_noProofOutcome hproof] at hsuccess
    cases hsuccess
  · cases hfailure
    cases hsuccess
  · cases hresult
    rw [isSuccess_signatureOutcome] at hsuccess
    by_cases hset : truthy (proofDocument subject) = true ∧
        2 ≤ (positionedProofs (proofSetOf (proofDocument subject))).length
    · rcases (executes_dispatchProofSetVerification hset.1 hset.2).mp hdispatch with
        ⟨entries, _, rfl, halone, hproofs, hcombined⟩
      rw [hcombined, combineProofOutcomes_accepted_iff] at hsuccess
      rcases hsuccess.2 with ⟨p, hp, haccepted, _⟩
      rw [hproofs] at hp
      rcases List.mem_map.mp hp with ⟨entry, hentry, rfl⟩
      rcases proofAccepted_of_dispatch (.inr ⟨_, rfl⟩) (halone entry hentry) haccepted with
        ⟨handed, service, document, options, answer, hdocument, hhanded, hmem, hanswer⟩
      exact ⟨handed, service, document, options, answer, hdocument, hhanded,
        List.mem_flatMap.mpr ⟨entry, hentry, hmem⟩, hanswer⟩
    · have hsingle := executes_dispatchProofSetVerification_single hset hdispatch
      exact proofAccepted_of_dispatch (.inl rfl) hsingle.1 hsuccess

/-! ## Proof sets, end to end -/

/-- Plain objects are all kept by the filter for objects. -/
theorem filter_isObjectType_eq_self {proofs : List Json}
    (hplain : ∀ proof ∈ proofs, isPlainObject (some proof) = true) :
    proofs.filter Json.isObjectType = proofs := by
  rw [List.filter_eq_self]
  intro proof hproof
  have h := hplain proof hproof
  cases proof <;> simp_all [isPlainObject, Json.isObjectType]

/-- The document a subject carries is the one whose proofs are verified. -/
theorem proofDocument_of_carriesDocument {document : Json} {subject : VerificationSubject}
    (hsubject : CarriesDocument document subject) (htruthy : document.truthy = true) :
    proofDocument subject = some document := by
  cases hsubject with
  | credential => rfl
  | presentation =>
      have hpresentation : truthy (some document) = true := htruthy
      simp [proofDocument, proofDocumentKey, hpresentation, VerificationSubject.get]

/-- Only an object carries proofs. -/
theorem exists_members_of_documentHasProof {document : Json}
    (hproof : documentHasProof (some document) = true) : ∃ members, document = .obj members := by
  cases document with
  | obj members => exact ⟨members, rfl⟩
  | null | bool | num | str | arr => simp [documentHasProof, proofEntries, Json.get?] at hproof

/-- A document with a proof goes to dispatch. -/
theorem noProofOutcome_eq_none {subject : VerificationSubject} {members : List (String × Json)}
    (context : VerificationContext)
    (hdocument : proofDocument subject = some (.obj members))
    (hproof : documentHasProof (some (.obj members)) = true) :
    noProofOutcome subject context = none ∧
      (!truthy subject.verifiableCredential && !truthy subject.verifiablePresentation) = false := by
  have htruthy : truthy (some (.obj members)) = true := rfl
  by_cases hpresentation : truthy subject.verifiablePresentation = true
  · have hsame : subject.verifiablePresentation = some (.obj members) := by
      rw [← hdocument, proofDocument, proofDocumentKey, if_pos hpresentation]
      rfl
    simp [noProofOutcome, hsame, hproof, htruthy]
  · have hsame : subject.verifiableCredential = some (.obj members) := by
      rw [← hdocument, proofDocument, proofDocumentKey, if_neg hpresentation]
      rfl
    simp [noProofOutcome, hpresentation, hsame, hproof, htruthy]

/-- The signature check of a document with proofs dispatches them, and records the
verdict it reports. -/
theorem executes_signatureCheck_recorded {subject : VerificationSubject}
    {context : VerificationContext} {store store' : ContextStore} {trace : List PortEvent}
    {members : List (String × Json)} {result : Except Thrown CheckOutcome}
    (hdocument : proofDocument subject = some (.obj members))
    (hproof : documentHasProof (some (.obj members)) = true)
    (h : Executes (signatureCheck.execute subject context store) trace (result, store')) :
    ∃ verdict, Executes (dispatchProofSetVerification context.cryptoServices subject
        (proofOptions context)) trace verdict ∧
      result = .ok (signatureOutcome verdict.combined) ∧
      store'.verifiedProofs = some [(.obj members, verdict)] := by
  rcases noProofOutcome_eq_none context hdocument hproof with ⟨hsigned, hcontent⟩
  -- The record of the run is empty, so the document is verified.
  have hfresh : verifyProofSet subject context (beginProofRun store) =
      dispatchProofSetVerification context.cryptoServices subject (proofOptions context) >>=
        fun verdict => pure (verdict,
          { store with verifiedProofs := some [(Json.obj members, verdict)] }) := by
    simp [verifyProofSet, beginProofRun, hdocument, Json.isObjectType]
  unfold signatureCheck at h
  simp only [hcontent, hsigned, hfresh, Bool.false_eq_true, if_false] at h
  rcases executes_bind_iff.mp h with ⟨events, _, dispatched, rfl, hverify, hpure⟩
  rcases executes_bind_iff.mp hverify with ⟨_, _, verdict, rfl, hdispatch, hrecord⟩
  rcases executes_pure_iff.mp hrecord with ⟨rfl, rfl⟩
  simp only [executes_pure_iff, Prod.mk.injEq] at hpure
  rcases hpure with ⟨rfl, rfl, rfl⟩
  exact ⟨verdict, by simpa using hdispatch, rfl, rfl⟩

/-- The signature check of a signed document dispatches its proofs, and records the
verdict it reports. -/
theorem executes_signatureCheck_signed {document : Json} {subject : VerificationSubject}
    {context : VerificationContext} {store store' : ContextStore} {trace : List PortEvent}
    {result : Except Thrown CheckOutcome} (hsubject : CarriesDocument document subject)
    (hproof : documentHasProof (some document) = true)
    (h : Executes (signatureCheck.execute subject context store) trace (result, store')) :
    ∃ verdict, Executes (dispatchProofSetVerification context.cryptoServices subject
        (proofOptions context)) trace verdict ∧
      result = .ok (signatureOutcome verdict.combined) ∧
      store'.verifiedProofs = some [(document, verdict)] := by
  rcases exists_members_of_documentHasProof hproof with ⟨members, rfl⟩
  exact executes_signatureCheck_recorded (proofDocument_of_carriesDocument hsubject rfl) hproof h

/-- With a verdict on record, the check reports the proofs that were not checked. -/
theorem executes_unsupportedProofsCheck_recorded {subject : VerificationSubject}
    {context : VerificationContext} {store store' : ContextStore} {trace : List PortEvent}
    {members : List (String × Json)} {verdict : ProofSetDispatchResult}
    {result : Except Thrown CheckOutcome}
    (hdocument : proofDocument subject = some (.obj members))
    (hproof : documentHasProof (some (.obj members)) = true)
    (hrecorded : store.verifiedProofs = some [(.obj members, verdict)])
    (h : Executes (unsupportedProofsCheck.execute subject context store) trace
      (result, store')) :
    let problems := (verdict.proofs.filter fun outcome =>
      isUnsupportedProof outcome.result).flatMap problemsOfProof
    result = .ok (if problems.length > 0 then .failure problems
      else .success "Every proof was checked.") := by
  unfold unsupportedProofsCheck at h
  dsimp only at h
  rw [hdocument, hproof] at h
  rcases executes_bind_iff.mp h with ⟨events, _, dispatched, rfl, hverify, hpure⟩
  have hread : verifyProofSet subject context store = pure (verdict, store) := by
    simp [verifyProofSet, hrecorded, hdocument, Json.isObjectType]
  rw [hread] at hverify
  rcases executes_pure_iff.mp hverify with ⟨_, rfl⟩
  exact (Prod.mk.inj (executes_pure_iff.mp hpure).2).1

/-- On a document that passed the core suite and carries two or more proofs,
each proof is dispatched alone, and the signature check succeeds exactly when
each of them is accepted or could not be checked, and one that could be checked
is accepted. -/
theorem signature_success_iff {platform : Platform} {subject : VerificationSubject}
    {context : VerificationContext} {coreStore store store' : ContextStore} {document : Json}
    {proofs : List Json} {trace : List PortEvent} {result : Except Thrown CheckOutcome}
    (hsubject : CarriesDocument document subject)
    (hcore : PassesCore platform subject context coreStore)
    (hproof : document.get? "proof" = some (.arr proofs)) (htwo : 2 ≤ proofs.length)
    (h : Executes (signatureCheck.execute subject context store) trace (result, store')) :
    ∃ (outcome : CheckOutcome) (entries : List EntryDispatch), result = .ok outcome ∧
      entries.map (fun entry => entry.positioned.1) = proofs ∧
      trace = entries.flatMap EntryDispatch.trace ∧
      (∀ entry ∈ entries,
        proofDocument (withSingleProof subject entry.positioned.1) =
          some (document.set "proof" entry.positioned.1) ∧
        entry.Alone context.cryptoServices subject (proofOptions context)) ∧
      (outcome.isSuccess = true ↔
        (∀ entry ∈ entries,
          entry.result.isAccepted = true ∨ isUnsupportedProof entry.result = true) ∧
        ∃ entry ∈ entries,
          entry.result.isAccepted = true ∧ isUnsupportedProof entry.result = false) := by
  have hplain := passesCore_proof_entries hsubject hproof hcore
  have hfilter := filter_isObjectType_eq_self hplain
  have htruthy : document.truthy = true := by
    cases document <;> simp_all [Json.get?, Json.truthy]
  have hdocument := proofDocument_of_carriesDocument hsubject htruthy
  have hset : proofSetOf (proofDocument subject) = proofs := by
    simp [proofSetOf, hdocument, hproof]
  have hfst : (positionedProofs (proofSetOf (proofDocument subject))).map Prod.fst = proofs := by
    rw [map_fst_positionedProofs, hset, hfilter]
  have hlength : 2 ≤ (positionedProofs (proofSetOf (proofDocument subject))).length := by
    rw [← List.length_map (f := Prod.fst), hfst]
    exact htwo
  have hhasProof : documentHasProof (some document) = true := by
    simp only [documentHasProof, proofEntries, Option.bind_some, hproof, hfilter]
    exact decide_eq_true (by omega)
  rcases executes_signatureCheck_signed hsubject hhasProof h with
    ⟨verdict, hdispatch, rfl, _⟩
  have hdocTruthy : truthy (proofDocument subject) = true := by
    rw [hdocument]
    exact htruthy
  rcases (executes_dispatchProofSetVerification hdocTruthy hlength).mp hdispatch with
    ⟨entries, hpositioned, rfl, halone, hproofs, hcombined⟩
  refine ⟨_, entries, rfl, ?_, by simp, ?_, ?_⟩
  · rw [← hfst, ← hpositioned, List.map_map]
    rfl
  · intro entry hentry
    refine ⟨?_, halone entry hentry⟩
    rw [proofDocument_withSingleProof, hdocument, Option.getD_some]
  · rw [isSuccess_signatureOutcome, hcombined, combineProofOutcomes_accepted_iff, hproofs]
    simp [positionedOutcome]

/-! ### A set of a verified and an unsupported proof -/

/-- A credential with two proofs. -/
def twoProofCredential : Json :=
  .obj [("@context", .arr [.str vcContextV2]), ("type", .str "VerifiableCredential"),
    ("issuer", .str "did:example:issuer"), ("credentialSubject", .obj [("name", .str "A")]),
    ("proof", .arr [.obj [("type", .str "A")], .obj [("type", .str "B")]])]

/-- The runtime accepts the issuer as a URL. -/
def twoProofPlatform : Platform :=
  PlatformTable.platform { urls := ["did:example:issuer"] }

/-- A subject that carries the credential with two proofs. -/
def twoProofSubject : VerificationSubject :=
  { verifiableCredential := some twoProofCredential }

/-- A context with one configured service. -/
def twoProofContext : VerificationContext :=
  { cryptoServices := [0] }

/-- The service verifies the first proof and does not support the second. -/
def twoProofTrace : List PortEvent :=
  let first := twoProofCredential.set "proof" (.obj [("type", .str "A")])
  let second := twoProofCredential.set "proof" (.obj [("type", .str "B")])
  let options := proofOptions twoProofContext
  [⟨.canVerify 0 { verifiableCredential := some first }, .ok true⟩,
    ⟨.verifyCredential 0 first options, .ok (.verified none)⟩,
    ⟨.canVerify 0 { verifiableCredential := some second }, .ok true⟩,
    ⟨.verifyCredential 0 second options, .ok (.rejected [noServiceForProof] none)⟩]

/-- The credential with two proofs passes the core checks. -/
theorem passesCore_twoProof :
    PassesCore twoProofPlatform twoProofSubject twoProofContext {} := by
  intro check hcheck happlies trace result store' h
  simp only [coreSuite, List.mem_cons, List.not_mem_nil, or_false] at hcheck
  rcases hcheck with rfl | rfl | rfl | rfl | rfl | rfl
  · cases (executes_pure_iff.mp h).2
    exact ⟨_, rfl, by decide +kernel⟩
  · cases (executes_pure_iff.mp h).2
    exact ⟨_, rfl, by decide +kernel⟩
  · cases (executes_pure_iff.mp h).2
    exact ⟨_, rfl, by decide +kernel⟩
  · simp [appliesToSubject, checkAppliesTo, subjectTypes, vpStructureCheck, twoProofSubject]
      at happlies
  · cases (executes_pure_iff.mp h).2
    exact ⟨_, rfl, by decide +kernel⟩
  · cases (executes_pure_iff.mp h).2
    exact ⟨_, rfl, by decide +kernel⟩

/-- The set of a verified and an unsupported proof passes. -/
theorem signature_success_twoProof :
    ∃ (outcome : CheckOutcome) (entries : List EntryDispatch),
      (.ok (.success "Signature verified successfully.") : Except Thrown CheckOutcome) =
        .ok outcome ∧
      entries.map (fun entry => entry.positioned.1) =
        [.obj [("type", .str "A")], .obj [("type", .str "B")]] ∧
      twoProofTrace = entries.flatMap EntryDispatch.trace ∧
      (∀ entry ∈ entries,
        proofDocument (withSingleProof twoProofSubject entry.positioned.1) =
          some (twoProofCredential.set "proof" entry.positioned.1) ∧
        entry.Alone [0] twoProofSubject (proofOptions twoProofContext)) ∧
      (outcome.isSuccess = true ↔
        (∀ entry ∈ entries,
          entry.result.isAccepted = true ∨ isUnsupportedProof entry.result = true) ∧
        ∃ entry ∈ entries,
          entry.result.isAccepted = true ∧ isUnsupportedProof entry.result = false) :=
  @signature_success_iff twoProofPlatform twoProofSubject twoProofContext {} {} _
    twoProofCredential _ twoProofTrace _ .credential passesCore_twoProof rfl (by decide)
    (replay_eq_some_iff.mp rfl)

end VerifierCore
