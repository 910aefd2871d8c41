import VerifierCore.Types

/-!
# Crypto-service dispatch

Presentation proofs, credential proofs and status-list proofs all resolve
through one dispatch over the configured crypto services.  A document with two
or more proofs is verified one proof at a time, on copies that carry a single
entry of its `proof` array.

Main results:

- Theorem {lit}`executes_dispatchProofVerification`: what one dispatch calls and
  answers.
- Theorem {lit}`executes_dispatchProofSetVerification`: a proof set is one
  dispatch for each of its entries.
- Theorem {lit}`combineProofOutcomes_accepted_iff`: the verdict on a set.
- Theorem {lit}`handed_one_proof_iff`: when every document handed to a service
  carries exactly one proof.
-/

namespace VerifierCore

open Foundations Program

/-! ## Proof entries -/

/-- Proof entries of a credential or presentation: its non-null object entries. -/
def proofEntries (doc : Option Json) : List Json :=
  match doc.bind (Json.get? · "proof") with
  | some (.arr items) => items.filter Json.isObjectType
  | some proof => [proof].filter Json.isObjectType
  | none => []

/-- Whether a credential or presentation carries a proof. -/
def documentHasProof (doc : Option Json) : Bool :=
  (proofEntries doc).length > 0

/-- Which of the subject's documents carries the proofs under verification. -/
inductive ProofDocumentKey where
  | verifiablePresentation
  | verifiableCredential
deriving DecidableEq

/-- The document the proofs belong to: the presentation, if there is one. -/
def proofDocumentKey (subject : VerificationSubject) : ProofDocumentKey :=
  if truthy subject.verifiablePresentation then .verifiablePresentation else .verifiableCredential

/-- `subject[key]`. -/
def VerificationSubject.get (subject : VerificationSubject) : ProofDocumentKey → Option Json
  | .verifiablePresentation => subject.verifiablePresentation
  | .verifiableCredential => subject.verifiableCredential

/-- `{ ...subject, [key]: document }`. -/
def VerificationSubject.set (subject : VerificationSubject) (key : ProofDocumentKey)
    (document : Json) : VerificationSubject :=
  match key with
  | .verifiablePresentation => { subject with verifiablePresentation := some document }
  | .verifiableCredential => { subject with verifiableCredential := some document }

/-- The document whose proofs are verified. -/
def proofDocument (subject : VerificationSubject) : Option Json :=
  subject.get (proofDocumentKey subject)

/-! ## One dispatch -/

/-- The first service that can verify the subject, or what `canVerify` threw. -/
def findService (subject : VerificationSubject) : List Nat → Async (Except Thrown (Option Nat))
  | [] => pure (.ok none)
  | service :: rest => do
      let answer ← ask (.canVerify service subject)
      match answer with
      | .error error => pure (.error error)
      | .ok true => pure (.ok (some service))
      | .ok false => findService subject rest

/-- The dispatch result of a caught value. -/
def threwResult (error : Thrown) : CryptoDispatchResult :=
  .threw error
    (errorMessage error "An unexpected error occurred during signature verification.")

/-- The dispatch result of a service's answer. -/
def serviceResult : Except Thrown CryptoResult → CryptoDispatchResult
  | .error error => threwResult error
  | .ok (.verified message) => .verified message
  | .ok (.rejected problems proofVerified) => .rejected problems (proofVerified = some true)

/-- Select the first service that can verify the subject and invoke it. -/
def dispatchProofVerification (services : List Nat) (subject : VerificationSubject)
    (options : CryptoVerifyOptions) : Async CryptoDispatchResult :=
  let presentation := subject.verifiablePresentation
  let credential := subject.verifiableCredential
  if !truthy presentation && !truthy credential then pure .noService
  else do
    let found ← findService subject services
    match found with
    | .error error => pure (threwResult error)
    | .ok none => pure .noService
    | .ok (some service) =>
        if truthy presentation then
          serviceResult <$> ask (.verifyPresentation service (presentation.getD .null) options)
        else serviceResult <$> ask (.verifyCredential service (credential.getD .null) options)

/-! ## Proof sets -/

/-- The problem a proof set's unserviced proof is reported with. -/
def noServiceForProof : ProblemDetail :=
  { type := ProblemTypes.proofUnsupported
    title := "Unsupported Proof"
    detail := "No registered crypto service can verify this proof." }

/-- Whether a proof was not checked at all. -/
def isUnsupportedProof : CryptoDispatchResult → Bool
  | .noService => true
  | .rejected problems _ =>
      problems.length > 0 && problems.all fun p => p.type = ProblemTypes.proofUnsupported
  | _ => false

/-- A rejected or unserviced proof's problems, each naming the proof. -/
def problemsOfProof (outcome : ProofOutcome) : List ProblemDetail :=
  let problems :=
    match outcome.result with
    | .rejected problems _ => problems
    | .noService => [noServiceForProof]
    | _ => []
  problems.map fun problem =>
    { problem with
      detail := s!"Proof {outcome.position} of {outcome.total} ({outcome.label}): " ++
        problem.detail }

/-- How a proof is named in a problem's detail. -/
def proofLabel (proof : Json) : String :=
  let typeName := (asString (proof.get? "type")).getD "unknown proof type"
  match asString (proof.get? "cryptosuite") with
  | some cryptosuite => s!"{typeName}, {cryptosuite}"
  | none => typeName

/-- Neither unsupported nor accepted, but rejected. -/
def isFailingProof (result : CryptoDispatchResult) : Bool :=
  !isUnsupportedProof result &&
    match result with
    | .rejected _ proofVerified => !proofVerified
    | _ => false

/-- Rejected for something else than the proof. -/
def isVerifiedButRejected (result : CryptoDispatchResult) : Bool :=
  !isUnsupportedProof result &&
    match result with
    | .rejected _ proofVerified => proofVerified
    | _ => false

/-- The service threw. -/
def CryptoDispatchResult.isThrew : CryptoDispatchResult → Bool
  | .threw .. => true
  | _ => false

/-- The service verified the proof. -/
def CryptoDispatchResult.isVerified : CryptoDispatchResult → Bool
  | .verified _ => true
  | _ => false

/-- No service takes the proof. -/
def CryptoDispatchResult.isNoService : CryptoDispatchResult → Bool
  | .noService => true
  | _ => false

/-- The verdict on a whole proof set. -/
def combineProofOutcomes (proofs : List ProofOutcome) : CryptoDispatchResult :=
  let unchecked := proofs.filter fun p => isUnsupportedProof p.result
  let verifiedButRejected := proofs.filter fun p => isVerifiedButRejected p.result
  let failing := proofs.filter fun p => isFailingProof p.result
  if failing.length > 0 then .rejected (failing.flatMap problemsOfProof) false
  else
    match proofs.find? fun p => p.result.isThrew with
    | some threw => threw.result
    | none =>
        match verifiedButRejected with
        | first :: _ => first.result
        | [] =>
            match proofs.find? fun p => p.result.isVerified with
            | some verified => verified.result
            | none =>
                if unchecked.all fun p => p.result.isNoService then .noService
                else .rejected (unchecked.flatMap problemsOfProof) false

/-- The entries of a document's `proof` array. -/
def proofSetOf (document : Option Json) : List Json :=
  match document.bind (Json.get? · "proof") with
  | some (.arr items) => items
  | _ => []

/-- The object entries of a proof array, with their 1-based positions. -/
def positionedProofs (proofSet : List Json) : List (Json × Nat) :=
  (proofSet.zipIdx 1).filter fun positioned => positioned.1.isObjectType

/-- The subject whose document carries a single entry of the proof array. -/
def withSingleProof (subject : VerificationSubject) (proof : Json) : VerificationSubject :=
  subject.set (proofDocumentKey subject)
    (((proofDocument subject).getD .null).set "proof" proof)

/-- Dispatch one positioned entry of a proof set. -/
def dispatchPositioned (services : List Nat) (subject : VerificationSubject)
    (options : CryptoVerifyOptions) (total : Nat) (positioned : Json × Nat) :
    Async ProofOutcome := do
  let result ← dispatchProofVerification services (withSingleProof subject positioned.1) options
  pure
    { position := positioned.2
      total := total
      label := proofLabel positioned.1
      result := result }

/-- Verify a document's proofs one at a time.  The entries' dispatches do not
wait for each other in the source; here they run in array order. -/
def dispatchProofSetVerification (services : List Nat) (subject : VerificationSubject)
    (options : CryptoVerifyOptions) : Async ProofSetDispatchResult :=
  let document := proofDocument subject
  let proofSet := proofSetOf document
  let positioned := positionedProofs proofSet
  if !truthy document || positioned.length < 2 then do
    let combined ← dispatchProofVerification services subject options
    pure { combined := combined, proofs := [] }
  else do
    let proofs ← positioned.mapM (dispatchPositioned services subject options proofSet.length)
    pure { combined := combineProofOutcomes proofs, proofs := proofs }

/-! ## Dispatching leaves the cache alone -/

/-- Looking for a service does not use the cache. -/
theorem leavesCache_findService (subject : VerificationSubject) (services : List Nat) :
    (findService subject services).Confined Port.LeavesCache := by
  induction services with
  | nil => exact confined_pure _
  | cons service rest ih =>
      apply Confined.bind (confined_perform trivial)
      intro answer
      split
      · exact confined_pure _
      · exact confined_pure _
      · exact ih

/-- Handing one proof to the services does not use the cache. -/
theorem leavesCache_dispatchProofVerification (services : List Nat)
    (subject : VerificationSubject) (options : CryptoVerifyOptions) :
    (dispatchProofVerification services subject options).Confined Port.LeavesCache := by
  unfold dispatchProofVerification
  dsimp only
  by_cases hcontent : (!truthy subject.verifiablePresentation &&
      !truthy subject.verifiableCredential) = true
  · rw [if_pos hcontent]
    exact confined_pure _
  · rw [if_neg hcontent]
    apply Confined.bind (leavesCache_findService subject services)
    intro found
    split
    · exact confined_pure _
    · exact confined_pure _
    · by_cases hpresentation : truthy subject.verifiablePresentation = true
      · rw [if_pos hpresentation]
        exact (confined_perform trivial).map _
      · rw [if_neg hpresentation]
        exact (confined_perform trivial).map _

/-- Handing a set of proofs to the services does not use the cache. -/
theorem leavesCache_dispatchProofSetVerification (services : List Nat)
    (subject : VerificationSubject) (options : CryptoVerifyOptions) :
    (dispatchProofSetVerification services subject options).Confined Port.LeavesCache := by
  unfold dispatchProofSetVerification
  dsimp only
  split
  · apply Confined.bind (leavesCache_dispatchProofVerification _ _ _)
    intro combined
    exact confined_pure _
  · apply Confined.bind
    · apply confined_mapM
      intro positioned _
      apply Confined.bind (leavesCache_dispatchProofVerification _ _ _)
      intro result
      exact confined_pure _
    · intro proofs
      exact confined_pure _

/-! ## What one dispatch does -/

/-- The document a call hands to a crypto service for verification. -/
def Port.handedDocument : Port → Option Json
  | .verifyCredential _ credential _ => some credential
  | .verifyPresentation _ presentation _ => some presentation
  | _ => none

/-- The call that hands the document under a key to a service. -/
def verifyEvent (key : ProofDocumentKey) (service : Nat) (document : Json)
    (options : CryptoVerifyOptions) (answer : Except Thrown CryptoResult) : PortEvent :=
  match key with
  | .verifiablePresentation => ⟨.verifyPresentation service document options, answer⟩
  | .verifiableCredential => ⟨.verifyCredential service document options, answer⟩

/-- A service is handed the document of the event. -/
@[simp]
theorem handedDocument_verifyEvent (key : ProofDocumentKey) (service : Nat) (document : Json)
    (options : CryptoVerifyOptions) (answer : Except Thrown CryptoResult) :
    (verifyEvent key service document options answer).op.handedDocument = some document := by
  cases key <;> rfl

/-- Only `canVerify` was asked. -/
def Selection (subject : VerificationSubject) (events : List PortEvent) : Prop :=
  ∀ event ∈ events, ∃ service, event.op = .canVerify service subject

/-- While a service is looked for, none is handed a document. -/
theorem Selection.handedDocument_eq_none {subject : VerificationSubject}
    {events : List PortEvent} (h : Selection subject events) :
    ∀ event ∈ events, event.op.handedDocument = none := by
  intro event hevent
  rcases h event hevent with ⟨service, hop⟩
  rw [hop]
  rfl

/-- A search asks the services in turn, and finds one of them. -/
theorem executes_findService {subject : VerificationSubject} {services : List Nat}
    {trace : List PortEvent} {found : Except Thrown (Option Nat)}
    (h : Executes (findService subject services) trace found) :
    Selection subject trace ∧ ∀ service, found = .ok (some service) → service ∈ services := by
  induction services generalizing trace with
  | nil =>
      rcases executes_pure_iff.mp h with ⟨rfl, rfl⟩
      exact ⟨by simp [Selection], by simp⟩
  | cons service rest ih =>
      rcases executes_bind_iff.mp h with ⟨first, second, answer, rfl, hask, hrest⟩
      rw [ask, executes_perform_iff] at hask
      subst hask
      have hfirst : Selection subject [(⟨.canVerify service subject, answer⟩ : PortEvent)] := by
        intro event hevent
        rw [List.mem_singleton.mp hevent]
        exact ⟨service, rfl⟩
      match answer, hrest with
      | .error error, hrest =>
          rcases executes_pure_iff.mp hrest with ⟨rfl, rfl⟩
          exact ⟨by simpa using hfirst, by simp⟩
      | .ok true, hrest =>
          rcases executes_pure_iff.mp hrest with ⟨rfl, rfl⟩
          exact ⟨by simpa using hfirst, by simp⟩
      | .ok false, hrest =>
          rcases ih hrest with ⟨hselection, hmem⟩
          refine ⟨?_, fun s hs => List.mem_cons_of_mem _ (hmem s hs)⟩
          intro event hevent
          rcases List.mem_append.mp hevent with hevent | hevent
          · exact hfirst event hevent
          · exact hselection event hevent

/-- A member is truthy exactly if it is there with a truthy value. -/
theorem truthy_iff {value : Option Json} :
    truthy value = true ↔ ∃ json, value = some json ∧ json.truthy = true := by
  cases value <;> simp [truthy]

/-- One dispatch asks services whether they can verify, then hands the document
to at most one of them. -/
theorem executes_dispatchProofVerification {services : List Nat} {subject : VerificationSubject}
    {options : CryptoVerifyOptions} {trace : List PortEvent} {result : CryptoDispatchResult}
    (h : Executes (dispatchProofVerification services subject options) trace result) :
    (Selection subject trace ∧ (result = .noService ∨ ∃ error, result = threwResult error)) ∨
      ∃ selection service document answer, Selection subject selection ∧ service ∈ services ∧
        proofDocument subject = some document ∧
        trace = selection ++
          [verifyEvent (proofDocumentKey subject) service document options answer] ∧
        result = serviceResult answer := by
  unfold dispatchProofVerification at h
  dsimp only at h
  split at h
  · rcases executes_pure_iff.mp h with ⟨rfl, rfl⟩
    exact .inl ⟨by simp [Selection], .inl rfl⟩
  · rename_i hcontent
    rcases executes_bind_iff.mp h with ⟨selection, rest, found, rfl, hfound, h⟩
    rcases executes_findService hfound with ⟨hselection, hmem⟩
    match found, hmem, h with
    | .error error, _, h =>
        rcases executes_pure_iff.mp h with ⟨rfl, rfl⟩
        exact .inl ⟨by simpa using hselection, .inr ⟨error, rfl⟩⟩
    | .ok none, _, h =>
        rcases executes_pure_iff.mp h with ⟨rfl, rfl⟩
        exact .inl ⟨by simpa using hselection, .inl rfl⟩
    | .ok (some service), hmem, h =>
        right
        dsimp only at h
        split at h
        · rename_i hpresentation
          rcases executes_map_iff.mp h with ⟨answer, hask, rfl⟩
          rw [ask, executes_perform_iff] at hask
          rcases truthy_iff.mp hpresentation with ⟨document, hdocument, _⟩
          have hkey : proofDocumentKey subject = .verifiablePresentation := if_pos hpresentation
          refine ⟨selection, service, document, answer, hselection, hmem service rfl, ?_, ?_, rfl⟩
          · rw [proofDocument, hkey, VerificationSubject.get, hdocument]
          · rw [hask, hkey, verifyEvent, hdocument]
            rfl
        · rename_i hpresentation
          rcases executes_map_iff.mp h with ⟨answer, hask, rfl⟩
          rw [ask, executes_perform_iff] at hask
          have hcredential : truthy subject.verifiableCredential = true := by
            simpa [hpresentation] using hcontent
          rcases truthy_iff.mp hcredential with ⟨document, hdocument, _⟩
          have hkey : proofDocumentKey subject = .verifiableCredential := if_neg hpresentation
          refine ⟨selection, service, document, answer, hselection, hmem service rfl, ?_, ?_, rfl⟩
          · rw [proofDocument, hkey, VerificationSubject.get, hdocument]
          · rw [hask, hkey, verifyEvent, hdocument]
            rfl

/-- The document a dispatch hands over is the one under verification. -/
theorem handed_eq_proofDocument {services : List Nat} {subject : VerificationSubject}
    {options : CryptoVerifyOptions} {trace : List PortEvent} {result : CryptoDispatchResult}
    (h : Executes (dispatchProofVerification services subject options) trace result) :
    ∀ event ∈ trace, ∀ document, event.op.handedDocument = some document →
      proofDocument subject = some document := by
  intro event hevent document hhanded
  rcases executes_dispatchProofVerification h with ⟨hselection, _⟩ |
    ⟨selection, service, handed, answer, hselection, hservice, hdocument, rfl, _⟩
  · rw [hselection.handedDocument_eq_none event hevent] at hhanded
    cases hhanded
  · rcases List.mem_append.mp hevent with hevent | hevent
    · rw [hselection.handedDocument_eq_none event hevent] at hhanded
      cases hhanded
    · rw [List.mem_singleton.mp hevent, handedDocument_verifyEvent] at hhanded
      exact hhanded ▸ hdocument

/-- Without services nothing is handed over. -/
theorem services_ne_nil_of_handed {services : List Nat} {subject : VerificationSubject}
    {options : CryptoVerifyOptions} {trace : List PortEvent} {result : CryptoDispatchResult}
    (h : Executes (dispatchProofVerification services subject options) trace result)
    {event : PortEvent} (hevent : event ∈ trace) {document : Json}
    (hhanded : event.op.handedDocument = some document) : services ≠ [] := by
  rcases executes_dispatchProofVerification h with ⟨hselection, _⟩ |
    ⟨_, service, _, _, _, hservice, _⟩
  · rw [hselection.handedDocument_eq_none event hevent] at hhanded
    cases hhanded
  · exact List.ne_nil_of_mem hservice

/-! ## What a proof set does -/

/-- The outcome of one positioned entry. -/
def positionedOutcome (total : Nat) (positioned : Json × Nat) (result : CryptoDispatchResult) :
    ProofOutcome :=
  { position := positioned.2
    total := total
    label := proofLabel positioned.1
    result := result }

/-- The dispatch of one positioned entry of a proof set, as it was executed. -/
structure EntryDispatch where
  positioned : Json × Nat
  trace : List PortEvent
  result : CryptoDispatchResult

/-- The entry was dispatched alone. -/
def EntryDispatch.Alone (entry : EntryDispatch) (services : List Nat)
    (subject : VerificationSubject) (options : CryptoVerifyOptions) : Prop :=
  Executes (dispatchProofVerification services (withSingleProof subject entry.positioned.1)
    options) entry.trace entry.result

/-- A proof set is verified by one dispatch for each of its object entries. -/
theorem executes_dispatchProofSetVerification {services : List Nat}
    {subject : VerificationSubject} {options : CryptoVerifyOptions} {trace : List PortEvent}
    {result : ProofSetDispatchResult} (hdocument : truthy (proofDocument subject) = true)
    (htwo : 2 ≤ (positionedProofs (proofSetOf (proofDocument subject))).length) :
    Executes (dispatchProofSetVerification services subject options) trace result ↔
      ∃ entries : List EntryDispatch,
        entries.map EntryDispatch.positioned =
          positionedProofs (proofSetOf (proofDocument subject)) ∧
        trace = entries.flatMap EntryDispatch.trace ∧
        (∀ entry ∈ entries, entry.Alone services subject options) ∧
        result.proofs = entries.map (fun entry => positionedOutcome
          (proofSetOf (proofDocument subject)).length entry.positioned entry.result) ∧
        result.combined = combineProofOutcomes result.proofs := by
  have hset : ¬((!truthy (proofDocument subject) ||
      decide ((positionedProofs (proofSetOf (proofDocument subject))).length < 2)) = true) := by
    simp [hdocument]
    omega
  unfold dispatchProofSetVerification
  dsimp only
  rw [if_neg hset]
  simp only [executes_bind_iff, executes_pure_iff, executes_mapM_iff]
  constructor
  · intro h
    rcases h with ⟨_, _, proofs, rfl, ⟨runs, hruns, rfl, rfl, hall⟩, rfl, rfl⟩
    refine ⟨runs.map fun run => ⟨run.1, run.2.1, run.2.2.result⟩, ?_, ?_, ?_, ?_, rfl⟩
    · rw [← hruns, List.map_map]
      rfl
    · simp [List.flatMap_map]
    · intro entry hentry
      rcases List.mem_map.mp hentry with ⟨run, hrun, rfl⟩
      rcases executes_bind_iff.mp (hall run hrun) with ⟨first, _, answer, htrace, hdispatch, hpure⟩
      rcases executes_pure_iff.mp hpure with ⟨rfl, houtcome⟩
      rw [List.append_nil] at htrace
      simpa [EntryDispatch.Alone, htrace, houtcome] using hdispatch
    · rw [List.map_map]
      apply List.map_congr_left
      intro run hrun
      rcases executes_bind_iff.mp (hall run hrun) with ⟨_, _, answer, _, _, hpure⟩
      rcases executes_pure_iff.mp hpure with ⟨_, houtcome⟩
      simp [positionedOutcome, houtcome]
  · intro h
    rcases h with ⟨entries, hentries, rfl, hall, hproofs, hcombined⟩
    refine ⟨entries.flatMap EntryDispatch.trace, [], result.proofs, by simp, ?_, rfl, ?_⟩
    · refine ⟨entries.map fun entry => (entry.positioned, entry.trace,
        positionedOutcome (proofSetOf (proofDocument subject)).length entry.positioned
          entry.result), ?_, ?_, ?_, ?_⟩
      · rw [← hentries, List.map_map]
        rfl
      · simp [List.flatMap_map]
      · rw [hproofs, List.map_map]
        rfl
      · intro run hrun
        rcases List.mem_map.mp hrun with ⟨entry, hentry, rfl⟩
        refine executes_bind_iff.mpr ⟨entry.trace, [], entry.result, by simp, hall entry hentry, ?_⟩
        exact executes_pure_iff.mpr ⟨rfl, rfl⟩
    · rw [← hcombined]

/-- A document with fewer than two object entries is dispatched whole. -/
theorem executes_dispatchProofSetVerification_single {services : List Nat}
    {subject : VerificationSubject} {options : CryptoVerifyOptions} {trace : List PortEvent}
    {result : ProofSetDispatchResult}
    (hsingle : ¬(truthy (proofDocument subject) = true ∧
      2 ≤ (positionedProofs (proofSetOf (proofDocument subject))).length))
    (h : Executes (dispatchProofSetVerification services subject options) trace result) :
    Executes (dispatchProofVerification services subject options) trace result.combined ∧
      result.proofs = [] := by
  have hset : (!truthy (proofDocument subject) ||
      decide ((positionedProofs (proofSetOf (proofDocument subject))).length < 2)) = true := by
    cases hdocument : truthy (proofDocument subject) with
    | false => rfl
    | true =>
        have hshort := not_and.mp hsingle hdocument
        simp
        omega
  unfold dispatchProofSetVerification at h
  dsimp only at h
  rw [if_pos hset] at h
  rcases executes_bind_iff.mp h with ⟨first, second, combined, rfl, hdispatch, hpure⟩
  rcases executes_pure_iff.mp hpure with ⟨rfl, rfl⟩
  exact ⟨by simpa using hdispatch, rfl⟩

/-! ## The verdict on a set -/

/-- Verified, or rejected for something else than the proof. -/
def CryptoDispatchResult.isAccepted : CryptoDispatchResult → Bool
  | .verified _ => true
  | .rejected _ proofVerified => proofVerified
  | _ => false

/-- Every result is of one of five kinds. -/
theorem CryptoDispatchResult.kinds (result : CryptoDispatchResult) :
    isUnsupportedProof result = true ∨
      isUnsupportedProof result = false ∧
        ((isFailingProof result = true ∧ result.isAccepted = false) ∨
          (result.isThrew = true ∧ result.isAccepted = false) ∨
          (isVerifiedButRejected result = true ∧ result.isAccepted = true) ∨
          (result.isVerified = true ∧ result.isAccepted = true)) := by
  cases hunsupported : isUnsupportedProof result with
  | true => exact .inl rfl
  | false =>
      right
      refine ⟨rfl, ?_⟩
      cases result with
      | verified message => simp [isVerified, isAccepted]
      | rejected problems proofVerified =>
          cases proofVerified <;>
            simp [isFailingProof, isVerifiedButRejected, hunsupported, isAccepted]
      | noService => simp [isUnsupportedProof] at hunsupported
      | threw error message => simp [isThrew, isAccepted]

/-- A service that threw accepted nothing. -/
theorem CryptoDispatchResult.isAccepted_of_isThrew {result : CryptoDispatchResult}
    (h : result.isThrew = true) : result.isAccepted = false ∧ isUnsupportedProof result = false := by
  cases result <;> simp_all [isThrew, isAccepted, isUnsupportedProof]

/-- What a service verified is accepted. -/
theorem CryptoDispatchResult.isAccepted_of_isVerified {result : CryptoDispatchResult}
    (h : result.isVerified = true) : result.isAccepted = true ∧ isUnsupportedProof result = false := by
  cases result <;> simp_all [isVerified, isAccepted, isUnsupportedProof]

/-- A failing proof is neither accepted nor unsupported. -/
theorem isAccepted_of_isFailingProof {result : CryptoDispatchResult}
    (h : isFailingProof result = true) :
    result.isAccepted = false ∧ isUnsupportedProof result = false := by
  simp only [isFailingProof, Bool.and_eq_true, Bool.not_eq_true'] at h
  refine ⟨?_, h.1⟩
  cases result with
  | rejected problems proofVerified => simpa [CryptoDispatchResult.isAccepted] using h.2
  | verified | noService | threw => simp at h

/-- A rejection behind a verified proof counts as accepted. -/
theorem isAccepted_of_isVerifiedButRejected {result : CryptoDispatchResult}
    (h : isVerifiedButRejected result = true) :
    result.isAccepted = true ∧ isUnsupportedProof result = false := by
  simp only [isVerifiedButRejected, Bool.and_eq_true, Bool.not_eq_true'] at h
  refine ⟨?_, h.1⟩
  cases result with
  | rejected problems proofVerified => simpa [CryptoDispatchResult.isAccepted] using h.2
  | verified | noService | threw => simp at h

/-! ### The kind of a verdict -/

/-- What kind a dispatch result is, with its `proofVerified` flag. -/
inductive DispatchKind where
  | verified
  | rejected (proofVerified : Bool)
  | noService
  | threw
deriving DecidableEq

/-- The kind of a result, without its texts. -/
def CryptoDispatchResult.kind : CryptoDispatchResult → DispatchKind
  | .verified _ => .verified
  | .rejected _ proofVerified => .rejected proofVerified
  | .noService => .noService
  | .threw .. => .threw

/-- The kind of the verdict on results, in the order of precedence. -/
def combinedKind (results : List CryptoDispatchResult) : DispatchKind :=
  if results.any isFailingProof then .rejected false
  else if results.any CryptoDispatchResult.isThrew then .threw
  else if results.any isVerifiedButRejected then .rejected true
  else if results.any CryptoDispatchResult.isVerified then .verified
  else if (results.filter isUnsupportedProof).all CryptoDispatchResult.isNoService then .noService
  else .rejected false

/-- A service that threw has a kind of its own. -/
theorem CryptoDispatchResult.kind_of_isThrew {result : CryptoDispatchResult}
    (h : result.isThrew = true) : result.kind = .threw := by
  cases result with
  | threw => rfl
  | verified | rejected | noService => cases h

/-- A verdict that verified its proof is of the verified kind. -/
theorem CryptoDispatchResult.kind_of_isVerified {result : CryptoDispatchResult}
    (h : result.isVerified = true) : result.kind = .verified := by
  cases result with
  | verified => rfl
  | threw | rejected | noService => cases h

/-- A verdict that rejected the document behind a verified proof is of the rejected kind. -/
theorem kind_of_isVerifiedButRejected {result : CryptoDispatchResult}
    (h : isVerifiedButRejected result = true) : result.kind = .rejected true := by
  simp only [isVerifiedButRejected, Bool.and_eq_true] at h
  cases result with
  | rejected problems proofVerified =>
      have hverified : proofVerified = true := h.2
      rw [CryptoDispatchResult.kind, hverified]
  | verified | threw | noService => simp at h

/-- The kind of the combined verdict depends on the results alone. -/
theorem kind_combineProofOutcomes (proofs : List ProofOutcome) :
    (combineProofOutcomes proofs).kind = combinedKind (proofs.map ProofOutcome.result) := by
  have hany (p : CryptoDispatchResult → Bool) :
      (proofs.map ProofOutcome.result).any p = proofs.any fun proof => p proof.result :=
    List.any_map
  unfold combineProofOutcomes combinedKind
  simp only [hany, List.filter_map, List.all_map, Function.comp_def]
  by_cases hfailing : proofs.any (fun proof => isFailingProof proof.result) = true
  · have hlength : (proofs.filter fun proof => isFailingProof proof.result).length > 0 :=
      List.length_filter_pos_iff.mpr (List.any_eq_true.mp hfailing)
    rw [if_pos hfailing, if_pos hlength]
    rfl
  · have hlength : ¬(proofs.filter fun proof => isFailingProof proof.result).length > 0 := by
      rw [gt_iff_lt, List.length_filter_pos_iff, ← List.any_eq_true]
      exact hfailing
    rw [if_neg hfailing, if_neg hlength]
    cases hthrew : proofs.find? fun proof => proof.result.isThrew with
    | some threw =>
        have hkind : threw.result.isThrew = true := by simpa using List.find?_some hthrew
        rw [if_pos (List.any_eq_true.mpr ⟨threw, List.mem_of_find?_eq_some hthrew, hkind⟩)]
        exact CryptoDispatchResult.kind_of_isThrew hkind
    | none =>
        have hnone : ¬proofs.any (fun proof => proof.result.isThrew) = true := by
          simpa using hthrew
        rw [if_neg hnone]
        dsimp only
        cases hrejected : proofs.filter fun proof => isVerifiedButRejected proof.result with
        | cons first rest =>
            have hfirst : first ∈ proofs.filter fun proof => isVerifiedButRejected proof.result := by
              rw [hrejected]
              exact List.mem_cons_self
            rcases List.mem_filter.mp hfirst with ⟨hmem, hkind⟩
            rw [if_pos (List.any_eq_true.mpr ⟨first, hmem, hkind⟩)]
            exact kind_of_isVerifiedButRejected hkind
        | nil =>
            have hnorejected : ¬proofs.any (fun proof => isVerifiedButRejected proof.result) =
                true := by
              simpa using hrejected
            rw [if_neg hnorejected]
            dsimp only
            cases hverified : proofs.find? fun proof => proof.result.isVerified with
            | some verified =>
                have hkind : verified.result.isVerified = true := by
                  simpa using List.find?_some hverified
                rw [if_pos (List.any_eq_true.mpr
                  ⟨verified, List.mem_of_find?_eq_some hverified, hkind⟩)]
                exact CryptoDispatchResult.kind_of_isVerified hkind
            | none =>
                have hnoverified : ¬proofs.any (fun proof => proof.result.isVerified) = true := by
                  simpa using hverified
                rw [if_neg hnoverified]
                dsimp only
                split_ifs
                · rfl
                · rfl

/-- The order of the results plays no part in the kind of the verdict. -/
theorem combinedKind_perm {results results' : List CryptoDispatchResult}
    (h : results.Perm results') : combinedKind results = combinedKind results' := by
  simp only [combinedKind, h.any_eq, (h.filter isUnsupportedProof).all_eq]

/-- The kind of a result decides whether it is accepted. -/
theorem CryptoDispatchResult.isAccepted_iff_kind {result : CryptoDispatchResult} :
    result.isAccepted = true ↔ result.kind = .verified ∨ result.kind = .rejected true := by
  cases result <;> simp [isAccepted, kind]

/-- A proof set is accepted exactly when each of its proofs is accepted or could
not be checked, and one of those that could be checked is accepted. -/
theorem combineProofOutcomes_accepted_iff (proofs : List ProofOutcome) :
    (combineProofOutcomes proofs).isAccepted = true ↔
      (∀ p ∈ proofs, p.result.isAccepted = true ∨ isUnsupportedProof p.result = true) ∧
        ∃ p ∈ proofs, p.result.isAccepted = true ∧ isUnsupportedProof p.result = false := by
  have hsome {p : CryptoDispatchResult → Bool}
      (hany : (proofs.map ProofOutcome.result).any p = true) :
      ∃ proof ∈ proofs, p proof.result = true := by
    simpa using hany
  have hnone {p : CryptoDispatchResult → Bool}
      (hany : ¬(proofs.map ProofOutcome.result).any p = true) :
      ∀ proof ∈ proofs, p proof.result = false := by
    simpa using hany
  rw [CryptoDispatchResult.isAccepted_iff_kind, kind_combineProofOutcomes, combinedKind]
  by_cases hfailing : (proofs.map ProofOutcome.result).any isFailingProof = true
  · rcases hsome hfailing with ⟨p, hp, hkind⟩
    rw [if_pos hfailing]
    refine iff_of_false (by simp) fun h => ?_
    have hrefused := h.1 p hp
    simp [isAccepted_of_isFailingProof hkind] at hrefused
  rw [if_neg hfailing]
  by_cases hthrew : (proofs.map ProofOutcome.result).any CryptoDispatchResult.isThrew = true
  · rcases hsome hthrew with ⟨p, hp, hkind⟩
    rw [if_pos hthrew]
    refine iff_of_false (by simp) fun h => ?_
    have hrefused := h.1 p hp
    simp [CryptoDispatchResult.isAccepted_of_isThrew hkind] at hrefused
  rw [if_neg hthrew]
  -- What is left is unsupported or accepted.
  have hrest : ∀ p ∈ proofs, p.result.isAccepted = true ∨ isUnsupportedProof p.result = true := by
    intro p hp
    rcases p.result.kinds with hkind | ⟨_, hkind | hkind | hkind | hkind⟩
    · exact .inr hkind
    · simp [hnone hfailing p hp] at hkind
    · simp [hnone hthrew p hp] at hkind
    · exact .inl hkind.2
    · exact .inl hkind.2
  split_ifs with hrejected hverified hnoService
  · rcases hsome hrejected with ⟨p, hp, hkind⟩
    exact iff_of_true (.inr rfl) ⟨hrest, p, hp, isAccepted_of_isVerifiedButRejected hkind⟩
  · rcases hsome hverified with ⟨p, hp, hkind⟩
    exact iff_of_true (.inl rfl)
      ⟨hrest, p, hp, CryptoDispatchResult.isAccepted_of_isVerified hkind⟩
  all_goals
    refine iff_of_false (by simp) ?_
    rintro ⟨_, p, hp, haccepted, hsupported⟩
    rcases p.result.kinds with hkind | ⟨_, hkind | hkind | hkind | hkind⟩
    · simp [hsupported] at hkind
    · simp [haccepted] at hkind
    · simp [haccepted] at hkind
    · simp [hnone hrejected p hp] at hkind
    · simp [hnone hverified p hp] at hkind

/-! ## One proof at a time -/

/-- The positioned proofs are the objects of the set, in its order. -/
theorem map_fst_positionedProofs (proofSet : List Json) :
    (positionedProofs proofSet).map Prod.fst = proofSet.filter Json.isObjectType := by
  have h := List.filter_map (f := Prod.fst) (p := Json.isObjectType) (l := proofSet.zipIdx 1)
  rw [List.zipIdx_map_fst] at h
  exact h.symm

/-- A proof of the set has a position exactly if it is an object. -/
theorem mem_positionedProofs {proofSet : List Json} {proof : Json} :
    (∃ position, (proof, position) ∈ positionedProofs proofSet) ↔
      proof ∈ proofSet ∧ proof.isObjectType = true := by
  rw [← List.mem_filter, ← map_fst_positionedProofs]
  simp

/-- Replacing the document of a key with an object keeps the key. -/
theorem proofDocument_withSingleProof (subject : VerificationSubject) (proof : Json) :
    proofDocument (withSingleProof subject proof) =
      some (((proofDocument subject).getD .null).set "proof" proof) := by
  have hobject : ∀ document : Json, truthy (some (document.set "proof" proof)) = true := by
    intro document
    cases document <;> rfl
  unfold withSingleProof proofDocument
  cases hkey : proofDocumentKey subject with
  | verifiablePresentation =>
      simp [VerificationSubject.set, proofDocumentKey, hobject, VerificationSubject.get]
  | verifiableCredential =>
      have hpresentation : ¬truthy subject.verifiablePresentation = true := by
        intro htruthy
        rw [proofDocumentKey, if_pos htruthy] at hkey
        cases hkey
      simp [VerificationSubject.set, proofDocumentKey, hpresentation, VerificationSubject.get]

/-- The entries of a document that carries a single entry of a proof array. -/
theorem proofEntries_set (document proof : Json) (hproof : proof.isObjectType = true) :
    proofEntries (some (document.set "proof" proof)) =
      match proof with
      | .arr items => items.filter Json.isObjectType
      | proof => [proof] := by
  unfold proofEntries
  rw [Option.bind_some, Json.get?_set_self]
  cases proof with
  | arr items => rfl
  | obj members => rfl
  | null | bool | num | str => simp [Json.isObjectType] at hproof

/-- The first service, once it says it can verify, is handed the document. -/
theorem executes_first_service {service : Nat} {rest : List Nat} {subject : VerificationSubject}
    {options : CryptoVerifyOptions} {document : Json}
    (hdocument : proofDocument subject = some document) (htruthy : document.truthy = true)
    (answer : Except Thrown CryptoResult) :
    Executes (dispatchProofVerification (service :: rest) subject options)
      [⟨.canVerify service subject, .ok true⟩,
        verifyEvent (proofDocumentKey subject) service document options answer]
      (serviceResult answer) := by
  unfold dispatchProofVerification
  dsimp only
  cases hpresentation : truthy subject.verifiablePresentation with
  | true =>
      have hkey : proofDocumentKey subject = .verifiablePresentation := if_pos hpresentation
      rw [proofDocument, hkey, VerificationSubject.get] at hdocument
      rw [hkey, hdocument]
      exact .call (.call (.done _))
  | false =>
      have hkey : proofDocumentKey subject = .verifiableCredential := by
        simp [proofDocumentKey, hpresentation]
      rw [proofDocument, hkey, VerificationSubject.get] at hdocument
      have hcredential : truthy subject.verifiableCredential = true := by
        simp [hdocument, truthy, htruthy]
      rw [hkey, hcredential, hdocument]
      exact .call (.call (.done _))

/-- An object entry of a proof array is handed over alone unless it is an array
that does not hold exactly one object entry. -/
def SingleEntry (proof : Json) : Prop :=
  ∀ items, proof = .arr items → (items.filter Json.isObjectType).length = 1

/-- What is no single entry is an object. -/
theorem isObjectType_of_not_singleEntry {proof : Json} (h : ¬SingleEntry proof) :
    proof.isObjectType = true := by
  cases proof with
  | arr | obj => rfl
  | null | bool | num | str => exact absurd (by simp [SingleEntry]) h

/-- A proof set by itself is one entry exactly if it is a single one. -/
theorem length_proofEntries_set_eq_one_iff (document proof : Json)
    (hproof : proof.isObjectType = true) :
    (proofEntries (some (document.set "proof" proof))).length = 1 ↔ SingleEntry proof := by
  rw [proofEntries_set document proof hproof]
  cases proof with
  | arr items => simp [SingleEntry]
  | obj members => simp [SingleEntry]
  | null | bool | num | str => simp [Json.isObjectType] at hproof

/-- Every document handed to a service for a proof set carries exactly one proof,
in every run, exactly when there is no service or no entry of the set is an
array holding none or several object entries. -/
theorem handed_one_proof_iff {services : List Nat} {subject : VerificationSubject}
    {options : CryptoVerifyOptions} {document : Json} {proofSet : List Json}
    (hdocument : proofDocument subject = some document)
    (hproof : document.get? "proof" = some (.arr proofSet))
    (htwo : 2 ≤ (proofSet.filter Json.isObjectType).length) :
    (∀ trace result, Executes (dispatchProofSetVerification services subject options) trace result →
      ∀ event ∈ trace, ∀ handed, event.op.handedDocument = some handed →
        (proofEntries (some handed)).length = 1) ↔
      services = [] ∨ ∀ proof ∈ proofSet, SingleEntry proof := by
  have hset : proofSetOf (proofDocument subject) = proofSet := by
    simp [proofSetOf, hdocument, hproof]
  have htruthy : document.truthy = true := by
    cases document <;> simp_all [Json.get?, Json.truthy]
  have hlength : 2 ≤ (positionedProofs (proofSetOf (proofDocument subject))).length := by
    rw [hset, ← List.length_map (f := Prod.fst), map_fst_positionedProofs]
    exact htwo
  have hdocTruthy : truthy (proofDocument subject) = true := by
    simp [hdocument, truthy, htruthy]
  have hexec {trace : List PortEvent} {result : ProofSetDispatchResult} :=
    @executes_dispatchProofSetVerification services subject options trace result hdocTruthy hlength
  have hcopy : ∀ proof, proofDocument (withSingleProof subject proof) =
      some (document.set "proof" proof) := by
    intro proof
    rw [proofDocument_withSingleProof, hdocument, Option.getD_some]
  constructor
  · intro hall
    by_contra hnot
    rcases not_or.mp hnot with ⟨hservices, hbad⟩
    push Not at hbad
    rcases hbad with ⟨proof, hproofMem, hnotSingle⟩
    have hobject := isObjectType_of_not_singleEntry hnotSingle
    rcases List.exists_cons_of_ne_nil hservices with ⟨service, rest, rfl⟩
    -- Every entry is taken and verified by the first service.
    let handedOver (positioned : Json × Nat) : EntryDispatch :=
      { positioned := positioned
        trace := [⟨.canVerify service (withSingleProof subject positioned.1), .ok true⟩,
          verifyEvent (proofDocumentKey (withSingleProof subject positioned.1)) service
            (document.set "proof" positioned.1) options (.ok (.verified none))]
        result := serviceResult (.ok (.verified none)) }
    let entries := (positionedProofs (proofSetOf (proofDocument subject))).map handedOver
    have halone : ∀ entry ∈ entries, entry.Alone (service :: rest) subject options := by
      intro entry hentry
      rcases List.mem_map.mp hentry with ⟨positioned, _, rfl⟩
      have hsetTruthy : (document.set "proof" positioned.1).truthy = true := by
        cases document <;> rfl
      exact executes_first_service (hcopy positioned.1) hsetTruthy _
    let proofs := entries.map fun entry => positionedOutcome
      (proofSetOf (proofDocument subject)).length entry.positioned entry.result
    have hrun : Executes (dispatchProofSetVerification (service :: rest) subject options)
        (entries.flatMap EntryDispatch.trace)
        { combined := combineProofOutcomes proofs, proofs := proofs } :=
      hexec.mpr ⟨entries, by simp [entries, handedOver, Function.comp_def], rfl, halone, rfl, rfl⟩
    rcases mem_positionedProofs.mpr ⟨hproofMem, hobject⟩ with ⟨position, hpositioned⟩
    have hentry : handedOver (proof, position) ∈ entries := by
      apply List.mem_map_of_mem
      rwa [hset]
    have hone := hall _ _ hrun
      (verifyEvent (proofDocumentKey (withSingleProof subject proof)) service
        (document.set "proof" proof) options (.ok (.verified none)))
      (List.mem_flatMap.mpr ⟨_, hentry, by simp [handedOver]⟩) _ (handedDocument_verifyEvent ..)
    exact hnotSingle ((length_proofEntries_set_eq_one_iff document proof hobject).mp hone)
  · intro hcondition trace result h event hevent handed hhanded
    rcases hexec.mp h with ⟨entries, hentries, rfl, halone, _, _⟩
    rcases List.mem_flatMap.mp hevent with ⟨entry, hentry, hmem⟩
    have hentryExec := halone entry hentry
    have hhandedEq := handed_eq_proofDocument hentryExec event hmem handed hhanded
    rw [hcopy, Option.some.injEq] at hhandedEq
    have hpositioned : entry.positioned ∈ positionedProofs proofSet := by
      rw [← hset, ← hentries]
      exact List.mem_map_of_mem hentry
    have hobject := mem_positionedProofs.mp ⟨entry.positioned.2, hpositioned⟩
    rw [← hhandedEq, length_proofEntries_set_eq_one_iff document _ hobject.2]
    rcases hcondition with rfl | hsingle
    · exact absurd rfl (services_ne_nil_of_handed hentryExec hmem hhanded)
    · exact hsingle _ hobject.1

/-- A status list credential whose proof array holds two proofs and, nested,
two more. -/
def nestedProofDocument : Json :=
  .obj [("proof", .arr [.obj [("type", .str "A")], .obj [("type", .str "B")],
    .arr [.obj [("type", .str "C")], .obj [("type", .str "D")]]])]

/-- The subject the status list hook dispatches for it. -/
def nestedProofSubject : VerificationSubject :=
  { verifiableCredential := some nestedProofDocument }

/-- The copy of the document handed over for one entry. -/
def nestedProofCopy (proof : Json) : Json :=
  .obj [("proof", proof)]

/-- The calls of a run in which the first service takes and verifies each
entry. -/
def nestedProofTrace : List PortEvent :=
  [.obj [("type", .str "A")], .obj [("type", .str "B")],
    .arr [.obj [("type", .str "C")], .obj [("type", .str "D")]]].flatMap fun proof =>
      [⟨.canVerify 0 { verifiableCredential := some (nestedProofCopy proof) }, .ok true⟩,
        ⟨.verifyCredential 0 (nestedProofCopy proof) {}, .ok (.verified none)⟩]

/-- A nested array reaches the service as a document with two proofs. -/
theorem nested_proofs_handed_together :
    proofDocument nestedProofSubject = some nestedProofDocument ∧
    (∃ proofSet, nestedProofDocument.get? "proof" = some (.arr proofSet) ∧
      2 ≤ (proofSet.filter Json.isObjectType).length) ∧
    ∃ result, Executes (dispatchProofSetVerification [0] nestedProofSubject {}) nestedProofTrace
      result ∧
    ∃ event ∈ nestedProofTrace, ∃ handed, event.op.handedDocument = some handed ∧
      (proofEntries (some handed)).length = 2 := by
  refine ⟨rfl, ⟨_, rfl, by decide⟩, ?_⟩
  refine ⟨_, replay_eq_some_iff.mp rfl, ?_⟩
  refine ⟨⟨.verifyCredential 0 (nestedProofCopy (.arr [.obj [("type", .str "C")],
    .obj [("type", .str "D")]])) {}, .ok (.verified none)⟩, ?_, _, rfl, by decide⟩
  simp [nestedProofTrace]

/-- A flat set of two proofs is handed over one proof at a time. -/
theorem flat_proofs_handed_alone :
    (∀ trace result,
      Executes (dispatchProofSetVerification [0]
        { verifiableCredential := some (.obj [("proof", .arr [.obj [], .obj []])]) } {})
        trace result →
      ∀ event ∈ trace, ∀ handed, event.op.handedDocument = some handed →
        (proofEntries (some handed)).length = 1) ↔
      [0] = ([] : List Nat) ∨ ∀ proof ∈ [Json.obj [], Json.obj []], SingleEntry proof :=
  @handed_one_proof_iff [0] { verifiableCredential := some (.obj [("proof", .arr [.obj [], .obj []])]) }
    {} (.obj [("proof", .arr [.obj [], .obj []])]) [.obj [], .obj []] rfl rfl (by decide)

end VerifierCore
