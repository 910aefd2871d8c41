import VerifierCore.Suites.Proof

/-!
# The verdict on a proof set

Two checks read the verdicts on the proofs of a set: the signature check the
combined one, the check behind it the proofs that no service could check.  Between
them the two checks account for every proof once.

Main results:

- Theorem {lit}`problems_of_combineProofOutcomes`: the problems of a rejection.
- Theorem {lit}`proofSets_accountedFor`: the verdict is the same in any order, a
  rejection carries the problems of the proofs it is about, and every proof of a set
  that passes is vouched for or reported.
-/

namespace VerifierCore

open Foundations Program

/-! ## The problems of a rejection -/

/-- A proof that does not fail and was not vouched for, and on which no service threw, could
not be checked. -/
theorem isUnsupportedProof_of_nothing_else {result : CryptoDispatchResult}
    (hfailing : isFailingProof result = false) (hthrew : result.isThrew = false)
    (hrejected : isVerifiedButRejected result = false) (hverified : result.isVerified = false) :
    isUnsupportedProof result = true := by
  rcases result.kinds with hkind | ⟨_, hkind | hkind | hkind | hkind⟩
  · exact hkind
  · simp [hfailing] at hkind
  · simp [hthrew] at hkind
  · simp [hrejected] at hkind
  · simp [hverified] at hkind

/-- Where some proof fails, a rejection carries the problems of the failing ones. -/
theorem problems_of_failing {proofs : List ProofOutcome} {problems : List ProblemDetail}
    (hfailing : ∃ proof ∈ proofs, isFailingProof proof.result = true)
    (h : combineProofOutcomes proofs = .rejected problems false) :
    problems = (proofs.filter fun proof => isFailingProof proof.result).flatMap
      problemsOfProof := by
  have hlength : (proofs.filter fun proof => isFailingProof proof.result).length > 0 :=
    List.length_filter_pos_iff.mpr hfailing
  unfold combineProofOutcomes at h
  dsimp only at h
  rw [if_pos hlength] at h
  exact (CryptoDispatchResult.rejected.inj h).1.symm

/-- Where no proof fails, a rejection for the proofs carries the problems of all of them,
and none could be checked. -/
theorem problems_of_no_failing {proofs : List ProofOutcome} {problems : List ProblemDetail}
    (hfailing : ∀ proof ∈ proofs, isFailingProof proof.result = false)
    (h : combineProofOutcomes proofs = .rejected problems false) :
    (∀ proof ∈ proofs, isUnsupportedProof proof.result = true) ∧
      problems = proofs.flatMap problemsOfProof := by
  have hkind := kind_combineProofOutcomes proofs
  rw [h, CryptoDispatchResult.kind] at hkind
  have hnone {p : CryptoDispatchResult → Bool}
      (hany : ¬(proofs.map ProofOutcome.result).any p = true) :
      ∀ proof ∈ proofs, p proof.result = false := by
    simpa using hany
  have hnoneFailing : ¬(proofs.map ProofOutcome.result).any isFailingProof = true := by
    simpa using hfailing
  unfold combinedKind at hkind
  rw [if_neg hnoneFailing] at hkind
  -- Any other kind of verdict has a proof of that kind.
  split_ifs at hkind with hthrew hrejected hverified hnoService
  · cases hkind
  · have hall : ∀ proof ∈ proofs, isUnsupportedProof proof.result = true :=
      fun proof hproof => isUnsupportedProof_of_nothing_else (hfailing proof hproof)
        (hnone hthrew proof hproof) (hnone hrejected proof hproof) (hnone hverified proof hproof)
    refine ⟨hall, ?_⟩
    have hfilterFailing : proofs.filter (fun proof => isFailingProof proof.result) = [] := by
      simpa using hfailing
    have hfindThrew : proofs.find? (fun proof => proof.result.isThrew) = none := by
      simpa using hnone hthrew
    have hfilterRejected :
        proofs.filter (fun proof => isVerifiedButRejected proof.result) = [] := by
      simpa using hnone hrejected
    have hfindVerified : proofs.find? (fun proof => proof.result.isVerified) = none := by
      simpa using hnone hverified
    have hunchecked : proofs.filter (fun proof => isUnsupportedProof proof.result) = proofs :=
      List.filter_eq_self.mpr hall
    simp only [combineProofOutcomes, hfilterFailing, hfindThrew, hfilterRejected, hfindVerified,
      hunchecked, List.length_nil, gt_iff_lt, lt_irrefl, if_false] at h
    split_ifs at h
    exact (CryptoDispatchResult.rejected.inj h).1.symm

/-- A rejection for the proofs carries the problems of the failing ones, or, where none
could be checked, of all. -/
theorem problems_of_combineProofOutcomes {proofs : List ProofOutcome}
    {problems : List ProblemDetail}
    (h : combineProofOutcomes proofs = .rejected problems false) :
    ((∃ proof ∈ proofs, isFailingProof proof.result = true) ∧
      problems = (proofs.filter fun proof => isFailingProof proof.result).flatMap
        problemsOfProof) ∨
    ((∀ proof ∈ proofs, isUnsupportedProof proof.result = true) ∧
      problems = proofs.flatMap problemsOfProof) := by
  by_cases hfailing : ∃ proof ∈ proofs, isFailingProof proof.result = true
  · exact .inl ⟨hfailing, problems_of_failing hfailing h⟩
  · right
    apply problems_of_no_failing _ h
    simpa using hfailing

/-! ## Vouched for or reported -/

/-- A proof that could not be checked has a problem, and each of its problems names its
position. -/
theorem problemsOfProof_of_isUnsupportedProof {proof : ProofOutcome}
    (h : isUnsupportedProof proof.result = true) : problemsOfProof proof ≠ [] := by
  cases hresult : proof.result with
  | verified | threw => simp [hresult, isUnsupportedProof] at h
  | noService => simp [problemsOfProof, hresult]
  | rejected problems proofVerified =>
      cases problems with
      | nil => simp [hresult, isUnsupportedProof] at h
      | cons problem rest => simp [problemsOfProof, hresult]

/-- The problems of a proof that could not be checked are among those of all such proofs. -/
theorem reported_of_isUnsupportedProof {proofs : List ProofOutcome} {proof : ProofOutcome}
    (hmem : proof ∈ proofs) (h : isUnsupportedProof proof.result = true) :
    let problems := (proofs.filter fun proof => isUnsupportedProof proof.result).flatMap
      problemsOfProof
    problemsOfProof proof ≠ [] ∧ problems.length > 0 ∧ problemsOfProof proof ⊆ problems := by
  have hne := problemsOfProof_of_isUnsupportedProof h
  have hsubset : problemsOfProof proof ⊆ (proofs.filter fun proof =>
      isUnsupportedProof proof.result).flatMap problemsOfProof := by
    intro problem hproblem
    exact List.mem_flatMap.mpr ⟨proof, List.mem_filter.mpr ⟨hmem, h⟩, hproblem⟩
  refine ⟨hne, List.length_pos_iff.mpr fun hempty => ?_, hsubset⟩
  rw [hempty] at hsubset
  exact hne (List.subset_nil.mp hsubset)

/-- The problem's detail starts with the proof's position in the document's array. -/
def NamesProof (proof : ProofOutcome) (problem : ProblemDetail) : Prop :=
  ∃ reason, problem.detail =
    s!"Proof {proof.position} of {proof.total} ({proof.label}): " ++ reason

/-- Every problem of a proof names the proof it is of. -/
theorem namesProof_of_mem {proof : ProofOutcome} {problem : ProblemDetail}
    (h : problem ∈ problemsOfProof proof) : NamesProof proof problem := by
  unfold problemsOfProof at h
  rcases List.mem_map.mp h with ⟨original, _, rfl⟩
  exact ⟨original.detail, rfl⟩

/-- The proofs of a set, each judged once: the set's verdict combines them, the proofs
that could not be checked are the ones reported, and the others are accepted. -/
structure AccountedFor (proofSet : List Json) (verdict : ProofSetDispatchResult)
    (reported : CheckOutcome) : Prop where
  positions : verdict.proofs.map (fun proof => (proof.position, proof.total, proof.label)) =
    (positionedProofs proofSet).map fun positioned =>
      (positioned.2, proofSet.length, proofLabel positioned.1)
  combined : verdict.combined = combineProofOutcomes verdict.proofs
  report :
    let problems := (verdict.proofs.filter fun proof =>
      isUnsupportedProof proof.result).flatMap problemsOfProof
    reported = if problems = [] then .success "Every proof was checked." else .failure problems
  each : ∀ proof ∈ verdict.proofs,
    (isUnsupportedProof proof.result = false ∧ proof.result.isAccepted = true) ∨
      (isUnsupportedProof proof.result = true ∧ problemsOfProof proof ≠ [] ∧
        ∃ problems, reported = .failure problems ∧ problemsOfProof proof ⊆ problems)

/-- A document with a proof set has a proof. -/
theorem documentHasProof_of_positionedProofs {document : Option Json}
    (h : 2 ≤ (positionedProofs (proofSetOf document)).length) :
    documentHasProof document = true := by
  have hfilter : ((proofSetOf document).filter Json.isObjectType).length =
      (positionedProofs (proofSetOf document)).length := by
    rw [← map_fst_positionedProofs, List.length_map]
  unfold proofSetOf at h hfilter
  split at h
  · rename_i items hitems
    simp only [hitems] at hfilter
    rw [documentHasProof, proofEntries, hitems, decide_eq_true_eq]
    dsimp only
    omega
  · simp [positionedProofs] at h

/-- On a proof set that passes the signature check, the two checks account for every
proof. -/
theorem accountedFor_of_signature_success {subject : VerificationSubject}
    {context : VerificationContext} {store store' store'' : ContextStore}
    {trace trace' : List PortEvent} {document : Json} {outcome : CheckOutcome}
    {result : Except Thrown CheckOutcome} (hdocument : proofDocument subject = some document)
    (htwo : 2 ≤ (positionedProofs (proofSetOf (some document))).length)
    (hsignature : Executes (signatureCheck.execute subject context store) trace
      (.ok outcome, store'))
    (hsuccess : outcome.isSuccess = true)
    (hunsupported : Executes (unsupportedProofsCheck.execute subject context store') trace'
      (result, store'')) :
    ∃ verdict reported, result = .ok reported ∧
      Executes (dispatchProofSetVerification context.cryptoServices subject
        (proofOptions context)) trace verdict ∧
      outcome = signatureOutcome verdict.combined ∧
      AccountedFor (proofSetOf (some document)) verdict reported := by
  have hproof := documentHasProof_of_positionedProofs htwo
  rcases exists_members_of_documentHasProof hproof with ⟨members, rfl⟩
  rcases executes_signatureCheck_recorded hdocument hproof hsignature with
    ⟨verdict, hdispatch, houtcome, hrecorded⟩
  cases houtcome
  have hreport := executes_unsupportedProofsCheck_recorded hdocument hproof hrecorded hunsupported
  rw [← hdocument] at htwo
  have htruthy : truthy (proofDocument subject) = true := by
    rw [hdocument]
    rfl
  rcases (executes_dispatchProofSetVerification htruthy htwo).mp hdispatch with
    ⟨entries, hpositioned, _, _, hproofs, hcombined⟩
  rw [isSuccess_signatureOutcome, hcombined, combineProofOutcomes_accepted_iff] at hsuccess
  rw [hdocument] at hpositioned hproofs
  refine ⟨verdict, _, hreport, hdispatch, rfl, ?_, hcombined, ?_, ?_⟩
  · rw [hproofs, ← hpositioned, List.map_map, List.map_map]
    rfl
  · dsimp only
    generalize (verdict.proofs.filter fun proof =>
      isUnsupportedProof proof.result).flatMap problemsOfProof = problems
    cases problems with
    | nil => rfl
    | cons problem problems => rfl
  · intro proof hmem
    by_cases hkind : isUnsupportedProof proof.result = true
    · right
      rcases reported_of_isUnsupportedProof hmem hkind with ⟨hne, hlength, hsubset⟩
      exact ⟨hkind, hne, _, if_pos hlength, hsubset⟩
    · left
      have hsupported : isUnsupportedProof proof.result = false := by simpa using hkind
      rcases hsuccess.1 proof hmem with haccepted | hunchecked
      · exact ⟨hsupported, haccepted⟩
      · exact absurd hunchecked hkind

/-- The kind of the combined verdict and its flag are the same in any order.  A
rejection for the proofs carries the problems of the failing ones, or of all where none
could be checked, in their order and each under the position of its proof.  On a set
that passes the signature check, each proof is accepted by the dispatch that check made,
or is reported as not checked. -/
theorem proofSets_accountedFor :
    (∀ proofs proofs' : List ProofOutcome,
      (proofs.map ProofOutcome.result).Perm (proofs'.map ProofOutcome.result) →
      (combineProofOutcomes proofs).kind = (combineProofOutcomes proofs').kind) ∧
    (∀ (proofs : List ProofOutcome) (problems : List ProblemDetail),
      combineProofOutcomes proofs = .rejected problems false →
      ((∃ proof ∈ proofs, isFailingProof proof.result = true) ∧
          problems = (proofs.filter fun proof => isFailingProof proof.result).flatMap
            problemsOfProof ∨
        (∀ proof ∈ proofs, isUnsupportedProof proof.result = true) ∧
          problems = proofs.flatMap problemsOfProof) ∧
      ∀ proof, ∀ problem ∈ problemsOfProof proof, NamesProof proof problem) ∧
    ∀ (subject : VerificationSubject) (context : VerificationContext)
      (store store' store'' : ContextStore) (trace trace' : List PortEvent) (document : Json)
      (outcome : CheckOutcome) (result : Except Thrown CheckOutcome),
      proofDocument subject = some document →
      2 ≤ (positionedProofs (proofSetOf (some document))).length →
      Executes (signatureCheck.execute subject context store) trace (.ok outcome, store') →
      outcome.isSuccess = true →
      Executes (unsupportedProofsCheck.execute subject context store') trace'
        (result, store'') →
      ∃ verdict reported, result = .ok reported ∧
        Executes (dispatchProofSetVerification context.cryptoServices subject
          (proofOptions context)) trace verdict ∧
        outcome = signatureOutcome verdict.combined ∧
        AccountedFor (proofSetOf (some document)) verdict reported := by
  refine ⟨?_, ?_, ?_⟩
  · intro proofs proofs' hperm
    rw [kind_combineProofOutcomes, kind_combineProofOutcomes]
    exact combinedKind_perm hperm
  · intro proofs problems hrejected
    exact ⟨problems_of_combineProofOutcomes hrejected, fun proof problem => namesProof_of_mem⟩
  · intro subject context store store' store'' trace trace' document outcome result hdocument
      htwo hsignature hsuccess hunsupported
    exact accountedFor_of_signature_success hdocument htwo hsignature hsuccess hunsupported

/-- The verified and the unsupported proof of the set are accounted for. -/
theorem accountedFor_twoProof :
    ∃ verdict reported,
      (Except.ok (CheckOutcome.failure (problemsOfProof
        { position := 2, total := 2, label := "B", result := .rejected [noServiceForProof] false })) :
          Except Thrown CheckOutcome) = .ok reported ∧
      Executes (dispatchProofSetVerification [0] twoProofSubject (proofOptions twoProofContext))
        twoProofTrace verdict ∧
      CheckOutcome.success "Signature verified successfully." =
        signatureOutcome verdict.combined ∧
      AccountedFor [.obj [("type", .str "A")], .obj [("type", .str "B")]] verdict reported :=
  proofSets_accountedFor.2.2 twoProofSubject twoProofContext {} _ _ twoProofTrace []
    twoProofCredential _ _ rfl (by decide) (replay_eq_some_iff.mp rfl) rfl
    (replay_eq_some_iff.mp rfl)

end VerifierCore
