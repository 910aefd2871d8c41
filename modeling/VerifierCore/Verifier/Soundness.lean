import VerifierCore.Suites.StatusOutcomes
import VerifierCore.Verifier.Presentation
import VerifierCore.Verifier.Recursion

/-!
# What a verified result says

A result is verified when no fatal row failed.  This collects what that means for the
document, along the calls that were made: its structure passed, its proofs were accepted
by a configured service, the clock was read within its validity period and no status bit
of it was set.

Main results:

- Theorem {lit}`signedBy_of_signature`: what a signature check that succeeded has seen.
- Theorem {lit}`verifyCredential_sound`: what a verified credential was found to be.
- Theorem {lit}`verifyPresentation_sound`: the same for every credential of a verified
  presentation, and the proofs of the presentation itself.
-/

namespace VerifierCore

open Foundations Program

/-! ## Accepted proofs -/

/-- The subject that carries the document under the key. -/
def subjectFor (key : ProofDocumentKey) (document : Json) : VerificationSubject :=
  VerificationSubject.set {} key document

/-- The document a proof is verified on: where there are several, each is taken alone. -/
def documentForProof (document proof : Json) : Json :=
  if 2 ≤ (proofEntries (some document)).length then document.set "proof" proof else document

/-- One of the services was handed the document of the proof and accepted it. -/
def ProofAcceptedBy (services : List Nat) (key : ProofDocumentKey) (options : CryptoVerifyOptions)
    (trace : List PortEvent) (document proof : Json) : Prop :=
  ∃ service ∈ services, ∃ answer,
    verifyEvent key service (documentForProof document proof) options answer ∈ trace ∧
      (serviceResult answer).isAccepted = true

/-- The proof was dispatched, and no service could check it. -/
def ProofUnchecked (services : List Nat) (key : ProofDocumentKey) (options : CryptoVerifyOptions)
    (trace : List PortEvent) (document proof : Json) : Prop :=
  ∃ events result, events <:+: trace ∧
    Executes (dispatchProofVerification services
      (subjectFor key (documentForProof document proof)) options) events result ∧
    isUnsupportedProof result = true

/-- Each proof of the document was accepted or could not be checked, and one was accepted. -/
structure SignedBy (services : List Nat) (key : ProofDocumentKey) (options : CryptoVerifyOptions)
    (trace : List PortEvent) (document : Json) : Prop where
  each : ∀ proof ∈ proofEntries (some document),
    ProofAcceptedBy services key options trace document proof ∨
      ProofUnchecked services key options trace document proof
  one : ∃ proof ∈ proofEntries (some document),
    ProofAcceptedBy services key options trace document proof

section

variable {services : List Nat} {key : ProofDocumentKey} {options : CryptoVerifyOptions}
  {trace trace' : List PortEvent} {document : Json}

/-- What was accepted along a part of the calls was accepted along all of them. -/
theorem ProofAcceptedBy.mono {proof : Json}
    (h : ProofAcceptedBy services key options trace document proof) (hinside : trace <:+: trace') :
    ProofAcceptedBy services key options trace' document proof := by
  rcases h with ⟨service, hservice, answer, hmem, haccepted⟩
  exact ⟨service, hservice, answer, hinside.subset hmem, haccepted⟩

/-- A document signed along a part of the calls is signed along all of them. -/
theorem SignedBy.mono (h : SignedBy services key options trace document)
    (hinside : trace <:+: trace') : SignedBy services key options trace' document := by
  constructor
  · intro proof hproof
    rcases h.each proof hproof with haccepted | ⟨events, result, hevents, hdispatch, hunchecked⟩
    · exact .inl (haccepted.mono hinside)
    · exact .inr ⟨events, result, hevents.trans hinside, hdispatch, hunchecked⟩
  · rcases h.one with ⟨proof, hproof, haccepted⟩
    exact ⟨proof, hproof, haccepted.mono hinside⟩

/-- A dispatch that accepted a document handed it to one of the services. -/
theorem proofAcceptedBy_of_dispatch {proof : Json} {events : List PortEvent}
    {result : CryptoDispatchResult}
    (hkey : proofDocumentKey (subjectFor key (documentForProof document proof)) = key)
    (h : Executes (dispatchProofVerification services
      (subjectFor key (documentForProof document proof)) options) events result)
    (haccepted : result.isAccepted = true) (hinside : events <:+: trace) :
    ProofAcceptedBy services key options trace document proof := by
  rcases executes_dispatchProofVerification h with ⟨_, rfl | ⟨error, rfl⟩⟩ |
    ⟨selection, service, handed, answer, _, hservice, hhanded, rfl, rfl⟩
  · cases haccepted
  · cases haccepted
  · rw [proofDocument, hkey] at hhanded
    have hsame : handed = documentForProof document proof := by
      cases key <;> exact (Option.some.inj hhanded).symm
    subst hsame
    rw [hkey] at hinside
    exact ⟨service, hservice, answer, hinside.subset (by simp), haccepted⟩

end

/-- The key a document is carried under. -/
theorem CarriesDocument.eq_subjectFor {document : Json} {subject : VerificationSubject}
    (h : CarriesDocument document subject) (htruthy : document.truthy = true) :
    subject = subjectFor (proofDocumentKey subject) document := by
  cases h with
  | credential => rfl
  | presentation =>
      have hpresentation : truthy (some document) = true := htruthy
      simp [proofDocumentKey, hpresentation, subjectFor, VerificationSubject.set]

/-- A document is looked for under the key it is carried under. -/
theorem proofDocumentKey_subjectFor {document : Json} (key : ProofDocumentKey)
    (htruthy : document.truthy = true) : proofDocumentKey (subjectFor key document) = key := by
  have hpresentation : truthy (some document) = true := htruthy
  cases key with
  | verifiablePresentation => simp [proofDocumentKey, subjectFor, VerificationSubject.set, hpresentation]
  | verifiableCredential => rfl

/-- A document without a proof is not reported as signed. -/
theorem documentHasProof_of_noProofOutcome {document : Json} {subject : VerificationSubject}
    {context : VerificationContext} (hsubject : CarriesDocument document subject)
    (htruthy : document.truthy = true) (h : noProofOutcome subject context = none) :
    documentHasProof (some document) = true := by
  by_contra hproof
  rw [Bool.not_eq_true] at hproof
  have hdocument : truthy (some document) = true := htruthy
  cases hsubject with
  | credential => simp [noProofOutcome, hproof, truthy] at h
  | presentation =>
      simp only [noProofOutcome, hdocument, if_true, hproof, Bool.not_false] at h
      split_ifs at h

/-- The proofs of a set are its positioned entries. -/
theorem proofEntries_of_two {document : Option Json}
    (h : 2 ≤ (positionedProofs (proofSetOf document)).length) :
    proofEntries document = (positionedProofs (proofSetOf document)).map Prod.fst := by
  rw [map_fst_positionedProofs]
  unfold proofSetOf at h ⊢
  unfold proofEntries
  split at h
  · rename_i items hitems
    simp only [hitems]
  · simp [positionedProofs] at h

/-- A document that is no set has at most one proof, and is verified as it is. -/
theorem documentForProof_of_single {document proof : Json}
    (h : ¬2 ≤ (positionedProofs (proofSetOf (some document))).length) :
    documentForProof document proof = document := by
  apply if_neg
  intro htwo
  apply h
  unfold proofEntries at htwo
  unfold proofSetOf
  split at htwo
  · rename_i items hitems
    rw [hitems, ← List.length_map Prod.fst, map_fst_positionedProofs]
    exact htwo
  · have hone := List.length_filter_le Json.isObjectType [‹Json›]
    simp only [List.length_singleton] at hone
    omega
  · simp at htwo

/-! ## What an accepted verdict has seen -/

section

variable {services : List Nat} {key : ProofDocumentKey} {options : CryptoVerifyOptions}
  {trace : List PortEvent} {members : List (String × Json)}

/-- What one accepting dispatch of an object says of the proof it was made for. -/
theorem proofAcceptedBy_of_alone {proof : Json} {events : List PortEvent}
    {result : CryptoDispatchResult}
    (halone : Executes (dispatchProofVerification services
      (subjectFor key (documentForProof (.obj members) proof)) options) events result)
    (hinside : events <:+: trace) (haccepted : result.isAccepted = true) :
    ProofAcceptedBy services key options trace (.obj members) proof := by
  apply proofAcceptedBy_of_dispatch _ halone haccepted hinside
  apply proofDocumentKey_subjectFor
  unfold documentForProof
  split_ifs <;> rfl

/-- The key under which an object is carried is the one it is looked for under. -/
theorem proofDocument_subjectFor :
    proofDocument (subjectFor key (.obj members)) = some (.obj members) := by
  rw [proofDocument, proofDocumentKey_subjectFor key rfl]
  cases key <;> rfl

/-- Where there are several proofs, each is dispatched on the document that has it alone. -/
theorem withSingleProof_subjectFor (proof : Json)
    (htwo : 2 ≤ (proofEntries (some (.obj members))).length) :
    withSingleProof (subjectFor key (.obj members)) proof =
      subjectFor key (documentForProof (.obj members) proof) := by
  rw [withSingleProof, proofDocument_subjectFor, Option.getD_some,
    proofDocumentKey_subjectFor key rfl, documentForProof, if_pos htwo]
  cases key <;> rfl

/-- An accepted set has each proof accepted or unsupported, and one of them accepted. -/
theorem signedBy_of_set {verdict : ProofSetDispatchResult}
    (htwo : 2 ≤ (positionedProofs (proofSetOf (some (.obj members)))).length)
    (hdispatch : Executes (dispatchProofSetVerification services (subjectFor key (.obj members))
      options) trace verdict)
    (haccepted : verdict.combined.isAccepted = true) :
    SignedBy services key options trace (.obj members) := by
  have hcarried : proofDocument (subjectFor key (.obj members)) = some (.obj members) :=
    proofDocument_subjectFor
  have htruthy : truthy (proofDocument (subjectFor key (.obj members))) = true := by
    rw [hcarried]
    rfl
  have hentries := proofEntries_of_two htwo
  have hset : 2 ≤ (proofEntries (some (.obj members))).length := by
    rwa [hentries, List.length_map]
  rw [← hcarried] at htwo
  rcases (executes_dispatchProofSetVerification htruthy htwo).mp hdispatch with
    ⟨entries, hpositioned, rfl, halone, hproofs, hcombined⟩
  rw [hcarried] at hpositioned
  rw [← hpositioned, List.map_map] at hentries
  rw [hcombined, combineProofOutcomes_accepted_iff, hproofs] at haccepted
  have hentry : ∀ entry ∈ entries, entry.trace <:+: entries.flatMap EntryDispatch.trace ∧
      Executes (dispatchProofVerification services
        (subjectFor key (documentForProof (.obj members) entry.positioned.1)) options)
        entry.trace entry.result := by
    intro entry hmem
    rw [← withSingleProof_subjectFor _ hset]
    rcases List.append_of_mem hmem with ⟨before, after, rfl⟩
    exact ⟨⟨before.flatMap EntryDispatch.trace, after.flatMap EntryDispatch.trace, by simp⟩,
      halone entry hmem⟩
  constructor
  · intro proof hmem
    rw [hentries] at hmem
    rcases List.mem_map.mp hmem with ⟨entry, hentryMem, rfl⟩
    rcases hentry entry hentryMem with ⟨hinside, hran⟩
    rcases haccepted.1 _ (List.mem_map_of_mem hentryMem) with hone | hunchecked
    · exact .inl (proofAcceptedBy_of_alone hran hinside hone)
    · exact .inr ⟨entry.trace, entry.result, hinside, hran, hunchecked⟩
  · rcases haccepted.2 with ⟨_, hmem, hone, _⟩
    rcases List.mem_map.mp hmem with ⟨entry, hentryMem, rfl⟩
    rcases hentry entry hentryMem with ⟨hinside, hran⟩
    refine ⟨entry.positioned.1, ?_, proofAcceptedBy_of_alone hran hinside hone⟩
    rw [hentries]
    exact List.mem_map_of_mem hentryMem

/-- An accepted document that is no set has its proof accepted. -/
theorem signedBy_of_single {verdict : ProofSetDispatchResult}
    (hproof : documentHasProof (some (.obj members)) = true)
    (hone : ¬2 ≤ (positionedProofs (proofSetOf (some (.obj members)))).length)
    (hdispatch : Executes (dispatchProofSetVerification services (subjectFor key (.obj members))
      options) trace verdict)
    (haccepted : verdict.combined.isAccepted = true) :
    SignedBy services key options trace (.obj members) := by
  have hsingle : ¬(truthy (proofDocument (subjectFor key (.obj members))) = true ∧
      2 ≤ (positionedProofs
        (proofSetOf (proofDocument (subjectFor key (.obj members))))).length) := by
    rw [proofDocument_subjectFor]
    exact fun hboth => hone hboth.2
  have hran := (executes_dispatchProofSetVerification_single hsingle hdispatch).1
  have hall : ∀ proof, ProofAcceptedBy services key options trace (.obj members) proof := by
    intro proof
    apply proofAcceptedBy_of_alone _ (List.infix_refl trace) haccepted
    rwa [documentForProof_of_single hone]
  constructor
  · intro proof _
    exact .inl (hall proof)
  · rcases List.exists_mem_of_length_pos (of_decide_eq_true hproof) with ⟨proof, hmem⟩
    exact ⟨proof, hmem, hall proof⟩

end

/-- A signature check that succeeded has seen each proof of the document accepted or
unsupported, and one of them accepted. -/
theorem signedBy_of_signature {document : Json} {subject : VerificationSubject}
    {context : VerificationContext} {store store' : ContextStore} {trace : List PortEvent}
    {outcome : CheckOutcome} (hsubject : CarriesDocument document subject)
    (htruthy : document.truthy = true)
    (h : Executes (signatureCheck.execute subject context store) trace (.ok outcome, store'))
    (hsuccess : outcome.isSuccess = true) :
    SignedBy context.cryptoServices (proofDocumentKey subject) (proofOptions context) trace
      document := by
  rcases executes_signatureCheck h with ⟨_, ⟨quiet, hquiet, hsame⟩ | ⟨problems, hfailure⟩⟩ |
    ⟨hnone, verdict, hdispatch, hresult⟩
  · cases hsame
    rw [isSuccess_noProofOutcome hquiet] at hsuccess
    cases hsuccess
  · cases hfailure
    cases hsuccess
  · cases hresult
    rw [isSuccess_signatureOutcome] at hsuccess
    have hproof := documentHasProof_of_noProofOutcome hsubject htruthy hnone
    rcases exists_members_of_documentHasProof hproof with ⟨members, rfl⟩
    rw [hsubject.eq_subjectFor htruthy] at hdispatch
    by_cases htwo : 2 ≤ (positionedProofs (proofSetOf (some (.obj members)))).length
    · exact signedBy_of_set htwo hdispatch hsuccess
    · exact signedBy_of_single hproof htwo hdispatch hsuccess

/-! ## Outcomes that do not fail -/

/-- A check that only succeeds or fails succeeds where it does not fail. -/
theorem isSuccess_of_onCredential {type title : String} {outcome : Json → CheckOutcome}
    (hkind : ∀ credential, (outcome credential).isSuccess = !(outcome credential).isFailure)
    {subject : VerificationSubject}
    (hnot : (onCredential type title outcome subject).isFailure = false) :
    (onCredential type title outcome subject).isSuccess = true := by
  unfold onCredential at hnot ⊢
  split at hnot
  · split_ifs at hnot with htruthy
    · rw [if_pos htruthy, hkind, hnot]
      rfl
    · cases hnot
  · cases hnot

/-- The check of the context only succeeds or fails. -/
theorem kind_contextOutcome (credential : Json) :
    (contextOutcome credential).isSuccess = !(contextOutcome credential).isFailure := by
  unfold contextOutcome
  dsimp only
  split_ifs <;> rfl

/-- The check of the data model's context only succeeds or fails. -/
theorem kind_vcContextOutcome (credential : Json) :
    (vcContextOutcome credential).isSuccess = !(vcContextOutcome credential).isFailure := by
  unfold vcContextOutcome
  split_ifs <;> rfl

/-- The check that there is a proof only succeeds or fails. -/
theorem kind_proofExistsOutcome (credential : Json) :
    (proofExistsOutcome credential).isSuccess = !(proofExistsOutcome credential).isFailure := by
  unfold proofExistsOutcome
  dsimp only
  split_ifs
  · rfl
  · split
    · split_ifs <;> rfl
    · rfl

/-- A run of structure rules only succeeds or fails. -/
theorem kind_runStructureRules (title message : String) (violations : List Violation) :
    (runStructureRules title message violations).isSuccess =
      !(runStructureRules title message violations).isFailure := by
  unfold runStructureRules
  dsimp only
  split_ifs <;> rfl

/-- The structure check only succeeds or fails. -/
theorem kind_vcStructureOutcome (platform : Platform) (subject : VerificationSubject) :
    (vcStructureOutcome platform subject).isSuccess =
      !(vcStructureOutcome platform subject).isFailure := by
  unfold vcStructureOutcome
  dsimp only
  split
  · exact kind_runStructureRules _ _ _
  · rfl

/-! ## What a verified credential was found to be -/

/-- The status list library answers about the credential as described, along the trace. -/
def StatusLibrary.AnswersAlong (library : StatusLibrary) (credential : Json)
    (trace : List PortEvent) : Prop :=
  ∀ verdicts answer, ⟨.readStatusLists credential verdicts, answer⟩ ∈ trace →
    library.Answers credential answer

/-- What was found of a credential along a trace: the parser and its structure passed, the
services accepted its proofs, it was within its validity period when the clock was read,
and the library read no status bit of it as set. -/
structure EstablishedAlong (platform : Platform) (services : List Nat) (trace : List PortEvent)
    (credential : Json) (now : ℚ) : Prop where
  parsed : parseCredential (some credential) = []
  read : ⟨.dateNowMs, now⟩ ∈ trace
  gate : PassesGate platform credential
  signed : SignedBy services .verifiableCredential { now := some now } trace credential
  valid : ∀ version, vcVersionOf (credential.get? "@context") = some version →
    DatesReadable platform credential (validityProperties version) →
    ¬EndsBefore platform credential (validityProperties version) now ∧
      ¬StartsAfter platform credential (validityProperties version) now
  status : ∀ library : StatusLibrary, library.AnswersAlong credential trace →
    ∀ entry ∈ statusEntries credential, isMalformed entry = false ∧
      (isChecked entry = true → library.bad entry = false ∧ library.bit entry = false)

/-- A run of the suites in which no fatal row failed. -/
structure CleanRun (platform : Platform) (suites : List VerificationSuite)
    (subject : VerificationSubject) (context : VerificationContext) (options : RunSuitesOptions)
    (trace : List PortEvent) (rows : List CheckResult) (store : ContextStore) : Prop where
  ran : Executes (runSuites platform suites subject context options {}) trace (rows, store)
  clean : hasFatalFailures rows = false

section

variable {platform : Platform} {suites : List VerificationSuite} {credential : Json}
  {context : VerificationContext} {options : RunSuitesOptions} {trace : List PortEvent}
  {rows : List CheckResult} {store : ContextStore}

/-- Each fatal check for credentials was executed in a clean run and did not fail. -/
theorem CleanRun.passed {suite : VerificationSuite} {check : VerificationCheck}
    (h : CleanRun platform suites { verifiableCredential := some credential } context options trace
      rows store)
    (hsuite : suite ∈ suites) (hphases : suiteRunsInPhases suite options.phases = true)
    (happlies : suite.applies = none) (hcheck : check ∈ suite.checks)
    (hfor : checkAppliesTo check [.verifiableCredential] = true) (hfatal : check.fatal = some true) :
    ∃ before after executed result, executed <:+: trace ∧
      Executes (check.execute { verifiableCredential := some credential } context before) executed
        (result, after) ∧ (outcomeOf check.id result).isFailure = false := by
  have hevaluated : evaluateApplies suite { verifiableCredential := some credential } context =
      .ok true := by rw [evaluateApplies, happlies]
  rcases exists_passed h.ran h.clean hsuite hphases hevaluated hcheck hfor hfatal with
    ⟨row, _, _, _, before, after, executed, result, hinside, hexec, houtcome, hnot⟩
  rw [houtcome] at hnot
  exact ⟨before, after, executed, result, hinside, hexec, hnot⟩

/-- A clean run passes the gate. -/
theorem CleanRun.gate
    (h : CleanRun platform suites { verifiableCredential := some credential } context options trace
      rows store)
    (hsuite : coreSuite platform ∈ suites)
    (hphases : suiteRunsInPhases (coreSuite platform) options.phases = true) :
    PassesGate platform credential := by
  have hunfailed {check : VerificationCheck} {outcome : VerificationSubject → CheckOutcome}
      (hcheck : check ∈ (coreSuite platform).checks)
      (hfor : checkAppliesTo check [.verifiableCredential] = true)
      (hfatal : check.fatal = some true)
      (hexecute : check.execute = pureBody fun subject _ => .ok (outcome subject)) :
      (outcome { verifiableCredential := some credential }).isFailure = false := by
    rcases h.passed hsuite hphases rfl hcheck hfor hfatal with
      ⟨before, after, executed, result, _, hexec, hnot⟩
    rw [hexecute] at hexec
    cases (executes_pure_iff.mp hexec).2
    exact hnot
  have hcontext := @hunfailed contextCheck _ (by simp [coreSuite]) rfl rfl rfl
  have hvcContext := @hunfailed vcContextCheck _ (by simp [coreSuite]) rfl rfl rfl
  have hstructure := @hunfailed (vcStructureCheck platform) _ (by simp [coreSuite]) rfl rfl rfl
  have hproof := @hunfailed proofExistsCheck _ (by simp [coreSuite]) rfl rfl rfl
  refine ⟨passes_of_pureBody rfl (isSuccess_of_onCredential kind_contextOutcome hcontext),
    passes_of_pureBody rfl (isSuccess_of_onCredential kind_vcContextOutcome hvcContext),
    passes_of_pureBody rfl ?_,
    passes_of_pureBody rfl (isSuccess_of_onCredential kind_proofExistsOutcome hproof)⟩
  rw [kind_vcStructureOutcome, hstructure]
  rfl

/-- A clean run has had the proofs accepted. -/
theorem CleanRun.signed
    (h : CleanRun platform suites { verifiableCredential := some credential } context options trace
      rows store)
    (hsuite : proofSuite platform ∈ suites)
    (hphases : suiteRunsInPhases (proofSuite platform) options.phases = true)
    (htruthy : credential.truthy = true) :
    SignedBy context.cryptoServices .verifiableCredential (proofOptions context) trace
      credential := by
  have hcheck : signatureCheck ∈ (proofSuite platform).checks := by simp [proofSuite]
  rcases h.passed hsuite hphases rfl hcheck rfl rfl with
    ⟨before, after, executed, result, hinside, hexec, hnot⟩
  rcases isSuccess_of_signatureCheck hexec hnot with ⟨outcome, rfl, hsuccess⟩
  exact (signedBy_of_signature .credential htruthy hexec hsuccess).mono hinside

/-- A clean run was made within the validity period. -/
theorem CleanRun.valid
    (h : CleanRun platform suites { verifiableCredential := some credential } context options trace
      rows store)
    (hsuite : proofSuite platform ∈ suites)
    (hphases : suiteRunsInPhases (proofSuite platform) options.phases = true)
    (hgate : PassesGate platform credential) (htruthy : credential.truthy = true)
    {version : VcVersion} (hversion : vcVersionOf (credential.get? "@context") = some version)
    (hreadable : DatesReadable platform credential (validityProperties version)) :
    ¬EndsBefore platform credential (validityProperties version) context.now ∧
      ¬StartsAfter platform credential (validityProperties version) context.now := by
  have hcheck : validityPeriodCheck platform ∈ (proofSuite platform).checks := by
    simp [proofSuite]
  rcases h.passed hsuite hphases rfl hcheck rfl rfl with
    ⟨before, after, executed, result, _, hexec, hnot⟩
  have hresult : result = validityOutcome platform credential context.now
      (validityProperties version) := by
    have hbody := (executes_pure_iff.mp hexec).2
    rw [Prod.mk.injEq] at hbody
    rw [hbody.1]
    simp only [Option.filter_some, htruthy, if_true, hversion]
  have hstrings := stated_dates_are_strings hversion
    (conformingCredential_of_passes hgate.vcStructure).dates
  have hjudged := validityOutcome_judged context.now
    (dateOf_readable (validityProperties version).start (by simp) (hstrings _ (by simp)) hreadable)
    (dateOf_readable (validityProperties version).end (by simp) (hstrings _ (by simp)) hreadable)
  rw [← hresult] at hjudged
  have hunreported (type : String) : ¬Reports result type := by
    rintro ⟨problems, payload, rfl, _⟩
    cases hnot
  exact ⟨fun hend => hunreported _ (hjudged.expired.mpr hend),
    fun hstart => hunreported _ (hjudged.notYetValid.mpr hstart)⟩

/-- A clean run has read no status bit as set. -/
theorem CleanRun.status
    (h : CleanRun platform suites { verifiableCredential := some credential } context options trace
      rows store)
    (hsuite : statusSuite platform ∈ suites)
    (hphases : suiteRunsInPhases (statusSuite platform) options.phases = true)
    {library : StatusLibrary} (hlibrary : library.AnswersAlong credential trace) :
    ∀ entry ∈ statusEntries credential, isMalformed entry = false ∧
      (isChecked entry = true → library.bad entry = false ∧ library.bit entry = false) := by
  have hcheck : bitstringStatusCheck platform ∈ (statusSuite platform).checks := by
    simp [statusSuite]
  rcases h.passed hsuite hphases rfl hcheck rfl rfl with
    ⟨before, after, executed, result, hinside, hexec, hnot⟩
  cases result with
  | error error => cases hnot
  | ok outcome =>
      have hrun : BitstringRun platform library credential outcome :=
        .intro rfl hexec fun verdicts answer hmem =>
          hlibrary verdicts answer (hinside.subset hmem)
      have hsettled := status_bitstringRun hrun
      intro entry hentry
      rw [isChecked_eq]
      cases hstatus : settledStatus library (statusEntries credential) with
      | success => exact (settledStatus_eq_success_iff.mp hstatus).2 entry hentry
      | skipped =>
          have hquiet := settledStatus_eq_skipped_iff.mp hstatus entry hentry
          rw [hquiet.2]
          exact ⟨hquiet.1, by simp⟩
      | failure =>
          rw [hstatus] at hsettled
          cases outcome with
          | failure problems payload => cases hnot
          | success message payload => cases hsettled
          | skipped reason code haltedBy => cases hsettled

end

/-! ## Credentials -/

/-- A verified result comes from a clean run behind the parser, in a context made at a
reading of the clock. -/
theorem exists_cleanRun {platform : Platform} {config : VerifierConfig}
    {lookupIssuers : LookupIssuers} {call : VerifyCredentialCall} {trace : List PortEvent}
    {result : CredentialVerificationResult}
    (h : Executes (verifyCredentialWith platform config lookupIssuers call) trace result)
    (hverified : result.verified = true) :
    parseCredential call.credential = [] ∧ ∃ nowMs timing options events store,
      ⟨.dateNowMs, nowMs⟩ ∈ trace ∧ events <:+: trace ∧
      options.phases = expandPhases (call.phases.or config.phases) ∧
      CleanRun platform (defaultSuites platform ++ call.additionalSuites.getD [])
        { verifiableCredential := call.credential }
        (buildContext config lookupIssuers (call.registries.or config.registries) nowMs timing)
        options events result.results store := by
  unfold verifyCredentialWith at h
  rcases executes_bind_iff.mp h with ⟨started, rest, topLevel, rfl, _, hrest⟩
  cases hparse : parseCredential call.credential with
  | cons message messages =>
      simp only [hparse] at hrest
      rcases executes_bind_iff.mp hrest with ⟨first, second, failed, rfl, hfailed, hfinal⟩
      rcases executes_bind_iff.mp hfailed with ⟨third, fourth, check, rfl, _, hpure⟩
      rcases executes_pure_iff.mp hpure with ⟨_, rfl⟩
      have hnot := (executes_finalizeCredentialResult hfinal).1
      rw [hverified] at hnot
      cases hnot
  | nil =>
      simp only [hparse] at hrest
      rcases executes_ask_bind_iff.mp hrest with ⟨nowMs, later, rfl, hlater⟩
      rcases executes_bind_iff.mp hlater with ⟨events, finishing, ran, rfl, hsuites, hfinal⟩
      have hfinished := executes_finalizeCredentialResult hfinal
      have hrows : result.results = ran.1 := by
        rw [hfinished.2]
        exact results_foldCheckResults _ _
      refine ⟨rfl, nowMs, (call.timing.or config.timing).getD false,
        { explicitSuiteIds := (call.additionalSuites.getD []).map VerificationSuite.id
          phases := expandPhases (call.phases.or config.phases) }, events, ran.2, by simp,
        ⟨started ++ [⟨.dateNowMs, nowMs⟩], finishing, by simp⟩, rfl, ?_⟩
      rw [hrows]
      refine ⟨hsuites, ?_⟩
      rw [hverified] at hfinished
      simpa [credentialResult] using hfinished.1

/-- The phases, if any are named, include the cryptographic one. -/
def RequestsCryptographic (phases : Option (List SuitePhase)) : Prop :=
  ∀ requested, phases = some requested → .cryptographic ∈ requested

/-- A verified credential was established along the calls of its verification. -/
theorem established_of_verified {platform : Platform} {config : VerifierConfig}
    {lookupIssuers : LookupIssuers} {call : VerifyCredentialCall} {credential : Json}
    {trace : List PortEvent} {result : CredentialVerificationResult}
    (hcredential : call.credential = some credential)
    (hphases : RequestsCryptographic (call.phases.or config.phases))
    (h : Executes (verifyCredentialWith platform config lookupIssuers call) trace result)
    (hverified : result.verified = true) :
    ∃ now, EstablishedAlong platform config.cryptoServices trace credential now := by
  rcases exists_cleanRun h hverified with
    ⟨hparsed, nowMs, timing, options, events, store, hread, hinside, hoptions, hclean⟩
  rw [hcredential] at hparsed hclean
  have hcryptographic {suite : VerificationSuite} (hphase : suite.phase = some .cryptographic) :
      suiteRunsInPhases suite options.phases = true := by
    rw [hoptions]
    exact suiteRunsInPhases_expandPhases hphase hphases
  have hgate := hclean.gate (by simp [defaultSuites]) (hcryptographic rfl)
  have htruthy : credential.truthy = true := by
    rcases (conformingCredential_of_passes hgate.vcStructure).issuer with ⟨issuer, hissuer, _⟩
    cases credential <;> simp_all [Json.get?, Json.truthy]
  refine ⟨nowMs, hparsed, hread, hgate, ?_, ?_, ?_⟩
  · exact (hclean.signed (by simp [defaultSuites]) (hcryptographic rfl) htruthy).mono hinside
  · intro version hversion hreadable
    exact hclean.valid (by simp [defaultSuites]) (hcryptographic rfl) hgate htruthy hversion
      hreadable
  · intro library hlibrary
    apply hclean.status (by simp [defaultSuites]) (hcryptographic rfl)
    intro verdicts answer hmem
    exact hlibrary verdicts answer (hinside.subset hmem)

/-- A credential is only verified if the parser and its structure passed, the services
accepted its proofs, it was within its validity period at a reading of the clock, and no status bit of
it was read as set. -/
theorem verifyCredential_sound {platform : Platform} {config : VerifierConfig} {depth : Nat}
    {call : VerifyCredentialCall} {credential : Json} {trace : List PortEvent}
    {result : CredentialVerificationResult} (hcredential : call.credential = some credential)
    (hphases : RequestsCryptographic (call.phases.or config.phases))
    (h : Executes ((createVerifier platform config depth).verifyCredential call) trace result)
    (hverified : result.verified = true) :
    ∃ now, EstablishedAlong platform config.cryptoServices trace credential now := by
  rw [createVerifier_verifyCredential] at h
  exact established_of_verified hcredential hphases h hverified

/-- The badge is found signed by the one service, at the time it was read. -/
theorem verifyCredential_sound_badge : ∃ result now,
    Executes ((createVerifier BadgePresentation.platform BadgePresentation.config 0).verifyCredential
      { credential := some BadgePresentation.badge }) BadgePresentation.badgeTrace result ∧
    EstablishedAlong BadgePresentation.platform [0] BadgePresentation.badgeTrace
      BadgePresentation.badge now := by
  have hreplay : (replay ((createVerifier BadgePresentation.platform BadgePresentation.config
      0).verifyCredential { credential := some BadgePresentation.badge })
      BadgePresentation.badgeTrace).map CredentialVerificationResult.verified = some true := by
    decide +kernel
  obtain ⟨result, hresult, hverified⟩ := Option.map_eq_some_iff.mp hreplay
  have hrun := replay_eq_some_iff.mp hresult
  have hphases : RequestsCryptographic (none : Option (List SuitePhase)) := by
    intro requested hrequested
    cases hrequested
  obtain ⟨now, hestablished⟩ := verifyCredential_sound rfl (by exact hphases) hrun hverified
  exact ⟨result, now, hrun, hestablished⟩

/-! ## Presentations -/

/-- On a presentation a signature check that does not fail has seen its proofs accepted, or
was told that it may be unsigned. -/
theorem signed_or_unsigned {presentation : Json} {context : VerificationContext}
    {store store' : ContextStore} {trace : List PortEvent} {result : Except Thrown CheckOutcome}
    (htruthy : presentation.truthy = true)
    (h : Executes (signatureCheck.execute { verifiablePresentation := some presentation } context
      store) trace (result, store'))
    (hnot : (outcomeOf signatureCheck.id result).isFailure = false) :
    (context.unsignedPresentation = true ∧ documentHasProof (some presentation) = false) ∨
      SignedBy context.cryptoServices .verifiablePresentation (proofOptions context) trace
        presentation := by
  have hpresentation : truthy (some presentation) = true := htruthy
  rcases executes_signatureCheck h with ⟨_, ⟨outcome, hproof, rfl⟩ | ⟨problems, rfl⟩⟩ |
    ⟨_, verdict, _, hresult⟩
  · left
    simp only [noProofOutcome, hpresentation, if_true] at hproof
    split_ifs at hproof with hunsigned hallowed
    · exact ⟨hallowed, by simpa using hunsigned⟩
    · cases hproof
      cases hnot
  · cases hnot
  · right
    subst hresult
    have hkey : proofDocumentKey { verifiablePresentation := some presentation } =
        .verifiablePresentation := if_pos hpresentation
    rw [← hkey]
    apply signedBy_of_signature .presentation htruthy h
    rw [outcomeOf, isFailure_signatureOutcome] at hnot
    rw [isSuccess_signatureOutcome]
    simpa using hnot

/-- What was found of a presentation along a trace: the parser, the options and its
structure passed, its proofs were accepted or it was allowed to be unsigned, and each
credential was found as described. -/
structure PresentationEstablished (platform : Platform) (config : VerifierConfig)
    (call : VerifyPresentationCall) (trace : List PortEvent) (presentation : Json) : Prop where
  parsed : parsePresentation (some presentation) = []
  options : invalidChallengeOptions call = none
  structureSound : (vpStructureOutcome platform
    { verifiablePresentation := some presentation }).isSuccess = true
  signed : (call.unsignedPresentation = some true ∧ documentHasProof (some presentation) = false) ∨
    ∃ now, SignedBy config.cryptoServices .verifiablePresentation
      { challenge := call.challenge, domain := call.domain, now := some now } trace presentation
  credentials : ∀ entry ∈ credentialEntries presentation,
    ∃ events now, events <:+: trace ∧
      EstablishedAlong platform config.cryptoServices events entry now

/-- Behind a run of a presentation's suites without a fatal failure, its proofs were accepted
in that run, or the call allowed it to be unsigned. -/
theorem presentationSigned_of_no_fatal {platform : Platform} {config : VerifierConfig}
    {lookupIssuers : LookupIssuers} {call : VerifyPresentationCall} {presentation : Json}
    {nowMs : ℚ} {timing : Bool} {options : RunSuitesOptions} {events : List PortEvent}
    {rows : List CheckResult} {store : ContextStore} (htruthy : presentation.truthy = true)
    (hphases : suiteRunsInPhases (proofSuite platform) options.phases = true)
    (h : Executes (runSuites platform (presentationSuites platform call)
      { verifiablePresentation := some presentation }
      (presentationContext config lookupIssuers call nowMs timing) options {}) events (rows, store))
    (hfatal : hasFatalFailures rows = false) :
    (call.unsignedPresentation = some true ∧ documentHasProof (some presentation) = false) ∨
      SignedBy config.cryptoServices .verifiablePresentation
        { challenge := call.challenge, domain := call.domain, now := some nowMs } events
        presentation := by
  have hsuite : proofSuite platform ∈ presentationSuites platform call := by
    simp [presentationSuites]
  have hcheck : signatureCheck ∈ (proofSuite platform).checks := by simp [proofSuite]
  have hadmitted : appliesToSubject signatureCheck
      { verifiablePresentation := some presentation } = true := by
    simp [appliesToSubject, checkAppliesTo, subjectTypes, signatureCheck]
  rcases exists_passed h hfatal hsuite hphases rfl hcheck hadmitted rfl with
    ⟨row, _, _, _, before, after, executed, checked, hexecuted, hexec, houtcome, hnot⟩
  rw [houtcome] at hnot
  rcases signed_or_unsigned htruthy hexec hnot with ⟨hallowed, hunsigned⟩ | hsigned
  · left
    refine ⟨?_, hunsigned⟩
    cases hflag : call.unsignedPresentation with
    | none => simp [presentationContext, hflag] at hallowed
    | some flag => simpa [presentationContext, hflag] using hallowed
  · exact .inr (hsigned.mono hexecuted)

/-- Entries that were verified in turn, each with success, were each established in calls of
the run. -/
theorem established_of_verifiedInTurn {platform : Platform} {config : VerifierConfig}
    {depth : Nat} {call : VerifyPresentationCall} {timing : Bool} {trace : List PortEvent}
    {entries : List Json} {results : List CredentialVerificationResult}
    (hphases : RequestsCryptographic (call.phases.or config.phases))
    (h : VerifiedInTurn (fun credential => (createVerifier platform config depth).verifyCredential
      (embeddedCall call timing credential)) trace entries results)
    (hverified : ∀ result ∈ results, result.verified = true) :
    ∀ entry ∈ entries, ∃ events now, events <:+: trace ∧
      EstablishedAlong platform config.cryptoServices events entry now := by
  intro entry hentry
  rcases h with ⟨runs, rfl, rfl, hinside, hruns⟩
  rcases List.mem_map.mp hentry with ⟨run, hrun, rfl⟩
  have hrunInside : run.events <:+: runs.flatMap EmbeddedRun.events := by
    rcases List.append_of_mem hrun with ⟨before, after, rfl⟩
    exact ⟨before.flatMap EmbeddedRun.events, after.flatMap EmbeddedRun.events, by simp⟩
  have hexec := hruns run hrun
  rw [createVerifier_verifyCredential] at hexec
  rcases established_of_verified rfl hphases hexec (hverified _ (List.mem_map_of_mem hrun)) with
    ⟨now, hestablished⟩
  exact ⟨run.events, now, hrunInside.trans hinside, hestablished⟩

/-- A presentation is only verified if the gates and its structure passed, its proofs were
accepted or missing as allowed, and each of its credentials was found as a verified one is. -/
theorem verifyPresentation_sound {platform : Platform} {config : VerifierConfig} {depth : Nat}
    {call : VerifyPresentationCall} {presentation : Json} {trace : List PortEvent}
    {result : PresentationVerificationResult}
    (hpresentation : call.presentation = some presentation)
    (hphases : RequestsCryptographic (call.phases.or config.phases))
    (h : Executes (verifyPresentation platform config depth call) trace result)
    (hverified : result.verified = true) :
    PresentationEstablished platform config call trace presentation := by
  rcases gates_of_verified h hverified with ⟨hparsed, hoptions⟩
  rcases executes_verifyPresentationWith hparsed hoptions h with
    ⟨nowMs, events, rows, store, hsuites, hinside, _, hembedded, hverdict⟩
  rw [hverified, eq_comm, Bool.and_eq_true, Bool.not_eq_true', List.all_eq_true] at hverdict
  rw [hpresentation] at hparsed hsuites hembedded
  have hcryptographic {suite : VerificationSuite} (hphase : suite.phase = some .cryptographic) :
      suiteRunsInPhases suite (presentationOptions config call).phases = true :=
    suiteRunsInPhases_expandPhases hphase hphases
  have hstructure := vpStructure_of_no_fatal (hcryptographic rfl) hsuites hverdict.1
  have htruthy : presentation.truthy = true := by
    cases presentation with
    | obj members => rfl
    | null | bool | num | str | arr => cases hstructure
  refine ⟨hparsed, hoptions, hstructure, ?_, ?_⟩
  · rcases presentationSigned_of_no_fatal htruthy (hcryptographic rfl) hsuites hverdict.1 with
      hunsigned | hsigned
    · exact .inl hunsigned
    · exact .inr ⟨nowMs, hsigned.mono hinside⟩
  · rw [Option.bind_some, extractCredentialsFrom_of_truthy fun value hvalue =>
      truthy_of_vpStructure hstructure hvalue] at hembedded
    exact established_of_verifiedInTurn hphases hembedded hverdict.2

/-- The badge of the unsigned presentation is found as a verified one is. -/
theorem verifyPresentation_sound_badge :
    PresentationEstablished BadgePresentation.platform BadgePresentation.config
      BadgePresentation.call BadgePresentation.trace BadgePresentation.presentation := by
  obtain ⟨result, hrun, hverified⟩ := BadgePresentation.exists_executes
  have hphases : RequestsCryptographic (none : Option (List SuitePhase)) := by
    intro requested hrequested
    cases hrequested
  exact verifyPresentation_sound rfl (by exact hphases) hrun hverified

end VerifierCore
