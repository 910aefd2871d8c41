import VerifierCore.Verifier.Presentation
import VerifierCore.DataIntegrityCrypto

/-!
# Challenge binding

A caller that passes a challenge asks for replay protection: the presentation must be
signed for that challenge, and for the domain if one is given.  The library is trusted
with one proof at a time; that no mix of proofs gets around it is up to the verifier,
which splits the proofs, picks the purpose, exempts only proofs it reports as not
checked, and turns invalid options away.

Main results:

- Theorem {lit}`proofsBound_of_accepted`: what an accepted proof set says of each proof.
- Theorem {lit}`verifyPresentation_bound_of_verified`: a presentation that is verified
  under a challenge is bound to it.
-/

namespace VerifierCore

open Foundations Program

/-! ## Bound proofs -/

/-- What the proofs of a document sign: the document without them. -/
def unsigned : Json → Json
  | .obj members => .obj (members.filter fun member => member.1 ≠ "proof")
  | document => document

/-- The proofs a document states, whatever they are. -/
def statedProofs (document : Json) : List Json :=
  (document.get? "proof").elim [] entryValues

/-- An authentication proof of the document for the challenge, and for the domain if
there is one, with a valid signature. -/
structure BoundProof (Valid : Json → Json → Prop) (challenge : String) (domain : Option String)
    (document proof : Json) : Prop where
  purpose : proof.get? "proofPurpose" = some (.str "authentication")
  challenge : proof.get? "challenge" = some (.str challenge)
  domain : ∀ d, domain = some d → proof.get? "domain" = some (.str d)
  signature : Valid (unsigned document) proof

/-- Handed a document with one proof and a challenge, the library accepts only a proof
that is bound to the challenge. -/
def LibrarySound (platform : Platform) (Valid : Json → Json → Prop) (event : LibraryEvent) :
    Prop :=
  ∀ document challenge domain result proof,
    event = ⟨.verifyPresentation document (.authentication challenge domain), .ok result⟩ →
    proofEntries (some document) = [proof] → isPlainObject (some proof) = true →
    DataIntegrityCrypto.LibraryAccepts platform result →
      BoundProof Valid challenge domain document proof

/-- A presentation handed to a crypto service is answered by the default service, over a
sound library. -/
def DefaultServiceAnswers (platform : Platform) (Valid : Json → Json → Prop)
    (event : PortEvent) : Prop :=
  ∀ service document options answer,
    event = ⟨.verifyPresentation service document options, answer⟩ →
    ∃ suites events result, answer = .ok result ∧
      Executes (DataIntegrityCrypto.verifyPresentation platform suites document options) events
        result ∧
      ∀ called ∈ events, LibrarySound platform Valid called

/-- The rows name the proof, by its position, as one that was not checked. -/
def ReportedUnsupported (rows : List CheckResult) (total : Nat) (proof : Json × Nat) : Prop :=
  ∃ row ∈ rows, row.id = "cryptographic.proof.unsupported-proofs" ∧
    ∃ problems, row.outcome = .failure problems ∧ ∃ problem ∈ problems,
      problem.type = ProblemTypes.proofUnsupported ∧
      ∃ reason, problem.detail =
        s!"Proof {proof.2} of {total} ({proofLabel proof.1}): " ++ reason

/-- One of the presentation's proofs is bound to the challenge, and each of them is or is
exempt. -/
structure ProofsBound (Valid : Json → Json → Prop) (challenge : String) (domain : Option String)
    (presentation : Json) (Exempt : Json × Nat → Prop) : Prop where
  one : ∃ proof ∈ positionedProofs (statedProofs presentation),
    BoundProof Valid challenge domain presentation proof.1
  each : ∀ proof ∈ positionedProofs (statedProofs presentation),
    BoundProof Valid challenge domain presentation proof.1 ∨ Exempt proof

/-- What is signed stays the same on a copy that carries another proof. -/
theorem unsigned_set_proof (members : List (String × Json)) (proof : Json) :
    unsigned ((Json.obj members).set "proof" proof) = unsigned (.obj members) := by
  have hmembers : (Json.setMember "proof" proof members).filter (fun member => member.1 ≠ "proof") =
      members.filter fun member => member.1 ≠ "proof" := by
    induction members with
    | nil => rfl
    | cons member rest ih =>
        by_cases hkey : member.1 = "proof"
        · simp [Json.setMember, hkey]
        · simpa [Json.setMember, hkey] using ih
  simp only [Json.set, unsigned, hmembers]

/-! ## The proofs of a presentation that passed the structure check -/

/-- The proofs of a well-formed presentation are objects. -/
theorem plain_of_vpStructure {platform : Platform} {presentation : Json}
    (h : (vpStructureOutcome platform
      { verifiablePresentation := some presentation }).isSuccess = true) :
    ∀ proof ∈ statedProofs presentation, isPlainObject (some proof) = true := by
  intro proof hproof
  cases presentation with
  | obj members =>
      have hrules := runStructureRules_success_iff.mp h
      have hentries := (List.append_eq_nil_iff.mp (List.append_eq_nil_iff.mp hrules).1).2
      cases hvalue : (Json.obj members).get? "proof" with
      | none => simp [statedProofs, hvalue] at hproof
      | some value =>
          simp only [statedProofs, hvalue, Option.elim_some] at hproof
          simp only [checkEntries, hvalue, List.flatMap_eq_nil_iff] at hentries
          rcases exists_asEntries hproof [.name "proof"] with ⟨path, hpath⟩
          exact isPlainObject_of_checkTypedEntry (hentries _ hpath)
  | null | bool | num | str | arr => simp [statedProofs, Json.get?] at hproof

/-- Plain proofs are all entries. -/
theorem proofEntries_of_plain {document : Json}
    (hplain : ∀ proof ∈ statedProofs document, isPlainObject (some proof) = true) :
    proofEntries (some document) = statedProofs document := by
  unfold proofEntries
  rw [Option.bind_some]
  cases hvalue : document.get? "proof" with
  | none => simp [statedProofs, hvalue]
  | some value =>
      have hentries : statedProofs document = entryValues value := by
        simp [statedProofs, hvalue]
      rw [hentries] at hplain ⊢
      cases value with
      | arr items => exact filter_isObjectType_eq_self hplain
      | null | bool | num | str | obj => exact filter_isObjectType_eq_self hplain

/-- Two or more proofs are the entries of an array, and verified as a set. -/
theorem proofSetOf_of_two {document : Json} (h : 2 ≤ (statedProofs document).length) :
    proofSetOf (some document) = statedProofs document := by
  unfold proofSetOf
  rw [Option.bind_some]
  cases hvalue : document.get? "proof" with
  | none => simp [statedProofs, hvalue]
  | some value =>
      cases value with
      | arr items => simp [statedProofs, hvalue, entryValues]
      | null | bool | num | str | obj => simp [statedProofs, hvalue, entryValues] at h

/-- A document's proof set is no longer than what it states as its proof. -/
theorem length_proofSetOf_le (document : Json) :
    (proofSetOf (some document)).length ≤ (statedProofs document).length := by
  unfold proofSetOf
  rw [Option.bind_some]
  cases hvalue : document.get? "proof" with
  | none => simp
  | some value =>
      cases value with
      | arr items => simp [statedProofs, hvalue, entryValues]
      | null | bool | num | str | obj => simp

/-- A document is verified as a set when it states two or more proofs. -/
theorem two_le_positionedProofs_iff {document : Json}
    (hplain : ∀ proof ∈ statedProofs document, isPlainObject (some proof) = true) :
    2 ≤ (positionedProofs (proofSetOf (some document))).length ↔
      2 ≤ (statedProofs document).length := by
  have hpositioned (proofs : List Json) : (positionedProofs proofs).length =
      (proofs.filter Json.isObjectType).length := by
    rw [← List.length_map (f := Prod.fst), map_fst_positionedProofs]
  by_cases htwo : 2 ≤ (statedProofs document).length
  · rw [proofSetOf_of_two htwo, hpositioned, filter_isObjectType_eq_self hplain]
  · have hfilter := List.length_filter_le Json.isObjectType (proofSetOf (some document))
    have hset := length_proofSetOf_le document
    rw [hpositioned]
    omega

/-! ## One dispatch -/

section

variable {platform : Platform} {Valid : Json → Json → Prop} {services : List Nat}
  {options : CryptoVerifyOptions} {trace : List PortEvent} {challenge : String}

/-- A presentation with one proof, dispatched under a challenge, is accepted only if its
proof is bound to the challenge. -/
theorem bound_of_accepted {document proof : Json} {result : CryptoDispatchResult}
    (hchallenge : options.challenge = some challenge) (htruthy : document.truthy = true)
    (hentries : proofEntries (some document) = [proof])
    (hplain : isPlainObject (some proof) = true)
    (hanswers : ∀ event ∈ trace, DefaultServiceAnswers platform Valid event)
    (h : Executes (dispatchProofVerification services
      { verifiablePresentation := some document } options) trace result)
    (haccepted : result.isAccepted = true) :
    BoundProof Valid challenge options.domain document proof := by
  rcases executes_dispatchProofVerification h with ⟨_, hresult⟩ |
    ⟨selection, service, handed, answer, _, _, hdocument, rfl, rfl⟩
  · rcases hresult with rfl | ⟨error, rfl⟩
    · cases haccepted
    · cases haccepted
  · have hkey : proofDocumentKey { verifiablePresentation := some document } =
        .verifiablePresentation := if_pos htruthy
    rw [proofDocument, hkey, VerificationSubject.get, Option.some.injEq] at hdocument
    subst hdocument
    have hevent := hanswers _ (List.mem_append_right selection List.mem_cons_self)
    rw [hkey, verifyEvent] at hevent
    rcases hevent service document options answer rfl with ⟨suites, events, judged, rfl, hrun, hsound⟩
    rcases DataIntegrityCrypto.executes_verifyPresentation hrun haccepted with
      ⟨reported, rest, hlibrary, rfl⟩
    have hpurpose : DataIntegrityCrypto.getPresentationPurpose document options.challenge
        options.domain = .authentication challenge options.domain := by
      rw [hchallenge]
      rfl
    rw [hpurpose] at hsound
    exact hsound _ List.mem_cons_self document challenge options.domain reported proof rfl hentries
      hplain hlibrary

/-! ## The proofs of a presentation -/

/-- The copy handed over for one proof is bound as the presentation is. -/
theorem bound_of_copy {members : List (String × Json)} {domain : Option String} {proof : Json}
    (h : BoundProof Valid challenge domain ((Json.obj members).set "proof" proof) proof) :
    BoundProof Valid challenge domain (.obj members) proof := by
  refine ⟨h.purpose, h.challenge, h.domain, ?_⟩
  rw [← unsigned_set_proof members proof]
  exact h.signature

/-- A copy with a plain proof has that proof alone. -/
theorem proofEntries_set_of_plain {document proof : Json}
    (hplain : isPlainObject (some proof) = true) :
    proofEntries (some (document.set "proof" proof)) = [proof] := by
  unfold proofEntries
  rw [Option.bind_some, Json.get?_set_self]
  cases proof with
  | obj members => rfl
  | null | bool | num | str | arr => simp [isPlainObject] at hplain

/-- The outcome of a proof that was not checked is among the verdict's. -/
def NotChecked (verdict : ProofSetDispatchResult) (total : Nat) (proof : Json × Nat) : Prop :=
  ∃ result, isUnsupportedProof result = true ∧ positionedOutcome total proof result ∈ verdict.proofs

section

variable {members : List (String × Json)} {verdict : ProofSetDispatchResult}

/-- The only proof of an accepted presentation is bound. -/
theorem proofsBound_of_single {proof : Json}
    (hchallenge : options.challenge = some challenge)
    (hstated : statedProofs (.obj members) = [proof])
    (hplain : isPlainObject (some proof) = true)
    (hanswers : ∀ event ∈ trace, DefaultServiceAnswers platform Valid event)
    (h : Executes (dispatchProofSetVerification services
      { verifiablePresentation := some (.obj members) } options) trace verdict)
    (haccepted : verdict.combined.isAccepted = true) (Exempt : Json × Nat → Prop) :
    ProofsBound Valid challenge options.domain (.obj members) Exempt := by
  have hall : ∀ stated ∈ statedProofs (.obj members), isPlainObject (some stated) = true := by
    rw [hstated]
    simpa using hplain
  have hsingle : ¬2 ≤ (positionedProofs (proofSetOf (some (.obj members)))).length := by
    rw [two_le_positionedProofs_iff hall, hstated]
    simp
  have hdispatch : Executes (dispatchProofVerification services
      { verifiablePresentation := some (.obj members) } options) trace verdict.combined := by
    apply (executes_dispatchProofSetVerification_single _ h).1
    intro hset
    exact hsingle hset.2
  have hentries : proofEntries (some (.obj members)) = [proof] :=
    (proofEntries_of_plain hall).trans hstated
  have hbound : BoundProof Valid challenge options.domain (.obj members) proof :=
    bound_of_accepted hchallenge rfl hentries hplain hanswers hdispatch haccepted
  have hpositioned : positionedProofs (statedProofs (.obj members)) = [(proof, 1)] := by
    rw [hstated]
    cases proof with
    | obj => rfl
    | null | bool | num | str | arr => simp [isPlainObject] at hplain
  constructor
  · exact ⟨(proof, 1), by simp [hpositioned], hbound⟩
  · intro other hother
    rw [hpositioned, List.mem_singleton] at hother
    rw [hother]
    exact .inl hbound

/-- Of two or more proofs of an accepted presentation, one is bound, and each is bound or
was not checked. -/
theorem proofsBound_of_set (hchallenge : options.challenge = some challenge)
    (htwo : 2 ≤ (statedProofs (.obj members)).length)
    (hplain : ∀ proof ∈ statedProofs (.obj members), isPlainObject (some proof) = true)
    (hanswers : ∀ event ∈ trace, DefaultServiceAnswers platform Valid event)
    (h : Executes (dispatchProofSetVerification services
      { verifiablePresentation := some (.obj members) } options) trace verdict)
    (haccepted : verdict.combined.isAccepted = true) :
    ProofsBound Valid challenge options.domain (.obj members)
      (NotChecked verdict (statedProofs (.obj members)).length) := by
  have hset : proofSetOf (proofDocument { verifiablePresentation := some (.obj members) }) =
      statedProofs (.obj members) := proofSetOf_of_two htwo
  have hpositioned : 2 ≤ (positionedProofs (proofSetOf (proofDocument
      { verifiablePresentation := some (.obj members) }))).length :=
    (two_le_positionedProofs_iff hplain).mpr htwo
  rcases (executes_dispatchProofSetVerification rfl hpositioned).mp h with
    ⟨entries, hmap, rfl, halone, hproofs, hcombined⟩
  rw [hset] at hmap hproofs
  rw [hcombined, combineProofOutcomes_accepted_iff, hproofs] at haccepted
  rcases haccepted with ⟨hall, outcome, houtcome, hone, _⟩
  -- A proof that was dispatched alone and accepted is bound.
  have hbound {entry : EntryDispatch} (hentry : entry ∈ entries)
      (hentryAccepted : entry.result.isAccepted = true) :
      BoundProof Valid challenge options.domain (.obj members) entry.positioned.1 := by
    have hmem : entry.positioned ∈ positionedProofs (statedProofs (.obj members)) := by
      rw [← hmap]
      exact List.mem_map_of_mem hentry
    have hentryPlain := hplain _ (mem_positionedProofs.mp ⟨_, hmem⟩).1
    have hentryAnswers : ∀ event ∈ entry.trace, DefaultServiceAnswers platform Valid event := by
      intro event hevent
      exact hanswers event (List.mem_flatMap.mpr ⟨entry, hentry, hevent⟩)
    exact bound_of_copy (bound_of_accepted hchallenge rfl (proofEntries_set_of_plain hentryPlain)
      hentryPlain hentryAnswers (halone entry hentry) hentryAccepted)
  constructor
  · rcases List.mem_map.mp houtcome with ⟨entry, hentry, rfl⟩
    refine ⟨entry.positioned, ?_, hbound hentry hone⟩
    rw [← hmap]
    exact List.mem_map_of_mem hentry
  · intro proof hproof
    rw [← hmap] at hproof
    rcases List.mem_map.mp hproof with ⟨entry, hentry, rfl⟩
    have hmem : positionedOutcome (statedProofs (.obj members)).length entry.positioned
        entry.result ∈ verdict.proofs := by
      rw [hproofs]
      exact List.mem_map.mpr ⟨entry, hentry, rfl⟩
    rcases hall _ (hproofs ▸ hmem) with hentryAccepted | hunsupported
    · exact .inl (hbound hentry hentryAccepted)
    · exact .inr ⟨entry.result, hunsupported, hmem⟩

/-- What an accepted presentation's verdict says of its proofs. -/
theorem proofsBound_of_accepted (hchallenge : options.challenge = some challenge)
    (hproof : documentHasProof (some (.obj members)) = true)
    (hplain : ∀ proof ∈ statedProofs (.obj members), isPlainObject (some proof) = true)
    (hanswers : ∀ event ∈ trace, DefaultServiceAnswers platform Valid event)
    (h : Executes (dispatchProofSetVerification services
      { verifiablePresentation := some (.obj members) } options) trace verdict)
    (haccepted : verdict.combined.isAccepted = true) :
    ProofsBound Valid challenge options.domain (.obj members)
      (NotChecked verdict (statedProofs (.obj members)).length) := by
  by_cases htwo : 2 ≤ (statedProofs (.obj members)).length
  · exact proofsBound_of_set hchallenge htwo hplain hanswers h haccepted
  · have hlength : (statedProofs (.obj members)).length = 1 := by
      rw [documentHasProof, proofEntries_of_plain hplain, decide_eq_true_iff] at hproof
      omega
    rcases List.length_eq_one_iff.mp hlength with ⟨proof, hstated⟩
    apply proofsBound_of_single hchallenge hstated _ hanswers h haccepted
    exact hplain proof (by simp [hstated])

end

end

/-! ## Proofs that were not checked are reported -/

/-- A proof that was not checked has a problem that names it. -/
theorem exists_problem_of_notChecked {verdict : ProofSetDispatchResult} {total : Nat}
    {proof : Json × Nat}
    (h : NotChecked verdict total proof) :
    ∃ problem ∈ (verdict.proofs.filter fun outcome =>
        isUnsupportedProof outcome.result).flatMap problemsOfProof,
      problem.type = ProblemTypes.proofUnsupported ∧ ∃ reason,
        problem.detail = s!"Proof {proof.2} of {total} ({proofLabel proof.1}): " ++ reason := by
  rcases h with ⟨result, hunsupported, hmem⟩
  have hproblem : ∃ problem ∈ problemsOfProof (positionedOutcome total proof result),
      problem.type = ProblemTypes.proofUnsupported ∧ ∃ reason,
        problem.detail = s!"Proof {proof.2} of {total} ({proofLabel proof.1}): " ++ reason := by
    cases result with
    | verified | threw => simp [isUnsupportedProof] at hunsupported
    | noService => exact ⟨_, List.mem_cons_self, rfl, _, rfl⟩
    | rejected problems proofVerified =>
        cases problems with
        | nil => simp [isUnsupportedProof] at hunsupported
        | cons problem rest =>
            simp only [isUnsupportedProof, Bool.and_eq_true, List.all_cons,
              decide_eq_true_eq] at hunsupported
            exact ⟨_, List.mem_cons_self, hunsupported.2.1, _, rfl⟩
  rcases hproblem with ⟨problem, hin, htype, hdetail⟩
  refine ⟨problem, ?_, htype, hdetail⟩
  exact List.mem_flatMap.mpr ⟨_, List.mem_filter.mpr ⟨hmem, hunsupported⟩, hin⟩

/-! ## Verified presentations -/

/-- Valid options name a challenge wherever they name a domain. -/
theorem invalidChallengeOptions_eq_none_iff {call : VerifyPresentationCall} :
    invalidChallengeOptions call = none ↔
      call.challenge ≠ some "" ∧ (call.domain.isSome = true → call.challenge.isSome = true) := by
  unfold invalidChallengeOptions
  by_cases hempty : call.challenge = some ""
  · simp [hempty]
  · cases hdomain : call.domain with
    | none => simp [hempty]
    | some domain => cases hchallenge : call.challenge <;> simp_all

/-- In a run of the presentation's suites without a fatal failure the proofs were
accepted, and those not checked are reported. -/
theorem proofsBound_of_no_fatal {platform : Platform} {Valid : Json → Json → Prop}
    {call : VerifyPresentationCall} {context : VerificationContext} {options : RunSuitesOptions}
    {challenge : String} {members : List (String × Json)} {trace : List PortEvent}
    {rows : List CheckResult} {start stop : ContextStore}
    (hchallenge : context.challenge = some challenge)
    (hproof : documentHasProof (some (.obj members)) = true)
    (hcore : suiteRunsInPhases (coreSuite platform) options.phases = true)
    (hproofs : suiteRunsInPhases (proofSuite platform) options.phases = true)
    (hanswers : ∀ event ∈ trace, DefaultServiceAnswers platform Valid event)
    (h : Executes (runSuites platform (presentationSuites platform call)
      { verifiablePresentation := some (.obj members) } context options start) trace (rows, stop))
    (hfatal : hasFatalFailures rows = false) :
    ProofsBound Valid challenge context.domain (.obj members)
      (ReportedUnsupported rows (statedProofs (.obj members)).length) := by
  have hplain := plain_of_vpStructure (vpStructure_of_no_fatal hcore h hfatal)
  have hsuite : proofSuite platform ∈ presentationSuites platform call := by
    simp [presentationSuites]
  have happlies (check : VerificationCheck)
      (hcheck : check.appliesTo = some [.verifiableCredential, .verifiablePresentation]) :
      appliesToSubject check { verifiablePresentation := some (.obj members) } = true := by
    simp [appliesToSubject, checkAppliesTo, subjectTypes, hcheck]
  have hchecks : (proofSuite platform).checks =
      [] ++ signatureCheck :: unsupportedProofsCheck :: [validityPeriodCheck platform] := rfl
  rcases exists_consecutive h hfatal hsuite hproofs rfl hchecks (happlies signatureCheck rfl)
    (happlies unsupportedProofsCheck rfl) with
    ⟨store, middle, after, events, events', result, result', row, row', hinside, hsignature,
      hunsupported, hrow, _, hflag, houtcome, hrow', hid, houtcome'⟩
  rcases executes_signatureCheck_signed .presentation hproof hsignature with
    ⟨verdict, hdispatch, rfl, hrecorded⟩
  have hreport := executes_unsupportedProofsCheck_recorded rfl hproof hrecorded hunsupported
  have haccepted : verdict.combined.isAccepted = true := by
    have hnot := hasFatalFailures_eq_false_iff.mp hfatal row hrow hflag
    rw [houtcome, outcomeOf, isFailure_signatureOutcome] at hnot
    simpa using hnot
  have hbound := proofsBound_of_accepted hchallenge hproof hplain
    (fun event hevent => hanswers event (hinside.subset hevent)) hdispatch haccepted
  refine ⟨hbound.one, ?_⟩
  intro proof hmem
  rcases hbound.each proof hmem with hproofBound | hnotChecked
  · exact .inl hproofBound
  · right
    rcases exists_problem_of_notChecked hnotChecked with ⟨problem, hproblem, htype, hdetail⟩
    refine ⟨row', hrow', ?_, _, ?_, problem, hproblem, htype, hdetail⟩
    · have hcompute : computeId (some .cryptographic) "proof" "proof.unsupported-proofs" =
          "cryptographic.proof.unsupported-proofs" := by decide
      exact hid.trans hcompute
    · rw [houtcome', hreport, outcomeOf, if_pos (List.length_pos_of_mem hproblem)]

/-- A presentation that is verified was asked for with valid options.  If they name a
challenge and the presentation carries a proof, then one of its proofs is an
authentication proof for the challenge and the domain with a valid signature, and each
other proof is one too or is reported as not checked. -/
theorem verifyPresentation_bound_of_verified {platform : Platform} {config : VerifierConfig}
    {depth : Nat} {Valid : Json → Json → Prop} {call : VerifyPresentationCall}
    {trace : List PortEvent} {result : PresentationVerificationResult}
    (h : Executes (verifyPresentation platform config depth call) trace result)
    (hverified : result.verified = true) :
    (call.challenge ≠ some "" ∧ (call.domain.isSome = true → call.challenge.isSome = true)) ∧
    ∀ presentation challenge, call.presentation = some presentation →
      documentHasProof (some presentation) = true → call.challenge = some challenge →
      (∀ phases, call.phases.or config.phases = some phases → .cryptographic ∈ phases) →
      (∀ event ∈ trace, DefaultServiceAnswers platform Valid event) →
      ProofsBound Valid challenge call.domain presentation
        (ReportedUnsupported result.presentationResults (statedProofs presentation).length) := by
  rcases gates_of_verified h hverified with ⟨hparsed, hoptions⟩
  refine ⟨invalidChallengeOptions_eq_none_iff.mp hoptions, ?_⟩
  intro presentation challenge hpresentation hproof hchallenge hphases hanswers
  rcases exists_members_of_documentHasProof hproof with ⟨members, rfl⟩
  rcases executes_verifyPresentationWith hparsed hoptions h with
    ⟨nowMs, events, rows, store, hsuites, hinside, hrows, _, hverdict⟩
  rw [hverified, Bool.true_eq, Bool.and_eq_true, Bool.not_eq_true'] at hverdict
  rw [hpresentation] at hsuites
  rw [hrows]
  have hrequested {suite : VerificationSuite} (hphase : suite.phase = some .cryptographic) :
      suiteRunsInPhases suite (presentationOptions config call).phases = true :=
    suiteRunsInPhases_expandPhases hphase hphases
  exact proofsBound_of_no_fatal hchallenge hproof (hrequested rfl) (hrequested rfl)
    (fun event hevent => hanswers event (hinside.subset hevent)) hsuites hverdict.1

/-! ### A presentation with a login proof and an assertion -/

namespace LoginPresentation

/-- Bound to the challenge and the domain. -/
def login : Json :=
  .obj [("type", .str "DataIntegrityProof"), ("proofPurpose", .str "authentication"),
    ("challenge", .str "c"), ("domain", .str "example.com"), ("proofValue", .str "signed")]

/-- Asserts something else, under no challenge. -/
def assertion : Json :=
  .obj [("type", .str "DataIntegrityProof"), ("proofPurpose", .str "assertionMethod"),
    ("proofValue", .str "forged")]

/-- The members of a presentation with two proofs of different purposes. -/
def members : List (String × Json) :=
  [("@context", .arr [.str vcContextV2]), ("type", .str "VerifiablePresentation"),
    ("proof", .arr [assertion, login])]

/-- The presentation with the two proofs. -/
def presentation : Json :=
  .obj members

/-- A signature that says it is one. -/
def Valid (_ proof : Json) : Prop :=
  proof.get? "proofValue" = some (.str "signed")

/-- A runtime on which no text is a URL or a date. -/
def platform : Platform :=
  PlatformTable.platform {}

/-- One service is configured. -/
def config : VerifierConfig where
  cryptoServices := [0]

/-- The relying party asks for its challenge and its domain. -/
def call : VerifyPresentationCall where
  presentation := some presentation
  challenge := some "c"
  domain := some "example.com"

/-- The options that the service is asked with. -/
def options : CryptoVerifyOptions where
  challenge := some "c"
  domain := some "example.com"
  now := some 0

/-- The purpose of a presentation's proof by default. -/
def purpose : PresentationPurpose :=
  .authentication "c" (some "example.com")

/-- The copy that carries one of the proofs. -/
def copy (proof : Json) : Json :=
  presentation.set "proof" proof

/-- The library's report that no proof matched. -/
def noMatch : JsValue :=
  .obj true [("name", .str "VerificationError"), ("errors", .arr [.obj true
    [("name", .str "NotFoundError"), ("message", .str jsigsNoMatchMessage)]
    (.ok s!"NotFoundError: {jsigsNoMatchMessage}")])] (.ok "VerificationError")

/-- What the service says of a proof of another purpose. -/
def otherPurpose : ProblemDetail where
  type := ProblemTypes.proofUnsupported
  title := "Unsupported Proof"
  detail := "This proof's purpose (assertionMethod) is not the one being checked (authentication)."

/-- The library skips the assertion, for which a suite would be there. -/
def assertionEvents : List LibraryEvent :=
  [⟨.verifyPresentation (copy assertion) purpose, .ok { verified := some false, error := noMatch }⟩,
    ⟨.matchProof 0 (DataIntegrityCrypto.proofWithContext assertion (copy assertion))
      (copy assertion), .ok true⟩]

/-- The library verifies the login proof. -/
def loginEvents : List LibraryEvent :=
  [⟨.verifyPresentation (copy login) purpose, .ok { verified := some true, error := .undefined }⟩]

/-- The service takes the proof of the other purpose for unsupported, and verifies the second
one. -/
def trace : List PortEvent :=
  [⟨.dateNowMs, (0 : ℚ)⟩,
    ⟨.canVerify 0 { verifiablePresentation := some (copy assertion) }, .ok true⟩,
    ⟨.verifyPresentation 0 (copy assertion) options, .ok (.rejected [otherPurpose] none)⟩,
    ⟨.canVerify 0 { verifiablePresentation := some (copy login) }, .ok true⟩,
    ⟨.verifyPresentation 0 (copy login) options,
      .ok (.verified (some "Signature verified successfully."))⟩]

/-- The presentation is verified. -/
theorem exists_executes : ∃ result,
    Executes (verifyPresentation platform config 0 call) trace result ∧
      result.verified = true := by
  have hreplay : (replay (verifyPresentation platform config 0 call) trace).map
      PresentationVerificationResult.verified = some true := by decide +kernel
  rcases Option.map_eq_some_iff.mp hreplay with ⟨result, hresult, hverified⟩
  exact ⟨result, replay_eq_some_iff.mp hresult, hverified⟩

/-- The default service rejects the first proof. -/
theorem executes_assertion :
    Executes (DataIntegrityCrypto.verifyPresentation platform [0] (copy assertion) options)
      assertionEvents (.rejected [otherPurpose] none) := by
  apply replay_eq_some_iff.mp
  decide +kernel

/-- The default service verifies the second proof. -/
theorem executes_login :
    Executes (DataIntegrityCrypto.verifyPresentation platform [0] (copy login) options)
      loginEvents (.verified (some "Signature verified successfully.")) := by
  apply replay_eq_some_iff.mp
  decide +kernel

/-- A report that no proof matched accepts nothing. -/
theorem librarySound_assertion :
    ∀ event ∈ assertionEvents, LibrarySound platform Valid event := by
  intro event hevent document challenge domain result proof heq _ _ haccepts
  rcases List.mem_cons.mp hevent with rfl | hrest
  · cases heq
    rcases haccepts with hverified | hdates
    · cases hverified
    · rcases hdates with ⟨kind, hkind⟩
      have hnone : classifyDateRejection platform noMatch = .ok none := rfl
      rw [hnone] at hkind
      cases hkind
  · rw [List.mem_singleton.mp hrest] at heq
    cases heq

/-- The login proof is what the library must have seen to verify it. -/
theorem librarySound_login : ∀ event ∈ loginEvents, LibrarySound platform Valid event := by
  intro event hevent document challenge domain result proof heq hentries _ _
  rw [List.mem_singleton.mp hevent] at heq
  cases heq
  have hproof : proofEntries (some (copy login)) = [login] :=
    proofEntries_set_of_plain rfl
  cases hproof.symm.trans hentries
  refine ⟨rfl, rfl, ?_, rfl⟩
  intro d hd
  cases hd
  rfl

/-- The answers of the run are those of the default service. -/
theorem defaultServiceAnswers : ∀ event ∈ trace, DefaultServiceAnswers platform Valid event := by
  intro event hevent service document options answer heq
  simp only [trace, List.mem_cons, List.not_mem_nil, or_false] at hevent
  rcases hevent with rfl | rfl | rfl | rfl | rfl
  · cases heq
  · cases heq
  · cases heq
    exact ⟨[0], _, _, rfl, executes_assertion, librarySound_assertion⟩
  · cases heq
  · cases heq
    exact ⟨[0], _, _, rfl, executes_login, librarySound_login⟩

end LoginPresentation

/-- The login proof is bound; the assertion in front of it is reported. -/
theorem verifyPresentation_bound_login : ∃ result,
    Executes (verifyPresentation LoginPresentation.platform LoginPresentation.config 0
      LoginPresentation.call) LoginPresentation.trace result ∧
    ProofsBound LoginPresentation.Valid "c" (some "example.com") LoginPresentation.presentation
      (ReportedUnsupported result.presentationResults 2) := by
  rcases LoginPresentation.exists_executes with ⟨result, hrun, hverified⟩
  have hbound := @verifyPresentation_bound_of_verified _ _ _ LoginPresentation.Valid _ _ _ hrun
    hverified
  refine ⟨result, hrun, hbound.2 LoginPresentation.presentation "c" rfl (by decide +kernel) rfl ?_
    LoginPresentation.defaultServiceAnswers⟩
  intro phases hphases
  cases hphases

end VerifierCore
