import VerifierCore.Suites.Core

/-!
# The status suite

The bitstring check sorts the `credentialStatus` entries, has the status list
library load the lists of the entries it checks, verifies each list through the
crypto dispatch, and reads the bits.  The lists it verified are recorded for the
check behind it, which compares their issuers with the credential's.

Main results:

- Theorem {lit}`mem_of_recordVerifiedStatusList`: what a record holds.
- Theorem {lit}`executes_verifyStatusLists`: only lists whose dispatch was
  accepted are recorded.
-/

namespace VerifierCore

open Foundations Program

/-! ## Status entries -/

/-- The type of the entries that are asked about. -/
def bitstringEntryType : String :=
  "BitstringStatusListEntry"

/-- The purposes whose set bit means the credential is not currently valid. -/
def checkedStatusPurposes : List String :=
  ["revocation", "suspension"]

/-- The status entries with their pointers. -/
def credentialStatusEntries (credential : Json) : List (Json × PointerSegments) :=
  match credential.get? "credentialStatus" with
  | none => []
  | some status => if status.truthy then asEntries status [.name "credentialStatus"] else []

/-- What the bitstring check does with one entry. -/
inductive StatusEntryClass where
  | checked (entry : Json)
  | otherType (type : String)
  | otherPurpose (purpose : String)
  | malformed (field : Option String) (detail : String)
deriving DecidableEq

/-- The class of an entry: what is wrong with it, or whether it is asked about. -/
def classifyStatusEntry (entry : Json) : StatusEntryClass :=
  if !isPlainObject (some entry) then
    .malformed none "A credentialStatus entry must be an object."
  else
    match stringValues (entry.get? "type") with
    | [] => .malformed (some "type") "A credentialStatus entry must have a string type."
    | type :: types =>
        if bitstringEntryType ∉ type :: types then .otherType type
        else
          match asString (entry.get? "statusPurpose") with
          | none =>
              .malformed (some "statusPurpose")
                s!"A {bitstringEntryType} must have a string statusPurpose."
          | some purpose =>
              if purpose ∉ checkedStatusPurposes then .otherPurpose purpose else .checked entry

/-- The list URLs of the checked entries, in first-seen order. -/
def checkedStatusListUrls (credential : Json) : List String :=
  ((credentialStatusEntries credential).filterMap fun entry =>
    match classifyStatusEntry entry.1 with
    | .checked checked =>
        match asString (checked.get? "statusListCredential") with
        | some url => if url ≠ "" then some url else none
        | none => none
    | _ => none).eraseDups

/-- The entries sorted by what the check does with them. -/
structure SortedStatusEntries where
  empty : Bool
  checked : Nat
  otherTypes : List String
  otherPurposes : List String
  malformed : List ProblemDetail

/-- The problem for an entry that is not whole. -/
def malformedEntryProblem (path : PointerSegments) (detail : String) : ProblemDetail :=
  { type := ProblemTypes.malformedValueError
    title := "Malformed Status Entry"
    detail := detail
    instance? := some (formatJsonPointer path) }

/-- The entries of a credential, sorted by their classes. -/
def sortStatusEntries (credential : Json) : SortedStatusEntries :=
  let entries := credentialStatusEntries credential
  let sorted := entries.map fun entry => (classifyStatusEntry entry.1, entry.2)
  { empty := entries.length = 0
    checked := sorted.countP fun entry =>
      match entry.1 with
      | .checked _ => true
      | _ => false
    otherTypes := sorted.filterMap fun entry =>
      match entry.1 with
      | .otherType type => some type
      | _ => none
    otherPurposes := sorted.filterMap fun entry =>
      match entry.1 with
      | .otherPurpose purpose => some purpose
      | _ => none
    malformed := sorted.filterMap fun entry =>
      match entry.1 with
      | .malformed field detail =>
          let path := match field with
            | none => entry.2
            | some field => entry.2 ++ [.name field]
          some (malformedEntryProblem path detail)
      | _ => none }

/-! ## Messages -/

/-- The legacy status types that are skipped. -/
def legacyStatusTypes : List String :=
  ["StatusList2021Entry", "1EdTechRevocationList"]

/-- Distinct values, quoted and comma-joined. -/
def quoted (values : List String) : String :=
  join ", " (values.eraseDups.map fun v => s!"\"{v}\"")

/-- The sentences naming ignored entries. -/
def uncheckedSuffix (otherTypes otherPurposes : List String) : String :=
  join " "
    ((if otherTypes.length > 0 then [s!"Unchecked status types: {quoted otherTypes}."] else []) ++
      if otherPurposes.length > 0 then
        [s!"Unchecked status purposes: {quoted otherPurposes}."]
      else [])

/-- The skip reason when there are entries but none is checked. -/
def noCheckedEntryReason (otherTypes otherPurposes : List String) : String :=
  if otherPurposes.length = 0 then
    if otherTypes.all (· ∈ legacyStatusTypes) then
      s!"Legacy status type {quoted otherTypes} is not checked."
    else s!"Status type {quoted otherTypes} is not {bitstringEntryType}."
  else if otherTypes.length = 0 then
    s!"{bitstringEntryType} with statusPurpose {quoted otherPurposes} is not checked."
  else
    s!"No revocation or suspension {bitstringEntryType} to check. " ++
      uncheckedSuffix otherTypes otherPurposes

/-! ## Status list proofs -/

/-- The problem for a list whose signature was not accepted. -/
def statusListSignatureProblem (detail : String) : ProblemDetail :=
  { type := ProblemTypes.statusListSignatureError
    title := "Status List Signature Error"
    detail := detail }

/-- How a validity-period rejection of a status list is reported. -/
structure StatusListRejection where
  type : String
  title : String
  phrase : String

/-- The table's own entries.  The names every object inherits are left out: no problem
type of this code is one. -/
def dateRejectionProblems (type : String) : Option StatusListRejection :=
  if type = ProblemTypes.credentialExpired then
    some
      { type := ProblemTypes.statusListExpired
        title := "Status List Expired"
        phrase := "has expired" }
  else if type = ProblemTypes.credentialNotYetValid then
    some
      { type := ProblemTypes.statusListNotYetValid
        title := "Status List Not Yet Valid"
        phrase := "is not yet valid" }
  else none

/-- A dispatch that did not verify, as a status list problem.  For a verified
one there is none. -/
def statusListProofProblems (dispatched : CryptoDispatchResult) (listName : String) :
    List ProblemDetail :=
  match dispatched with
  | .verified _ => []
  | .noService =>
      [statusListSignatureProblem
        "No registered crypto service can verify the status list credential's proof (unsigned list, or suite missing from cryptoServices)."]
  | .threw _ message => [statusListSignatureProblem message]
  | .rejected problems _ =>
      match problems.find? fun problem => (dateRejectionProblems problem.type).isSome with
      | some dated =>
          match dateRejectionProblems dated.type with
          | some text =>
              [{ type := text.type
                 title := text.title
                 detail :=
                  s!"The status list credential {listName} {text.phrase}. {dated.detail}" }]
          | none => []
      | none =>
          [statusListSignatureProblem
            "The status list credential signature could not be verified."]

/-- Start a fresh record of verified lists. -/
def beginStatusListRun (store : ContextStore) : ContextStore :=
  { store with verifiedLists := some [] }

/-- Record a list of the current run; outside a run it is dropped. -/
def recordVerifiedStatusList (store : ContextStore) (url : String) (list : Json) : ContextStore :=
  { store with verifiedLists := store.verifiedLists.map fun lists => (url, list) :: lists }

/-- The lists the current run verified, removed from the record. -/
def takeVerifiedStatusLists (store : ContextStore) : List (String × Json) × ContextStore :=
  (store.verifiedLists.getD [], { store with verifiedLists := none })

/-- The hook on one loaded list: verify its proofs and record it when its proof
verified. -/
def verifyStatusListVia (context : VerificationContext) (loaded : String × Json)
    (store : ContextStore) : Async (List StatusListVerdict × ContextStore) := do
  let verdict ← dispatchProofSetVerification context.cryptoServices
    { verifiableCredential := some loaded.2 } { now := some context.now }
  match verdict.combined with
  | .verified _ =>
      pure ([{ url := loaded.1, problems := none }],
        recordVerifiedStatusList store loaded.1 loaded.2)
  | dispatched =>
      let store' :=
        if dispatched.isAccepted then recordVerifiedStatusList store loaded.1 loaded.2 else store
      pure ([{ url := loaded.1, problems := some (statusListProofProblems dispatched loaded.1) }],
        store')

/-- The hook on every list the library loads. -/
def verifyStatusLists (context : VerificationContext) (loaded : List (String × Json))
    (store : ContextStore) : Async (List StatusListVerdict × ContextStore) :=
  collect (verifyStatusListVia context) loaded store

/-! ## Bitstring status -/

/-- The library's message for a list of another type. -/
def statusTypeError : String :=
  "Status list credential type must include \"BitstringStatusListCredential\"."

/-- The name of a list that is not there. -/
def notFoundError : String :=
  "NotFoundError"

/-- Classify an error of the status list library. -/
def classifyStatusError (error : StatusError) : List ProblemDetail :=
  let message := errorMessage error.error "An error occurred while checking credential status."
  let cause := error.error.get? "cause"
  let causeMember (name : String) := (asString (cause.bind (Json.get? · name))).getD ""
  match error.proofProblems with
  | some problems => problems
  | none =>
      if causeMember "name" = notFoundError || startsWith (causeMember "message") notFoundError then
        [{ type := ProblemTypes.statusListNotFound
           title := "Status List Not Found"
           detail := message }]
      else if startsWith message statusTypeError ||
          startsWith (causeMember "message") statusTypeError then
        [{ type := ProblemTypes.statusListTypeError
           title := "Status List Type Error"
           detail := statusTypeError }]
      else
        [{ type := ProblemTypes.statusListError
           title := "Status List Error"
           detail := message }]

/-- The problem for an entry whose bit is set; quoting it can throw. -/
def setBitProblem (platform : Platform) (entry : Json) : Except Thrown ProblemDetail := do
  let suspended := entry.get? "statusPurpose" = some (.str "suspension")
  let list ← platform.coerceValue (entry.get? "statusListCredential")
  let index ← platform.coerceValue (entry.get? "statusListIndex")
  let marked := if suspended then "suspended" else "revoked"
  .ok
    { type := if suspended then ProblemTypes.credentialSuspended else ProblemTypes.credentialRevoked
      title := if suspended then "Credential Suspended" else "Credential Revoked"
      detail := s!"The status list {list} marks the credential {marked} (index {index})." }

/-- The outcome of a status check that read every bit. -/
def statusOutcome (platform : Platform) (sorted : SortedStatusEntries)
    (results : List StatusEntryResult) : CheckOutcome :=
  let problems := (results.filter fun result => result.status = some (.bool true)).mapM
    fun result => setBitProblem platform (result.credentialStatus.getD (.obj []))
  match problems with
  | .error error => .failure (classifyStatusError { error := error, proofProblems := none })
  | .ok problems =>
      if problems.length > 0 then .failure problems
      else
        let message := "Credential status is valid (not revoked or suspended)."
        let unchecked := uncheckedSuffix sorted.otherTypes sorted.otherPurposes
        .success (if unchecked ≠ "" then s!"{message} {unchecked}" else message)

/-- The check of a credential's status in the lists that its entries name. -/
def bitstringStatusCheck (platform : Platform) : VerificationCheck where
  id := "status.bitstring"
  fatal := some true
  halts := some false
  appliesTo := some [.verifiableCredential]
  execute subject context store :=
    match subject.verifiableCredential.filter Json.truthy with
    | none => pure (.ok (.skipped "No verifiable credential found in subject."), store)
    | some credential =>
        let sorted := sortStatusEntries credential
        if sorted.empty then
          pure (.ok (.skipped "Credential has no credentialStatus."), store)
        else if sorted.malformed.length > 0 then pure (.ok (.failure sorted.malformed), store)
        else if sorted.checked = 0 then
          pure (.ok (.skipped (noCheckedEntryReason sorted.otherTypes sorted.otherPurposes)),
            store)
        else do
          let loaded ← ask (.loadStatusLists credential)
          let verified ← verifyStatusLists context loaded (beginStatusListRun store)
          let read ← ask (.readStatusLists credential verified.1)
          let outcome : CheckOutcome :=
            match read with
            | .error error => .failure (classifyStatusError error)
            | .ok statusResult =>
                match statusResult.error with
                | some error => .failure (classifyStatusError error)
                | none => statusOutcome platform sorted statusResult.results
          pure (.ok outcome, verified.2)

/-! ## List issuer -/

/-- The mismatch of one list's issuer, if it has one. -/
def listIssuerProblem (credentialIssuer : Option String) (url : String) (list : Json) :
    Option ProblemDetail :=
  let listIssuer := credentialIssuerId list
  let listName := listIssuer.getD "(no issuer)"
  let credentialName := credentialIssuer.getD "(no issuer)"
  if listIssuer = none ∨ listIssuer ≠ credentialIssuer then
    some
      { type := ProblemTypes.statusListIssuerMismatch
        title := "Status List Issuer Mismatch"
        detail := s!"The status list {url} is issued by {listName}, not by the credential's issuer {credentialName}." }
  else none

/-- The check that the lists were issued by the issuer of the credential. -/
def statusListIssuerCheck : VerificationCheck where
  id := "status.list-issuer"
  fatal := some false
  appliesTo := some [.verifiableCredential]
  execute subject _ store :=
    match subject.verifiableCredential.filter Json.truthy with
    | none => pure (.ok (.skipped "No verifiable credential found in subject."), store)
    | some credential =>
        let urls := checkedStatusListUrls credential
        if urls.length = 0 then
          pure (.ok (.skipped "No status list was checked." (some "no-list-checked")), store)
        else
          let taken := takeVerifiedStatusLists store
          let problems := urls.filterMap fun url =>
            (taken.1.lookup url).bind (listIssuerProblem (credentialIssuerId credential) url)
          let unestablished := urls.any fun url => (taken.1.lookup url).isNone
          let outcome : CheckOutcome :=
            if problems.length > 0 then .failure problems
            else if unestablished then
              .skipped
                "A status list could not be loaded or its proof did not verify; status.bitstring reports why."
                (some "list-not-verified")
            else .success "Every status list is issued by the credential's issuer."
          pure (.ok outcome, taken.2)

/-- The suite with both checks of the status. -/
def statusSuite (platform : Platform) : VerificationSuite where
  id := "status"
  phase := some .cryptographic
  checks := [bitstringStatusCheck platform, statusListIssuerCheck]

/-! ## The status checks leave the cache alone -/

/-- Verifying the lists does not use the cache. -/
theorem leavesCache_verifyStatusLists (context : VerificationContext)
    (loaded : List (String × Json)) (store : ContextStore) :
    (verifyStatusLists context loaded store).Confined Port.LeavesCache := by
  apply confined_collect
  intro list _ state
  apply Confined.bind (leavesCache_dispatchProofSetVerification _ _ _)
  intro verdict
  split
  · exact confined_pure _
  · exact confined_pure _

/-- The status check does not use the cache. -/
theorem leavesCache_bitstringStatusCheck (platform : Platform) (subject : VerificationSubject)
    (context : VerificationContext) (store : ContextStore) :
    ((bitstringStatusCheck platform).execute subject context store).Confined
      Port.LeavesCache := by
  unfold bitstringStatusCheck
  dsimp only
  split
  · exact confined_pure _
  · split_ifs
    · exact confined_pure _
    · exact confined_pure _
    · exact confined_pure _
    · apply Confined.bind (confined_perform trivial)
      intro loaded
      apply Confined.bind (leavesCache_verifyStatusLists _ _ _)
      intro verified
      apply Confined.bind (confined_perform trivial)
      intro read
      exact confined_pure _

/-- The check of the lists' issuers does not use the cache. -/
theorem leavesCache_statusListIssuerCheck (subject : VerificationSubject)
    (context : VerificationContext) (store : ContextStore) :
    (statusListIssuerCheck.execute subject context store).Confined Port.LeavesCache := by
  unfold statusListIssuerCheck
  dsimp only
  split
  · exact confined_pure _
  · split
    · exact confined_pure _
    · exact confined_pure _

/-! ## What is recorded -/

/-- Recording a list adds that list to the record and nothing else. -/
theorem mem_of_recordVerifiedStatusList {store : ContextStore} {url url' : String}
    {list list' : Json}
    (h : (url', list') ∈ (recordVerifiedStatusList store url list).verifiedLists.getD []) :
    (url', list') = (url, list) ∨ (url', list') ∈ store.verifiedLists.getD [] := by
  unfold recordVerifiedStatusList at h
  cases hlists : store.verifiedLists with
  | none => simp [hlists] at h
  | some lists => simpa [hlists] using h

/-- The hook records a list only if the dispatch of its proofs was accepted. -/
theorem executes_verifyStatusListVia {context : VerificationContext} {loaded : String × Json}
    {store store' : ContextStore} {trace : List PortEvent} {verdicts : List StatusListVerdict}
    (h : Executes (verifyStatusListVia context loaded store) trace (verdicts, store')) :
    ∃ verdict, Executes (dispatchProofSetVerification context.cryptoServices
        { verifiableCredential := some loaded.2 } { now := some context.now }) trace verdict ∧
      store' = if verdict.combined.isAccepted then
        recordVerifiedStatusList store loaded.1 loaded.2 else store := by
  rcases executes_bind_iff.mp h with ⟨first, second, verdict, rfl, hdispatch, hrest⟩
  refine ⟨verdict, ?_, ?_⟩
  · cases hcombined : verdict.combined with
    | verified | rejected | noService | threw =>
        simp only [hcombined, executes_pure_iff] at hrest
        simpa [hrest.1] using hdispatch
  · cases hcombined : verdict.combined with
    | verified | rejected | noService | threw =>
        simp only [hcombined, executes_pure_iff, Prod.mk.injEq] at hrest
        simp [hrest.2.2, CryptoDispatchResult.isAccepted]

/-- Every recorded list was loaded in this run and had its proofs accepted, by a dispatch
of this run. -/
theorem executes_verifyStatusLists {context : VerificationContext}
    {loaded : List (String × Json)} {store store' : ContextStore} {trace : List PortEvent}
    {verdicts : List StatusListVerdict}
    (h : Executes (verifyStatusLists context loaded store) trace (verdicts, store')) :
    ∀ recorded ∈ store'.verifiedLists.getD [],
      recorded ∈ store.verifiedLists.getD [] ∨
        recorded ∈ loaded ∧ ∃ listTrace verdict, listTrace <:+: trace ∧
          Executes (dispatchProofSetVerification context.cryptoServices
            { verifiableCredential := some recorded.2 } { now := some context.now })
            listTrace verdict ∧ verdict.combined.isAccepted = true := by
  rcases executes_collect_iff.mp h with ⟨rounds, hrounds, rfl, htrace, _⟩
  have hinvariant := hrounds.invariant
    (I := fun seen state => ∀ recorded ∈ state.verifiedLists.getD [],
      recorded ∈ store.verifiedLists.getD [] ∨
        recorded ∈ rounds.map Round.item ∧ ∃ listTrace verdict, listTrace <:+: trace ∧
          Executes (dispatchProofSetVerification context.cryptoServices
            { verifiableCredential := some recorded.2 } { now := some context.now })
            listTrace verdict ∧ verdict.combined.isAccepted = true)
    (by
      intro seen round hround hstart hruns recorded hrecorded
      rcases executes_verifyStatusListVia hruns with ⟨verdict, hdispatch, hstop⟩
      rw [hstop] at hrecorded
      split at hrecorded
      · rename_i haccepted
        rcases mem_of_recordVerifiedStatusList hrecorded with hnew | hold
        · have hitem : recorded = round.item := hnew
          have hinfix : round.events <:+: trace := by
            rw [htrace]
            exact List.infix_of_mem_flatten (List.mem_map_of_mem hround)
          rw [hitem]
          exact .inr ⟨List.mem_map_of_mem hround, round.events, verdict, hinfix, hdispatch,
            haccepted⟩
        · exact hstart recorded hold
      · exact hstart recorded hrecorded)
    (fun recorded hrecorded => .inl hrecorded)
  exact hinvariant

end VerifierCore
