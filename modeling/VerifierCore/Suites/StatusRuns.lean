import VerifierCore.Suites.Status

/-!
# Runs of the status checks on one context

The bitstring check leaves the lists it verified in the records of the context, and
the list issuer check takes them out again.  The bitstring check drops what an
earlier run left only when it is about to fetch, so a run that stops before that
point leaves the lists of the run before it to be read.

Main results:

- Theorem {lit}`executes_statusListIssuerCheck`: the outcome of the list issuer check
  depends on the lists it compares only.
- Theorem {lit}`statusRun_readsFresh`: the runs in which only lists of the latest
  bitstring execution are compared.
-/

namespace VerifierCore

open Foundations Program

/-! ## Executions on one context -/

/-- The two checks of the status suite. -/
inductive StatusCheck where
  | bitstring
  | listIssuer
deriving DecidableEq

/-- The check as the suite has it. -/
def StatusCheck.check (platform : Platform) : StatusCheck → VerificationCheck
  | .bitstring => bitstringStatusCheck platform
  | .listIssuer => statusListIssuerCheck

/-- One call of a status check. -/
structure StatusCall where
  check : StatusCheck
  subject : VerificationSubject

/-- Execute a check on the records the execution before it left. -/
def executeStatusCheck (platform : Platform) (context : VerificationContext) (call : StatusCall)
    (store : ContextStore) : Async (List (Except Thrown CheckOutcome) × ContextStore) := do
  let executed ← (call.check.check platform).execute call.subject context store
  pure ([executed.1], executed.2)

/-- One execution in a sequence of them. -/
abbrev StatusExecution : Type :=
  Round Port Port.Answer StatusCall (Except Thrown CheckOutcome) ContextStore

/-- The execution recorded the list: it had the library load it, and among the calls
behind the load the list's proofs were dispatched and accepted. -/
def Records (context : VerificationContext) (execution : StatusExecution)
    (list : String × Json) : Prop :=
  ∃ credential loaded rest, execution.events = ⟨.loadStatusLists credential, loaded⟩ :: rest ∧
    list ∈ loaded ∧ ∃ dispatch verdict, dispatch <:+: rest ∧
      Executes (dispatchProofSetVerification context.cryptoServices
        { verifiableCredential := some list.2 } { now := some context.now }) dispatch verdict ∧
      verdict.combined.isAccepted = true

/-- The lists a list issuer check finds for the credential's entries. -/
def listsCompared (credential : Json) (lists : List (String × Json)) : List (String × Json) :=
  (checkedStatusListUrls credential).filterMap fun url =>
    (lists.lookup url).map fun list => (url, list)

/-- The lists an execution compares with the credential. -/
def comparedLists (execution : StatusExecution) : List (String × Json) :=
  match execution.item.check, execution.item.subject.verifiableCredential.filter Json.truthy with
  | .listIssuer, some credential =>
      listsCompared credential (execution.start.verifiedLists.getD [])
  | _, _ => []

/-- The last bitstring execution of a sequence. -/
def latestBitstring (executions : List StatusExecution) : Option StatusExecution :=
  (executions.filter fun execution => execution.item.check = .bitstring).getLast?

/-- The outcome of the list issuer check on the lists it found. -/
def listIssuerOutcome (credential : Json) (compared : List (String × Json)) : CheckOutcome :=
  let urls := checkedStatusListUrls credential
  let problems := compared.filterMap fun list =>
    listIssuerProblem (credentialIssuerId credential) list.1 list.2
  if urls.length = 0 then .skipped "No status list was checked." (some "no-list-checked")
  else if problems.length > 0 then .failure problems
  else if compared.length < urls.length then
    .skipped
      "A status list could not be loaded or its proof did not verify; status.bitstring reports why."
      (some "list-not-verified")
  else .success "Every status list is issued by the credential's issuer."

/-- A list issuer execution answers from the lists it compares, and each of these was
recorded by the latest bitstring execution in front of it. -/
def ReadsFresh (context : VerificationContext) (executions : List StatusExecution) : Prop :=
  ∀ before execution after, executions = before ++ execution :: after →
    (∀ credential, execution.item.check = .listIssuer →
      execution.item.subject.verifiableCredential.filter Json.truthy = some credential →
        execution.output = [.ok (listIssuerOutcome credential (comparedLists execution))]) ∧
    ∀ list ∈ comparedLists execution,
      ∃ latest, latestBitstring before = some latest ∧ Records context latest list

/-! ## What a comparison depends on -/

/-- Some list is missing exactly when fewer lists are compared than URLs are named. -/
theorem any_isNone_iff (lists : List (String × Json)) (urls : List String) :
    (urls.any fun url => (lists.lookup url).isNone) = true ↔
      (urls.filterMap fun url => (lists.lookup url).map fun list => (url, list)).length <
        urls.length := by
  induction urls with
  | nil => simp
  | cons url urls ih =>
      have hle := List.length_filterMap_le
        (fun url => (lists.lookup url).map fun list => (url, list)) urls
      rw [List.any_cons, Bool.or_eq_true, ih]
      cases hlookup : lists.lookup url with
      | none =>
          rw [List.filterMap_cons_none (by simp [hlookup])]
          simp only [Option.isNone_none, true_or, List.length_cons, true_iff]
          omega
      | some list =>
          rw [List.filterMap_cons_some (b := (url, list)) (by simp [hlookup])]
          simp

/-- The list issuer check reads the compared lists and nothing else of the records. -/
theorem executes_statusListIssuerCheck {subject : VerificationSubject}
    {context : VerificationContext} {store store' : ContextStore} {trace : List PortEvent}
    {result : Except Thrown CheckOutcome} {credential : Json}
    (hcredential : subject.verifiableCredential.filter Json.truthy = some credential)
    (h : Executes (statusListIssuerCheck.execute subject context store) trace (result, store')) :
    result = .ok (listIssuerOutcome credential
      (listsCompared credential (store.verifiedLists.getD []))) := by
  unfold statusListIssuerCheck at h
  dsimp only at h
  rw [hcredential] at h
  dsimp only at h
  unfold listIssuerOutcome listsCompared
  split at h
  · rename_i hempty
    rw [if_pos hempty]
    exact (Prod.mk.inj (executes_pure_iff.mp h).2).1
  · rename_i hurls
    rw [if_neg hurls]
    have hresult := (Prod.mk.inj (executes_pure_iff.mp h).2).1
    simp only [takeVerifiedStatusLists, any_isNone_iff] at hresult
    rw [hresult, List.filterMap_filterMap]
    simp only [Option.bind_map, Function.comp_def]

/-! ## One execution -/

/-- The bitstring check returns before it fetches a list: there is no credential, or
none of its entries is checked, or one is malformed. -/
def StopsBeforeFetching (subject : VerificationSubject) : Prop :=
  ∀ credential, subject.verifiableCredential.filter Json.truthy = some credential →
    (sortStatusEntries credential).empty = true ∨
      (sortStatusEntries credential).malformed.length > 0 ∨
      (sortStatusEntries credential).checked = 0

/-- A bitstring execution that stops before it fetches finds no list in the records. -/
def NoListsLeft (execution : StatusExecution) : Prop :=
  execution.item.check = .bitstring → StopsBeforeFetching execution.item.subject →
    execution.start.verifiedLists.getD [] = []

/-- An execution is one of its check, whose outcome it emits. -/
theorem executes_executeStatusCheck {platform : Platform} {context : VerificationContext}
    {call : StatusCall} {store store' : ContextStore} {trace : List PortEvent}
    {outcomes : List (Except Thrown CheckOutcome)}
    (h : Executes (executeStatusCheck platform context call store) trace (outcomes, store')) :
    ∃ result, outcomes = [result] ∧
      Executes ((call.check.check platform).execute call.subject context store) trace
        (result, store') := by
  rcases executes_bind_iff.mp h with ⟨first, second, executed, rfl, hexecuted, hrest⟩
  simp only [executes_pure_iff, Prod.mk.injEq] at hrest
  rcases hrest with ⟨rfl, rfl, rfl⟩
  exact ⟨executed.1, rfl, by simpa using hexecuted⟩

/-- A bitstring execution leaves the records alone, or loads lists first and has them
verified into a fresh record. -/
theorem executes_bitstringStatusCheck {platform : Platform} {subject : VerificationSubject}
    {context : VerificationContext} {store store' : ContextStore} {trace : List PortEvent}
    {result : Except Thrown CheckOutcome}
    (h : Executes ((bitstringStatusCheck platform).execute subject context store) trace
      (result, store')) :
    (StopsBeforeFetching subject ∧ store' = store) ∨
      ∃ credential loaded verifying reading verdicts,
        trace = ⟨.loadStatusLists credential, loaded⟩ :: (verifying ++ reading) ∧
        Executes (verifyStatusLists context loaded (beginStatusListRun store)) verifying
          (verdicts, store') := by
  unfold bitstringStatusCheck at h
  dsimp only at h
  split at h
  · rename_i hnone
    refine .inl ⟨fun credential hcredential => ?_, (Prod.mk.inj (executes_pure_iff.mp h).2).2⟩
    rw [hnone] at hcredential
    cases hcredential
  · rename_i credential hsome
    have hstops (hentries : (sortStatusEntries credential).empty = true ∨
        (sortStatusEntries credential).malformed.length > 0 ∨
        (sortStatusEntries credential).checked = 0) : StopsBeforeFetching subject := by
      intro credential' hcredential'
      rw [hsome] at hcredential'
      cases hcredential'
      exact hentries
    split_ifs at h with hempty hmalformed hchecked
    · exact .inl ⟨hstops (.inl hempty), (Prod.mk.inj (executes_pure_iff.mp h).2).2⟩
    · exact .inl ⟨hstops (.inr (.inl hmalformed)), (Prod.mk.inj (executes_pure_iff.mp h).2).2⟩
    · exact .inl ⟨hstops (.inr (.inr hchecked)), (Prod.mk.inj (executes_pure_iff.mp h).2).2⟩
    · rcases executes_ask_bind_iff.mp h with ⟨loaded, _, rfl, hloaded⟩
      rcases executes_bind_iff.mp hloaded with ⟨verifying, reading, verified, rfl, hverify, hread⟩
      rcases executes_ask_bind_iff.mp hread with ⟨read, _, _, hpure⟩
      have hstore : store' = verified.2 := (Prod.mk.inj (executes_pure_iff.mp hpure).2).2
      rw [hstore]
      exact .inr ⟨credential, loaded, verifying, reading, verified.1, rfl, hverify⟩

/-- Behind a fetch the records hold what the execution recorded. -/
theorem records_of_executes_bitstringStatusCheck {platform : Platform}
    {context : VerificationContext} {execution : StatusExecution}
    {result : Except Thrown CheckOutcome}
    (h : Executes ((bitstringStatusCheck platform).execute execution.item.subject context
      execution.start) execution.events (result, execution.stop))
    (hnone : StopsBeforeFetching execution.item.subject →
      execution.start.verifiedLists.getD [] = []) :
    ∀ list ∈ execution.stop.verifiedLists.getD [], Records context execution list := by
  intro list hlist
  rcases executes_bitstringStatusCheck h with
    ⟨hstops, hstore⟩ | ⟨credential, loaded, verifying, reading, verdicts, htrace, hverify⟩
  · -- Nothing was left, and nothing was recorded.
    rw [hstore, hnone hstops] at hlist
    cases hlist
  · rcases executes_verifyStatusLists hverify list hlist with
      hbefore | ⟨hloaded, dispatch, verdict, hinfix, hdispatch, haccepted⟩
    · -- The record began empty.
      cases hbefore
    · exact ⟨credential, loaded, verifying ++ reading, htrace, hloaded, dispatch, verdict,
        hinfix.trans (List.prefix_append verifying reading).isInfix, hdispatch, haccepted⟩

/-- A list issuer execution leaves the records alone or takes every list out. -/
theorem store_of_statusListIssuerCheck {subject : VerificationSubject}
    {context : VerificationContext} {store store' : ContextStore} {trace : List PortEvent}
    {result : Except Thrown CheckOutcome}
    (h : Executes (statusListIssuerCheck.execute subject context store) trace (result, store')) :
    store' = store ∨ store'.verifiedLists = none := by
  unfold statusListIssuerCheck at h
  dsimp only at h
  split at h
  · exact .inl (Prod.mk.inj (executes_pure_iff.mp h).2).2
  · split at h
    · exact .inl (Prod.mk.inj (executes_pure_iff.mp h).2).2
    · right
      rw [(Prod.mk.inj (executes_pure_iff.mp h).2).2]
      rfl

/-- What is compared is in the records. -/
theorem mem_store_of_mem_comparedLists {execution : StatusExecution} {list : String × Json}
    (h : list ∈ comparedLists execution) : list ∈ execution.start.verifiedLists.getD [] := by
  unfold comparedLists at h
  split at h
  · rcases List.mem_filterMap.mp h with ⟨url, _, hlookup⟩
    rcases Option.map_eq_some_iff.mp hlookup with ⟨document, hdocument, rfl⟩
    exact List.lookup_eq_some_iff.mp hdocument |>.elim fun before hsplit => by
      rcases hsplit with ⟨after, heq, _⟩
      rw [heq]
      simp
  · cases h

/-! ## Runs -/

/-- Every list in the records was recorded by the latest bitstring execution. -/
def LeftByLatest (context : VerificationContext) (executions : List StatusExecution)
    (store : ContextStore) : Prop :=
  ∀ list ∈ store.verifiedLists.getD [],
    ∃ latest, latestBitstring executions = some latest ∧ Records context latest list

/-- A bitstring execution is the latest behind itself. -/
theorem latestBitstring_concat_bitstring {executions : List StatusExecution}
    {execution : StatusExecution} (h : execution.item.check = .bitstring) :
    latestBitstring (executions ++ [execution]) = some execution := by
  simp [latestBitstring, h]

/-- A list issuer execution leaves the latest bitstring execution what it was. -/
theorem latestBitstring_concat_listIssuer {executions : List StatusExecution}
    {execution : StatusExecution} (h : execution.item.check = .listIssuer) :
    latestBitstring (executions ++ [execution]) = latestBitstring executions := by
  simp [latestBitstring, h]

/-- An execution keeps the records to the lists of the latest bitstring execution. -/
theorem leftByLatest_step {platform : Platform} {context : VerificationContext}
    {executions : List StatusExecution} {execution : StatusExecution}
    (hleft : LeftByLatest context executions execution.start)
    (hruns : execution.Runs (executeStatusCheck platform context))
    (hnone : NoListsLeft execution) :
    LeftByLatest context (executions ++ [execution]) execution.stop := by
  intro list hlist
  rcases executes_executeStatusCheck hruns with ⟨result, _, hexecuted⟩
  cases hcheck : execution.item.check with
  | bitstring =>
      rw [hcheck] at hexecuted
      exact ⟨execution, latestBitstring_concat_bitstring hcheck,
        records_of_executes_bitstringStatusCheck hexecuted (hnone hcheck) list hlist⟩
  | listIssuer =>
      rw [hcheck] at hexecuted
      rw [latestBitstring_concat_listIssuer hcheck]
      rcases store_of_statusListIssuerCheck hexecuted with hstore | htaken
      · rw [hstore] at hlist
        exact hleft list hlist
      · rw [htaken] at hlist
        cases hlist

/-- A list issuer execution answers from the lists it compares. -/
theorem output_of_listIssuer {platform : Platform} {context : VerificationContext}
    {execution : StatusExecution} {credential : Json}
    (hcheck : execution.item.check = .listIssuer)
    (hcredential : execution.item.subject.verifiableCredential.filter Json.truthy =
      some credential)
    (hruns : execution.Runs (executeStatusCheck platform context)) :
    execution.output = [.ok (listIssuerOutcome credential (comparedLists execution))] := by
  rcases executes_executeStatusCheck hruns with ⟨result, houtput, hexecuted⟩
  rw [hcheck] at hexecuted
  rw [houtput, executes_statusListIssuerCheck hcredential hexecuted]
  simp only [comparedLists, hcheck, hcredential]

/-- As long as no bitstring execution stops before fetching with lists still in the
records, every list issuer execution compares lists of the latest bitstring execution
only. -/
theorem statusRun_readsFresh {platform : Platform} {context : VerificationContext}
    {start stop : ContextStore} {executions : List StatusExecution}
    (hstart : start.verifiedLists = none)
    (hruns : Rounds (executeStatusCheck platform context) start executions stop)
    (hnone : ∀ execution ∈ executions, NoListsLeft execution) :
    ReadsFresh context executions := by
  intro before execution after hsplit
  subst hsplit
  rcases Rounds.split hruns with ⟨hbefore, hexecution, _⟩
  refine ⟨fun credential hcheck hcredential =>
    output_of_listIssuer hcheck hcredential hexecution, fun list hlist => ?_⟩
  have hleft : LeftByLatest context before execution.start := by
    refine hbefore.invariant (I := LeftByLatest context) ?_ ?_
    · intro earlier other hother hleft hother_runs
      exact leftByLatest_step hleft hother_runs (hnone other (by simp [hother]))
    · intro other hother
      rw [hstart] at hother
      cases hother
  exact hleft list (mem_store_of_mem_comparedLists hlist)

/-! ### A list that is left over -/

namespace LeftoverList

/-- A status list of another issuer. -/
def list : Json :=
  .obj [("issuer", .str "did:example:other"), ("proof", .obj [("type", .str "DataIntegrityProof")])]

/-- A status entry in one list. -/
def entry (more : List (String × Json)) : Json :=
  .obj ([("type", .str bitstringEntryType), ("statusListCredential", .str "https://list")] ++ more)

/-- An entry that is asked about. -/
def checkedEntry : Json :=
  entry [("statusPurpose", .str "revocation")]

/-- A credential whose list is fetched. -/
def fetching : Json :=
  .obj [("issuer", .str "did:example:other"), ("credentialStatus", checkedEntry)]

/-- A credential with the same list, and an entry behind it that is malformed. -/
def stopping : Json :=
  .obj [("issuer", .str "did:example:issuer"), ("credentialStatus", .arr [checkedEntry, entry []])]

/-- A runtime without URLs and dates. -/
def platform : Platform :=
  PlatformTable.platform {}

/-- One crypto service, which accepts the list. -/
def context : VerificationContext where
  cryptoServices := [0]

/-- The store once the list is recorded. -/
def recorded : ContextStore where
  verifiedLists := some [("https://list", list)]

/-- The first credential's list is fetched and recorded. -/
def first : StatusExecution where
  item := ⟨.bitstring, { verifiableCredential := some fetching }⟩
  start := {}
  events :=
    [⟨.loadStatusLists fetching, [("https://list", list)]⟩,
      ⟨.canVerify 0 { verifiableCredential := some list }, .ok true⟩,
      ⟨.verifyCredential 0 list { now := some 0 }, .ok (.verified none)⟩,
      ⟨.readStatusLists fetching [⟨"https://list", none⟩], .ok ⟨none, []⟩⟩]
  output := [.ok (.success "Credential status is valid (not revoked or suspended).")]
  stop := recorded

/-- The second one's status is malformed. -/
def second : StatusExecution where
  item := ⟨.bitstring, { verifiableCredential := some stopping }⟩
  start := recorded
  events := []
  output := [.ok (.failure (sortStatusEntries stopping).malformed)]
  stop := recorded

/-- Its list issuer check compares the list of the first. -/
def third : StatusExecution where
  item := ⟨.listIssuer, { verifiableCredential := some stopping }⟩
  start := recorded
  events := []
  output := [.ok (listIssuerOutcome stopping [("https://list", list)])]
  stop := {}

theorem rounds : Rounds (executeStatusCheck platform context) {} [first, second, third] {} := by
  refine .cons rfl ?_ (.cons rfl ?_ (.cons rfl ?_ (.nil _)))
  · exact replay_eq_some_iff.mp rfl
  · exact replay_eq_some_iff.mp rfl
  · exact replay_eq_some_iff.mp rfl

/-- The first credential's own list issuer check. -/
def comparing : StatusExecution where
  item := ⟨.listIssuer, { verifiableCredential := some fetching }⟩
  start := recorded
  events := []
  output := [.ok (listIssuerOutcome fetching [("https://list", list)])]
  stop := {}

end LeftoverList

/-- A list issuer check compares a list that an execution before the latest one
recorded. -/
theorem leftoverList_compared :
    ¬∀ (platform : Platform) (context : VerificationContext) (start stop : ContextStore)
      (executions : List StatusExecution), start.verifiedLists = none →
      Rounds (executeStatusCheck platform context) start executions stop →
      ReadsFresh context executions := by
  intro hall
  have hfresh := hall _ _ _ _ _ rfl LeftoverList.rounds
  have hread : ("https://list", LeftoverList.list) ∈ comparedLists LeftoverList.third := by
    decide
  obtain ⟨latest, hlatest, hrecords⟩ := (hfresh [LeftoverList.first, LeftoverList.second]
    LeftoverList.third [] rfl).2 _ hread
  have hsecond : latestBitstring [LeftoverList.first, LeftoverList.second] =
      some LeftoverList.second := rfl
  rw [hsecond] at hlatest
  cases hlatest
  -- The second execution asked for nothing.
  obtain ⟨_, _, _, hevents, _⟩ := hrecords
  cases hevents

/-- The comparison right behind a fetch is of the list it recorded. -/
theorem statusRun_readsFresh_comparing :
    ReadsFresh LeftoverList.context [LeftoverList.first, LeftoverList.comparing] := by
  have hruns : Rounds (executeStatusCheck LeftoverList.platform LeftoverList.context) {}
      [LeftoverList.first, LeftoverList.comparing] {} :=
    .cons rfl (replay_eq_some_iff.mp rfl) (.cons rfl (replay_eq_some_iff.mp rfl) (.nil _))
  apply statusRun_readsFresh rfl hruns
  intro execution hexecution hcheck _
  simp only [List.mem_cons, List.not_mem_nil, or_false] at hexecution
  rcases hexecution with rfl | rfl
  · rfl
  · cases hcheck

end VerifierCore
