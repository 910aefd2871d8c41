import VerifierCore.Registries.Lookup
import VerifierCore.Suites.Registry

/-!
# The issuer registry check on a plain lookup

The check infers from counts which registries answered, and the lookup it counts on
stops at the first match.  What the check reports is stated here by the registries'
answers, in the order of the list; the answers of registries behind the first match
are not asked for and play no part.

Main results:

- Theorem {lit}`Walked.report_eq`: what a plain walk reports of the answers.
- Theorem {lit}`issuerRegistryCheck_answers`: what the lookup returns and the check
  reports of them.
-/

namespace VerifierCore

open Foundations Program

/-! ## Registries and their answers -/

/-- Registries in the order of their list, each with its answer. -/
abbrev AnsweredRegistries : Type :=
  List (EntityIdentityRegistry × HandlerResult)

/-- The registry lists the issuer. -/
def HandlerResult.isFound : HandlerResult → Bool
  | .found _ => true
  | _ => false

/-- The first registry that lists the issuer. -/
def firstMatch (answered : AnsweredRegistries) : Option RegistryMatch :=
  answered.findSome? fun entry =>
    match entry.2 with
    | .found entity => some { registry := registryReference entry.1, entity := entity }
    | _ => none

/-- The registries in front of the first match that could not be checked. -/
def uncheckedAhead (answered : AnsweredRegistries) : List RegistryReference :=
  ((answered.takeWhile fun entry => !entry.2.isFound).filter
    fun entry => entry.2 = .unchecked).map fun entry => registryReference entry.1

/-- What a plain lookup makes of the answers. -/
def lookupOfAnswers (answered : AnsweredRegistries) : RegistryLookupResult :=
  { matchesFound := (firstMatch answered).toList
    uncheckedRegistries := uncheckedAhead answered
    found := (firstMatch answered).isSome }

/-- The visits asked the first registries of the list and were given these answers. -/
def VisitsAnswered (answered : AnsweredRegistries) (visits : List Visit) : Prop :=
  visits.map (fun visit => (visit.registry, visit.outcome)) <+:
    answered.map fun entry => (entry.1, .ok entry.2)

/-- The first visit asked the first registry, and the others the rest. -/
theorem visitsAnswered_cons_iff {entry : EntityIdentityRegistry × HandlerResult}
    {answered : AnsweredRegistries} {visit : Visit} {visits : List Visit} :
    VisitsAnswered (entry :: answered) (visit :: visits) ↔
      visit.registry = entry.1 ∧ visit.outcome = .ok entry.2 ∧ VisitsAnswered answered visits := by
  simp [VisitsAnswered, List.cons_prefix_cons, and_assoc]

/-- A plain walk reports the first match and the registries in front of it that could
not be checked. -/
theorem Walked.report_eq {registries : List EntityIdentityRegistry} {visits : List Visit}
    {answered : AnsweredRegistries} (h : Walked false registries visits)
    (hregistries : answered.map Prod.fst = registries)
    (hanswers : VisitsAnswered answered visits) :
    reportVisits visits =
      { matchesFound := (firstMatch answered).toList
        uncheckedRegistries := uncheckedAhead answered } := by
  induction h generalizing answered with
  | done =>
      rw [List.map_eq_nil_iff] at hregistries
      subst hregistries
      rfl
  | stopped visit _ hmatch =>
      cases answered with
      | nil => cases hregistries
      | cons entry answered =>
          rcases visitsAnswered_cons_iff.mp hanswers with ⟨hregistry, houtcome, _⟩
          cases hanswer : entry.2 with
          | found entity =>
              rw [hanswer] at houtcome
              simp [reportVisits, Visit.matchFound?, Visit.unchecked?, houtcome, firstMatch,
                uncheckedAhead, hanswer, HandlerResult.isFound, hregistry]
          | notFound | unchecked =>
              rw [hanswer] at houtcome
              simp [Visit.matchFound?, houtcome] at hmatch
  | @next visit rest visits _ hgoesOn _ ih =>
      cases answered with
      | nil => cases hregistries
      | cons entry answered =>
          rcases visitsAnswered_cons_iff.mp hanswers with ⟨hregistry, houtcome, hothers⟩
          have hrest := ih (List.cons.inj hregistries).2 hothers
          simp only [reportVisits, RegistryCheckPayload.mk.injEq] at hrest
          cases hanswer : entry.2 with
          | found entity =>
              rw [hanswer] at houtcome
              simp [Visit.matchFound?, houtcome] at hgoesOn
          | notFound | unchecked =>
              rw [hanswer] at houtcome
              simp [reportVisits, Visit.matchFound?, Visit.unchecked?, houtcome, firstMatch,
                uncheckedAhead, hanswer, HandlerResult.isFound, hregistry, hrest]

/-- There is a first match exactly if some registry answers found. -/
theorem isSome_firstMatch_iff {answered : AnsweredRegistries} :
    (firstMatch answered).isSome = true ↔ ∃ entry ∈ answered, entry.2.isFound = true := by
  rw [firstMatch, List.findSome?_isSome_iff]
  constructor
  · rintro ⟨entry, hmem, hsome⟩
    refine ⟨entry, hmem, ?_⟩
    cases hanswer : entry.2 with
    | found => rfl
    | notFound | unchecked => simp [hanswer] at hsome
  · rintro ⟨entry, hmem, hfound⟩
    refine ⟨entry, hmem, ?_⟩
    cases hanswer : entry.2 with
    | found => rfl
    | notFound | unchecked => simp [hanswer, HandlerResult.isFound] at hfound

/-- Without a match every registry is asked. -/
theorem uncheckedAhead_of_no_match {answered : AnsweredRegistries}
    (h : ∀ entry ∈ answered, entry.2.isFound = false) :
    uncheckedAhead answered = (answered.filter fun entry => entry.2 = .unchecked).map
      fun entry => registryReference entry.1 := by
  have hall : (answered.takeWhile fun entry => !entry.2.isFound) = answered := by
    rw [List.takeWhile_eq_self_iff]
    intro entry hmem
    simp [h entry hmem]
  rw [uncheckedAhead, hall]

/-! ## What the check reports -/

/-- The types of an outcome's problems. -/
def CheckOutcome.problemTypes : CheckOutcome → List String
  | .failure problems _ => problems.map ProblemDetail.type
  | _ => []

/-- What the check should report of the answers: a success exactly if some registry
lists the issuer; that it could not be determined, exactly if no registry could be
checked; and otherwise that the issuer is not registered, and behind it that some
registries could not be checked if there are any. -/
structure ReportsAnswers (answered : AnsweredRegistries) (outcome : CheckOutcome) : Prop where
  success : outcome.isSuccess = true ↔ ∃ entry ∈ answered, entry.2.isFound = true
  undetermined : outcome.problemTypes = [ProblemTypes.registryUnchecked] ↔
    ∀ entry ∈ answered, entry.2 = .unchecked
  notRegistered : (∀ entry ∈ answered, entry.2.isFound = false) →
    (∃ entry ∈ answered, entry.2 ≠ .unchecked) →
    outcome.problemTypes = ProblemTypes.issuerNotRegistered ::
      if ∃ entry ∈ answered, entry.2 = .unchecked then [ProblemTypes.registryUnchecked] else []
  justified : ProblemTypes.issuerNotRegistered ∈ outcome.problemTypes →
    ∃ entry ∈ answered, entry.2 = .notFound

/-- A match is a success without problems. -/
theorem registryOutcome_of_found (issuerDid : String) (registries : List EntityIdentityRegistry)
    {result : RegistryLookupResult} (h : result.found = true) :
    (registryOutcome issuerDid registries result).isSuccess = true ∧
      (registryOutcome issuerDid registries result).problemTypes = [] := by
  unfold registryOutcome
  dsimp only
  rw [if_pos h]
  exact ⟨rfl, rfl⟩

/-- Without a match, the counts decide which problems are reported. -/
theorem registryOutcome_of_not_found (issuerDid : String)
    (registries : List EntityIdentityRegistry) {result : RegistryLookupResult}
    (h : result.found = false) :
    (registryOutcome issuerDid registries result).isSuccess = false ∧
      (registryOutcome issuerDid registries result).problemTypes =
        if result.uncheckedRegistries.length ≥ registries.length then
          [ProblemTypes.registryUnchecked]
        else ProblemTypes.issuerNotRegistered ::
          if result.uncheckedRegistries.length > 0 then [ProblemTypes.registryUnchecked]
          else [] := by
  unfold registryOutcome
  dsimp only
  rw [h, List.length_map]
  simp only [Bool.false_eq_true, if_false]
  by_cases hall : result.uncheckedRegistries.length ≥ registries.length
  · rw [if_pos hall, if_pos hall]
    exact ⟨rfl, rfl⟩
  · rw [if_neg hall, if_neg hall]
    refine ⟨rfl, ?_⟩
    by_cases hsome : result.uncheckedRegistries.length > 0
    · rw [if_pos hsome]
      simp [CheckOutcome.problemTypes, hsome]
    · rw [if_neg hsome]
      simp [CheckOutcome.problemTypes, hsome]

section

variable {issuerDid : String} {answered : AnsweredRegistries}

/-- With a match the check reports the answers. -/
theorem reportsAnswers_of_match (hfound : ∃ entry ∈ answered, entry.2.isFound = true) :
    ReportsAnswers answered
      (registryOutcome issuerDid (answered.map Prod.fst) (lookupOfAnswers answered)) := by
  have hsome : (lookupOfAnswers answered).found = true := isSome_firstMatch_iff.mpr hfound
  rcases registryOutcome_of_found issuerDid (answered.map Prod.fst) hsome with
    ⟨hsuccess, htypes⟩
  constructor
  · rw [hsuccess]
    exact iff_of_true rfl hfound
  · rcases hfound with ⟨entry, hmem, hentry⟩
    rw [htypes]
    refine iff_of_false (by simp) fun hall => ?_
    rw [hall entry hmem] at hentry
    cases hentry
  · rcases hfound with ⟨entry, hmem, hentry⟩
    intro hnone
    rw [hnone entry hmem] at hentry
    cases hentry
  · rw [htypes]
    simp

/-- Without a match, the registries that could not be checked are counted in full. -/
theorem length_uncheckedAhead (hnone : ∀ entry ∈ answered, entry.2.isFound = false) :
    ((uncheckedAhead answered).length ≥ answered.length ↔
        ∀ entry ∈ answered, entry.2 = .unchecked) ∧
      ((uncheckedAhead answered).length > 0 ↔ ∃ entry ∈ answered, entry.2 = .unchecked) := by
  rw [uncheckedAhead_of_no_match hnone, List.length_map, ge_iff_le, gt_iff_lt,
    List.length_filter_pos_iff]
  refine ⟨?_, by simp⟩
  constructor
  · intro hle
    have hsame := List.length_filter_eq_length_iff.mp
      (le_antisymm (List.length_filter_le _ answered) hle)
    simpa using hsame
  · intro hall
    have hsame : (answered.filter fun entry => entry.2 = .unchecked) = answered := by
      simpa using hall
    rw [hsame]

/-- Without a match the check reports the answers. -/
theorem reportsAnswers_of_no_match
    (hnone : ∀ entry ∈ answered, entry.2.isFound = false) :
    ReportsAnswers answered
      (registryOutcome issuerDid (answered.map Prod.fst) (lookupOfAnswers answered)) := by
  have hfound : ¬∃ entry ∈ answered, entry.2.isFound = true := by simpa using hnone
  have hnotFound : (lookupOfAnswers answered).found = false := by
    rw [lookupOfAnswers, ← Bool.not_eq_true, isSome_firstMatch_iff]
    exact hfound
  rcases registryOutcome_of_not_found issuerDid (answered.map Prod.fst) hnotFound with
    ⟨hsuccess, htypes⟩
  have hdistinct : ProblemTypes.issuerNotRegistered ≠ ProblemTypes.registryUnchecked :=
    problemType_ne (by decide)
  rcases length_uncheckedAhead hnone with ⟨hall, hsome⟩
  simp only [lookupOfAnswers, List.length_map, hall, hsome] at htypes
  constructor
  · rw [hsuccess]
    exact iff_of_false (by simp) hfound
  · rw [lookupOfAnswers, htypes]
    by_cases hunchecked : ∀ entry ∈ answered, entry.2 = .unchecked
    · rw [if_pos hunchecked]
      exact iff_of_true rfl hunchecked
    · rw [if_neg hunchecked]
      refine iff_of_false (fun heq => ?_) hunchecked
      exact hdistinct (List.cons.inj heq).1
  · rintro - ⟨entry, hmem, hentry⟩
    rw [lookupOfAnswers, htypes, if_neg fun hunchecked => hentry (hunchecked entry hmem)]
  · intro hin
    rw [lookupOfAnswers, htypes] at hin
    by_cases hunchecked : ∀ entry ∈ answered, entry.2 = .unchecked
    · rw [if_pos hunchecked, List.mem_singleton] at hin
      exact absurd hin hdistinct
    · rw [not_forall] at hunchecked
      rcases hunchecked with ⟨entry, hnot⟩
      rw [Classical.not_imp] at hnot
      refine ⟨entry, hnot.1, ?_⟩
      cases hanswer : entry.2 with
      | notFound => rfl
      | unchecked => exact absurd hanswer hnot.2
      | found entity =>
          have hfalse := hnone entry hnot.1
          rw [hanswer] at hfalse
          cases hfalse

/-- The check reports the answers that a plain lookup was made of. -/
theorem reportsAnswers_registryOutcome :
    ReportsAnswers answered
      (registryOutcome issuerDid (answered.map Prod.fst) (lookupOfAnswers answered)) := by
  by_cases hfound : ∃ entry ∈ answered, entry.2.isFound = true
  · exact reportsAnswers_of_match hfound
  · exact reportsAnswers_of_no_match (by simpa using hfound)

end

/-! ## The check on a plain lookup -/

/-- With an issuer to look up, the check makes one plain lookup and reports it. -/
theorem executes_issuerRegistryCheck_lookup {subject : VerificationSubject}
    {context : VerificationContext} {store store' : ContextStore} {credential : Json}
    {issuerDid : String} {registries : List EntityIdentityRegistry} {lookupIssuers : LookupIssuers}
    {trace : List PortEvent} {result : Except Thrown CheckOutcome}
    (hcredential : subject.verifiableCredential = some credential)
    (htruthy : credential.truthy = true)
    (hissuer : credentialIssuerId credential = some issuerDid)
    (hregistries : context.registries = some registries) (hne : registries ≠ [])
    (hlookup : context.lookupIssuers = some lookupIssuers)
    (h : Executes (issuerRegistryCheck.execute subject context store) trace (result, store')) :
    ∃ looked, Executes (lookupIssuers issuerDid registries {}) trace looked ∧
      result = .ok (match looked with
        | .ok found => registryOutcome issuerDid registries found
        | .error error => registryErrorOutcome error) := by
  unfold issuerRegistryCheck at h
  cases registries with
  | nil => exact absurd rfl hne
  | cons registry rest =>
      simp only [hcredential, Option.filter_some, htruthy, if_true, hregistries,
        Option.getD_some, hissuer, hlookup] at h
      rcases executes_bind_iff.mp h with ⟨events, last, looked, rfl, hlooked, hreport⟩
      cases looked with
      | ok found =>
          rcases executes_pure_iff.mp hreport with ⟨rfl, hresult⟩
          exact ⟨.ok found, by simpa using hlooked, (Prod.mk.inj hresult).1⟩
      | error error =>
          rcases executes_pure_iff.mp hreport with ⟨rfl, hresult⟩
          exact ⟨.error error, by simpa using hlooked, (Prod.mk.inj hresult).1⟩

/-- A plain lookup behind an empty result cache visits the registries in their order up to
the first match, unless a handler throws.  Whatever answers its visits were given and the
other registries would give, it returns the first match and the registries in front of it
that could not be checked; the check reports the answers. -/
theorem issuerRegistryCheck_answers {handlers : RegistryHandlerMap}
    {lookupContext : RegistryHandlerContext} {subject : VerificationSubject}
    {context : VerificationContext} {store store' : ContextStore} {credential : Json}
    {issuerDid : String} {registries : List EntityIdentityRegistry} {trace : List PortEvent}
    {result : Except Thrown CheckOutcome}
    (hcredential : subject.verifiableCredential = some credential)
    (htruthy : credential.truthy = true)
    (hissuer : credentialIssuerId credential = some issuerDid)
    (hregistries : context.registries = some registries) (hne : registries ≠ [])
    (hlookup : context.lookupIssuers = some (createRegistryLookup handlers lookupContext))
    (h : Executes (issuerRegistryCheck.execute subject context store)
      (⟨.cacheGet (resultCacheKey issuerDid registries), none⟩ :: trace) (result, store')) :
    ∃ visits stored looked, trace = visits.flatMap Visit.events ++ stored ∧
      (∀ visit ∈ visits, visit.registry ∈ registries ∧
        visit.Runs handlers lookupContext issuerDid) ∧
      Executes (createRegistryLookup handlers lookupContext issuerDid registries {})
        (⟨.cacheGet (resultCacheKey issuerDid registries), none⟩ :: trace) looked ∧
      ((∃ visit ∈ visits, ∃ error, visit.outcome = .error error ∧ looked = .error error) ∨
        Walked false registries visits) ∧
      ∀ answered : AnsweredRegistries, answered.map Prod.fst = registries →
        VisitsAnswered answered visits →
        looked = .ok (lookupOfAnswers answered) ∧
          ∃ outcome, result = .ok outcome ∧ ReportsAnswers answered outcome := by
  rcases executes_issuerRegistryCheck_lookup hcredential htruthy hissuer hregistries hne hlookup h
    with ⟨looked, hlooked, rfl⟩
  have hrun := executes_createRegistryLookup hlooked
  generalize htrace : ⟨.cacheGet (resultCacheKey issuerDid registries), none⟩ :: trace = events
    at hrun
  have hmissed {missed : List PortEvent}
      (hmiss : MissedResult issuerDid registries {} missed) {rest : List PortEvent}
      (heq : ⟨.cacheGet (resultCacheKey issuerDid registries), none⟩ :: trace = missed ++ rest) :
      trace = rest := by
    rcases hmiss with ⟨hfresh, _⟩ | ⟨_, cached, rfl, _⟩
    · cases hfresh
    · exact (List.cons.inj heq).2
  cases hrun with
  | cached =>
      simp at htrace
  | @threw missed visits error hmiss hvisits hthrew =>
      rcases hthrew with ⟨visit, hmem, hvisit⟩
      refine ⟨visits, [], .error error, by simpa using hmissed hmiss htrace, hvisits,
        by rwa [← htrace], .inl ⟨visit, hmem, error, hvisit, rfl⟩, ?_⟩
      intro answered _ hanswered
      have hin := hanswered.subset (List.mem_map_of_mem hmem)
      simp [hvisit] at hin
  | @walked missed visits found hmiss hvisits hwalked hfound =>
      refine ⟨visits, _, .ok found, hmissed hmiss htrace, hvisits, by rwa [← htrace],
        .inr hwalked, ?_⟩
      intro answered hanswers hanswered
      have hreport := hwalked.report_eq hanswers hanswered
      have hlookupOf : found = lookupOfAnswers answered := by
        rw [hfound, hreport, lookupResultOf, lookupOfAnswers]
        cases firstMatch answered <;> rfl
      refine ⟨by rw [hlookupOf], _, rfl, ?_⟩
      dsimp only
      rw [hlookupOf, ← hanswers]
      exact reportsAnswers_registryOutcome

/-! ### Registries of every answer -/

namespace FourRegistries

/-- Four registries, of which the last is never asked. -/
def registries : List EntityIdentityRegistry :=
  [.dccLegacy "A" "https://a", .dccLegacy "B" "https://b", .dccLegacy "C" "https://c",
    .dccLegacy "D" "https://d"]

/-- The issuer that is looked up. -/
def did : String :=
  "did:example:issuer"

/-- The context of the handlers. -/
def context : RegistryHandlerContext where
  platform := PlatformTable.platform {}
  verifier := .error .null

/-- The context of the check. -/
def checkContext : VerificationContext where
  registries := some registries
  lookupIssuers := some (createRegistryLookup defaultHandlers context)

/-- A credential of the issuer. -/
def credential : Json :=
  .obj [("issuer", .str did)]

/-- The second registry's file lists nobody. -/
def emptyFile : Json :=
  .obj [("registry", .obj [])]

/-- The third registry's file lists the issuer. -/
def listingFile : Json :=
  .obj [("registry", .obj [(did, .obj [("name", .str "Issuer")])])]

/-- What the four registries answer or would answer. -/
def answered : AnsweredRegistries :=
  [(.dccLegacy "A" "https://a", .unchecked), (.dccLegacy "B" "https://b", .notFound),
    (.dccLegacy "C" "https://c",
      .found (some (dccLegacyEntity (.obj [("name", .str "Issuer")])))),
    (.dccLegacy "D" "https://d", .unchecked)]

/-- The first file cannot be fetched and the next two can; the result is kept for a
minute, since one registry could not be checked. -/
def trace : List PortEvent :=
  [⟨.cacheGet "dcc-legacy:https://a", none⟩, ⟨.httpGet "https://a", .error .null⟩,
    ⟨.cacheGet "dcc-legacy:https://b", none⟩,
    ⟨.httpGet "https://b", .ok { body := some emptyFile, headers := [], status := 200 }⟩,
    ⟨.cacheSet "dcc-legacy:https://b" (.json emptyFile) ((3600000 : ℚ) : WithTop ℚ), ()⟩,
    ⟨.cacheGet "dcc-legacy:https://c", none⟩,
    ⟨.httpGet "https://c", .ok { body := some listingFile, headers := [], status := 200 }⟩,
    ⟨.cacheSet "dcc-legacy:https://c" (.json listingFile) ((3600000 : ℚ) : WithTop ℚ), ()⟩,
    ⟨.cacheSet (resultCacheKey did registries) (.lookupResult (lookupOfAnswers answered))
      ((60000 : ℚ) : WithTop ℚ), ()⟩]

/-- The lookup misses the cache and then walks the registries. -/
theorem executes_lookup :
    Executes (createRegistryLookup defaultHandlers context did registries {})
      (⟨.cacheGet (resultCacheKey did registries), none⟩ :: trace)
      (.ok (lookupOfAnswers answered)) :=
  replay_eq_some_iff.mp (by decide +kernel)

end FourRegistries

/-- The check reports the answers of a registry that cannot be checked, one that does not
list the issuer and one that does, whatever is behind them. -/
theorem issuerRegistryCheck_unreachable :
    ∃ visits stored looked, FourRegistries.trace = visits.flatMap Visit.events ++ stored ∧
      (∀ visit ∈ visits, visit.registry ∈ FourRegistries.registries ∧
        visit.Runs defaultHandlers FourRegistries.context FourRegistries.did) ∧
      Executes (createRegistryLookup defaultHandlers FourRegistries.context FourRegistries.did
          FourRegistries.registries {})
        (⟨.cacheGet (resultCacheKey FourRegistries.did FourRegistries.registries), none⟩ ::
          FourRegistries.trace) looked ∧
      ((∃ visit ∈ visits, ∃ error, visit.outcome = .error error ∧ looked = .error error) ∨
        Walked false FourRegistries.registries visits) ∧
      ∀ answered : AnsweredRegistries, answered.map Prod.fst = FourRegistries.registries →
        VisitsAnswered answered visits →
        looked = .ok (lookupOfAnswers answered) ∧
          ∃ outcome,
            (.ok (registryOutcome FourRegistries.did FourRegistries.registries
              (lookupOfAnswers FourRegistries.answered)) :
                Except Thrown CheckOutcome) = .ok outcome ∧
            ReportsAnswers answered outcome :=
  @issuerRegistryCheck_answers defaultHandlers FourRegistries.context
    { verifiableCredential := some FourRegistries.credential } FourRegistries.checkContext {} {}
    FourRegistries.credential FourRegistries.did FourRegistries.registries FourRegistries.trace _
    rfl rfl (by decide +kernel) rfl (by simp [FourRegistries.registries]) rfl
    (executes_bind_iff.mpr ⟨_, [], _, (List.append_nil _).symm,
      FourRegistries.executes_lookup, executes_pure_iff.mpr ⟨rfl, rfl⟩⟩)

end VerifierCore
