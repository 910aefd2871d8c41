import VerifierCore.Suites.Proof
import VerifierCore.Suites.Registry
import VerifierCore.Suites.Status

/-!
# What the core checks promise the checks behind them

The checks behind the core suite read the credential again as raw JSON, each by
rules of its own.  The structure rules are strict enough that none of them finds a
shape it has no answer for, with one exception: a date the structure rules let
through need not be one that the validity check can read.

Main results:

- Theorem {lit}`gate_sound`: what every later reader finds in a credential that
  passed.
- Theorem {lit}`validityPeriodCheck_judges_iff`: the credentials whose validity
  period is judged.
-/

namespace VerifierCore

open Foundations Program

/-! ## Passing a check -/

/-- The check succeeds on the credential, whatever it is called with. -/
def Passes (check : VerificationCheck) (credential : Json) : Prop :=
  ∀ context store trace result store',
    Executes (check.execute { verifiableCredential := some credential } context store) trace
      (result, store') →
    ∃ outcome, result = .ok outcome ∧ outcome.isSuccess = true

/-- A check that only computes an outcome passes if that is a success. -/
theorem passes_of_pureBody {check : VerificationCheck} {credential : Json}
    {outcome : VerificationSubject → CheckOutcome}
    (hexecute : check.execute = pureBody fun subject _ => .ok (outcome subject))
    (h : (outcome { verifiableCredential := some credential }).isSuccess = true) :
    Passes check credential := by
  intro context store trace result store' hrun
  rw [hexecute] at hrun
  cases (executes_pure_iff.mp hrun).2
  exact ⟨_, rfl, h⟩

/-- A check that passes has a successful outcome. -/
theorem isSuccess_of_passes {check : VerificationCheck} {credential : Json}
    {outcome : VerificationSubject → CheckOutcome}
    (hexecute : check.execute = pureBody fun subject _ => .ok (outcome subject))
    (h : Passes check credential) :
    (outcome { verifiableCredential := some credential }).isSuccess = true := by
  have hrun : Executes (check.execute { verifiableCredential := some credential } {} {}) []
      (.ok (outcome { verifiableCredential := some credential }), {}) := by
    rw [hexecute]
    exact .done _
  rcases h _ _ _ _ _ hrun with ⟨outcome', heq, hsuccess⟩
  cases heq
  exact hsuccess

/-- The checks whose success the later checks rely on. -/
structure PassesGate (platform : Platform) (credential : Json) : Prop where
  contextExists : Passes contextCheck credential
  vcContext : Passes vcContextCheck credential
  vcStructure : Passes (vcStructureCheck platform) credential
  proofExists : Passes proofExistsCheck credential

/-! ## What the structure rules say -/

/-- The entries of a term: the items of an array, or the value itself. -/
def entryValues : Json → List Json
  | .arr items => items
  | value => [value]

/-- The entries of a value are the same wherever it lies. -/
theorem map_fst_asEntries (value : Json) (pointer : PointerSegments) :
    (asEntries value pointer).map Prod.fst = entryValues value := by
  cases value with
  | arr items =>
      rw [asEntries, entryValues, List.map_map]
      exact List.zipIdx_map_fst 0 items
  | null | bool | num | str | obj => rfl

/-- Each entry has a place. -/
theorem exists_asEntries {value entry : Json} (h : entry ∈ entryValues value)
    (pointer : PointerSegments) : ∃ path, (entry, path) ∈ asEntries value pointer := by
  rw [← map_fst_asEntries value pointer, List.mem_map] at h
  rcases h with ⟨⟨_, path⟩, hmem, rfl⟩
  exact ⟨path, hmem⟩

/-- An entry that is an object with a type. -/
structure TypedEntry (entry : Json) : Prop where
  plain : isPlainObject (some entry) = true
  typed : stringValues (entry.get? "type") ≠ []

/-- An entry with no violation has a type. -/
theorem typedEntry_of_checkTypedEntry {entry : Json} {pointer : PointerSegments}
    (h : checkTypedEntry entry pointer = []) : TypedEntry entry := by
  refine ⟨isPlainObject_of_checkTypedEntry h, ?_⟩
  intro htypes
  simp [checkTypedEntry, isPlainObject_of_checkTypedEntry h, htypes, report] at h

/-- The entries of a typed property without violations are typed objects, with a
URL where one is required. -/
theorem typedEntries_of_checkTypedProperty {platform : Platform} {credential value : Json}
    {prop : String} {rule : Option IdRule} (hvalue : credential.get? prop = some value)
    (h : checkTypedProperty platform credential (prop, rule) = []) :
    ∀ entry ∈ entryValues value, TypedEntry entry ∧
      (rule = some .required → platform.isUrl (entry.get? "id") = true) := by
  intro entry hentry
  rcases exists_asEntries hentry [.name prop] with ⟨path, hpath⟩
  simp only [checkTypedProperty, hvalue, List.flatMap_eq_nil_iff] at h
  have hrules := List.append_eq_nil_iff.mp (h _ hpath)
  have htyped := typedEntry_of_checkTypedEntry hrules.1
  refine ⟨htyped, fun hrule => ?_⟩
  have hid := hrules.2
  rw [if_pos htyped.plain, hrule] at hid
  simp only [checkEntryId] at hid
  split at hid
  · simp [report] at hid
  · rename_i id hget
    split_ifs at hid with hurl
    · rw [hget]
      exact hurl
    · simp [report] at hid

/-- What the structure rules check, once none of them reports anything. -/
structure ConformingCredential (platform : Platform) (credential : Json) : Prop where
  firstContext : checkFirstContextEntry (credential.get? "@context") = []
  issuer : ∃ issuer, credential.get? "issuer" = some issuer ∧
    checkUrlOrIdObject platform issuer [.name "issuer"] = []
  dates : checkDates platform credential = []
  typed : ∀ property ∈ typedProperties, checkTypedProperty platform credential property = []

/-- A credential that passes the structure check conforms to the data model. -/
theorem conformingCredential_of_passes {platform : Platform} {credential : Json}
    (h : Passes (vcStructureCheck platform) credential) :
    ConformingCredential platform credential := by
  have hsuccess := isSuccess_of_passes rfl h
  unfold vcStructureOutcome at hsuccess
  dsimp only at hsuccess
  split at hsuccess
  · rename_i members hcredential
    cases hcredential
    have hrules := runStructureRules_success_iff.mp hsuccess
    simp only [vcStructureRules, List.append_eq_nil_iff] at hrules
    obtain ⟨⟨⟨⟨⟨hfirst, _⟩, _⟩, hissuer⟩, hdates⟩, htyped⟩ := hrules
    refine ⟨hfirst, ?_, hdates, ?_⟩
    · split at hissuer
      · simp [report] at hissuer
      · rename_i issuer hget
        exact ⟨issuer, hget, hissuer⟩
    · simpa [checkTypedProperties, List.flatMap_eq_nil_iff] using htyped
  · simp [missingSubjectFailure] at hsuccess

/-! ## What later readers find -/

/-- The context of a credential that passed names its version. -/
theorem vcVersionOf_isSome {platform : Platform} {credential : Json}
    (hcontext : Passes vcContextCheck credential)
    (hstructure : ConformingCredential platform credential) :
    ∃ version, vcVersionOf (credential.get? "@context") = some version := by
  have hincludes : includesVcContext (credential.get? "@context") = true := by
    have hsuccess := isSuccess_of_passes rfl hcontext
    unfold onCredential vcContextOutcome at hsuccess
    dsimp only at hsuccess
    split_ifs at hsuccess with htruthy hmissing
    · simp [failWith] at hsuccess
    · simpa using hmissing
    · simp [failWith] at hsuccess
  have hfirst : isVcContext (firstContextEntry (credential.get? "@context")) = true := by
    have hreport := hstructure.firstContext
    unfold checkFirstContextEntry at hreport
    split_ifs at hreport with hgood
    · simpa [hincludes] using hgood
    all_goals simp [report] at hreport
  unfold vcVersionOf
  simp only [isVcContext, Bool.or_eq_true, decide_eq_true_eq] at hfirst
  rcases hfirst with hv1 | hv2
  · exact ⟨.v1, by rw [if_pos hv1]⟩
  · by_cases hv1 : firstContextEntry (credential.get? "@context") = some (.str vcContextV1)
    · exact ⟨.v1, by rw [if_pos hv1]⟩
    · exact ⟨.v2, by rw [if_neg hv1, if_pos hv2]⟩

/-- A URL is not the empty string, which no URL parser accepts. -/
theorem ne_empty_of_isUrl {platform : Platform} (hempty : platform.urlAccepts "" = false)
    {value : Option Json} (h : platform.isUrl value = true) :
    ∃ s, value = some (.str s) ∧ s ≠ "" ∧ platform.urlAccepts s = true := by
  unfold Platform.isUrl at h
  split at h
  · rename_i s
    refine ⟨s, rfl, ?_, h⟩
    rintro rfl
    rw [hempty] at h
    cases h
  · cases h

/-- The issuer of a credential that passed has an id. -/
theorem credentialIssuerId_isSome {platform : Platform} {credential : Json}
    (hempty : platform.urlAccepts "" = false)
    (h : ConformingCredential platform credential) :
    ∃ id, credentialIssuerId credential = some id := by
  rcases h.issuer with ⟨issuer, hissuer, hrule⟩
  unfold credentialIssuerId
  rw [hissuer]
  unfold checkUrlOrIdObject at hrule
  dsimp only at hrule
  split at hrule
  · split_ifs at hrule with hurl
    · rcases ne_empty_of_isUrl hempty hurl with ⟨s, heq, hne, _⟩
      rw [heq]
      exact ⟨s, by simp [issuerId, hne]⟩
    · simp [report] at hrule
  · split_ifs at hrule with hurl
    · rcases ne_empty_of_isUrl hempty hurl with ⟨s, heq, hne, _⟩
      exact ⟨s, by simp [issuerId, heq, hne]⟩
    · simp [report] at hrule
  · simp [report] at hrule

/-- With an issuer that has an id, the registry check never misses it. -/
theorem issuerRegistryCheck_finds_issuer {credential : Json} {id : String}
    (hissuer : credentialIssuerId credential = some id) {context : VerificationContext}
    {store store' : ContextStore} {trace : List PortEvent} {problems : List ProblemDetail}
    {payload : Option CheckPayload}
    (h : Executes (issuerRegistryCheck.execute { verifiableCredential := some credential } context
      store) trace (.ok (.failure problems payload), store')) :
    ∀ problem ∈ problems, problem.type ≠ ProblemTypes.issuerNotFound := by
  unfold issuerRegistryCheck at h
  dsimp only at h
  split at h
  · simp at h
  · rename_i credential' hcredential
    have hsame : credential' = credential := by
      have hfilter := (Option.filter_eq_some_iff.mp hcredential).1
      exact (Option.some.inj hfilter).symm
    subst hsame
    split at h
    · simp at h
    · rw [hissuer] at h
      cases hlookup : context.lookupIssuers with
      | none => simp [hlookup] at h
      | some lookupIssuers =>
          simp only [hlookup] at h
          rcases executes_bind_iff.mp h with ⟨_, _, looked, rfl, _, hrest⟩
          cases looked with
          | error error =>
              simp only [executes_pure_iff, Prod.mk.injEq, Except.ok.injEq] at hrest
              have houtcome := hrest.2.1
              simp only [registryErrorOutcome, failWith, CheckOutcome.failure.injEq] at houtcome
              rw [houtcome.1, List.forall_mem_singleton]
              exact problemType_ne (by decide)
          | ok result =>
              simp only [executes_pure_iff, Prod.mk.injEq, Except.ok.injEq] at hrest
              have houtcome := hrest.2.1
              unfold registryOutcome at houtcome
              dsimp only at houtcome
              have hunchecked : ProblemTypes.registryUnchecked ≠ ProblemTypes.issuerNotFound :=
                problemType_ne (by decide)
              have hunregistered : ProblemTypes.issuerNotRegistered ≠ ProblemTypes.issuerNotFound :=
                problemType_ne (by decide)
              split_ifs at houtcome
              all_goals
                simp only [CheckOutcome.failure.injEq] at houtcome
                rw [houtcome.1]
                simp only [List.forall_mem_cons, List.not_mem_nil, false_imp_iff, implies_true,
                  hunchecked, hunregistered, ne_eq, not_false_eq_true, and_self]

/-- The proofs a document is read to have are all it states: the whole array, or
the single one. -/
def ProofsAreWhole (credential : Json) : Prop :=
  ∃ proof, credential.get? "proof" = some proof ∧
    proofEntries (some credential) = entryValues proof ∧
    ∀ entry ∈ proofEntries (some credential), isArray (some entry) = false

/-- A plain object is an object and no array. -/
theorem isObjectType_of_isPlainObject {entry : Json} (h : isPlainObject (some entry) = true) :
    entry.isObjectType = true ∧ isArray (some entry) = false := by
  cases entry <;> simp_all [isPlainObject, Json.isObjectType, isArray]

/-- No proof of a conforming credential is dropped. -/
theorem proofsAreWhole {platform : Platform} {credential : Json}
    (hproof : Passes proofExistsCheck credential)
    (h : ConformingCredential platform credential) : ProofsAreWhole credential := by
  have hsome : ∃ proof, credential.get? "proof" = some proof := by
    have hsuccess := isSuccess_of_passes rfl hproof
    cases hget : credential.get? "proof" with
    | some proof => exact ⟨proof, rfl⟩
    | none =>
        unfold onCredential proofExistsOutcome at hsuccess
        simp only [proofEntries, hget, Option.bind_some, List.length_nil, if_true, failWith] at hsuccess
        split_ifs at hsuccess
        all_goals simp at hsuccess
  rcases hsome with ⟨proof, hget⟩
  have hentries := typedEntries_of_checkTypedProperty hget
    (h.typed ("proof", none) (by simp [typedProperties]))
  have hplain : ∀ entry ∈ entryValues proof, entry.isObjectType = true ∧
      isArray (some entry) = false :=
    fun entry hentry => isObjectType_of_isPlainObject (hentries entry hentry).1.plain
  have hwhole : proofEntries (some credential) = entryValues proof := by
    have hfilter : proofEntries (some credential) = (entryValues proof).filter Json.isObjectType := by
      cases proof <;> simp [proofEntries, hget, entryValues]
    rw [hfilter, List.filter_eq_self]
    exact fun entry hentry => (hplain entry hentry).1
  refine ⟨proof, hget, hwhole, ?_⟩
  rw [hwhole]
  exact fun entry hentry => (hplain entry hentry).2

/-- The status entries that are read are all the credential states. -/
def StatusEntriesAreWhole (credential : Json) : Prop :=
  (credentialStatusEntries credential).map Prod.fst =
    (credential.get? "credentialStatus").elim [] entryValues

/-- No status entry of a conforming credential is dropped. -/
theorem statusEntriesAreWhole {platform : Platform} {credential : Json}
    (h : ConformingCredential platform credential) : StatusEntriesAreWhole credential := by
  unfold StatusEntriesAreWhole credentialStatusEntries
  cases hget : credential.get? "credentialStatus" with
  | none => rfl
  | some status =>
      have hentries := typedEntries_of_checkTypedProperty hget
        (h.typed ("credentialStatus", some .optional) (by simp [typedProperties]))
      have htruthy : status.truthy = true := by
        cases status with
        | arr | obj => rfl
        | null | bool | num | str =>
            have hplain := (hentries _ List.mem_cons_self).1.plain
            simp [isPlainObject] at hplain
      simp only [htruthy, if_true]
      exact map_fst_asEntries status _

/-- A status entry that is a typed object is malformed in its purpose only. -/
theorem malformed_field_of_typedEntry {entry : Json} (h : TypedEntry entry)
    {field : Option String} {detail : String}
    (hclass : classifyStatusEntry entry = .malformed field detail) :
    field = some "statusPurpose" := by
  unfold classifyStatusEntry at hclass
  rw [if_neg (by simp [h.plain])] at hclass
  split at hclass
  · rename_i hnone
    exact absurd hnone h.typed
  · split_ifs at hclass
    split at hclass
    · cases hclass
      rfl
    · split_ifs at hclass

/-- What the checks behind the core suite find in a credential. -/
structure GateSound (platform : Platform) (credential : Json) : Prop where
  issuer : ∃ id, credentialIssuerId credential = some id
  issuerFound : ∀ context store trace problems payload store',
    Executes (issuerRegistryCheck.execute { verifiableCredential := some credential } context
      store) trace (.ok (.failure problems payload), store') →
    ∀ problem ∈ problems, problem.type ≠ ProblemTypes.issuerNotFound
  version : vcVersionOf (credential.get? "@context") = some .v1 ∨
    vcVersionOf (credential.get? "@context") = some .v2
  proofs : ProofsAreWhole credential
  statusEntries : StatusEntriesAreWhole credential
  malformed : ∀ entry ∈ credentialStatusEntries credential, ∀ field detail,
    classifyStatusEntry entry.1 = .malformed field detail → field = some "statusPurpose"
  schemas : ∀ schema, credential.get? "credentialSchema" = some schema →
    ∀ entry ∈ entryValues schema, ∃ id, entry.get? "id" = some (.str id) ∧
      platform.urlAccepts id = true

/-- Every JSON credential that passes the core checks is one the later checks can
read. -/
theorem gate_sound {platform : Platform} (hempty : platform.urlAccepts "" = false)
    {credential : Json} (h : PassesGate platform credential) : GateSound platform credential := by
  have hconforming := conformingCredential_of_passes h.vcStructure
  have hwhole := statusEntriesAreWhole hconforming
  obtain ⟨id, hid⟩ := credentialIssuerId_isSome hempty hconforming
  obtain ⟨version, hversion⟩ := vcVersionOf_isSome h.vcContext hconforming
  refine
    { issuer := ⟨id, hid⟩
      issuerFound := ?_
      version := ?_
      proofs := proofsAreWhole h.proofExists hconforming
      statusEntries := hwhole
      malformed := ?_
      schemas := ?_ }
  · intro context store trace problems payload store' hrun
    exact issuerRegistryCheck_finds_issuer hid hrun
  · rw [hversion]
    cases version <;> simp
  · intro entry hentry field detail hclass
    have hmem : entry.1 ∈ (credential.get? "credentialStatus").elim [] entryValues := by
      rw [← hwhole]
      exact List.mem_map_of_mem hentry
    cases hget : credential.get? "credentialStatus" with
    | none => simp [hget] at hmem
    | some status =>
        rw [hget, Option.elim_some] at hmem
        have htyped := typedEntries_of_checkTypedProperty hget
          (hconforming.typed ("credentialStatus", some .optional) (by simp [typedProperties]))
        exact malformed_field_of_typedEntry (htyped entry.1 hmem).1 hclass
  · intro schema hget entry hentry
    have htyped := typedEntries_of_checkTypedProperty hget
      (hconforming.typed ("credentialSchema", some .required) (by simp [typedProperties]))
    rcases ne_empty_of_isUrl hempty ((htyped entry hentry).2 rfl) with ⟨s, heq, _, haccepts⟩
    exact ⟨s, heq, haccepts⟩

/-! ## The validity period -/

/-- The check fails, and one of its problems has the type. -/
def Reports (outcome : Except Thrown CheckOutcome) (type : String) : Prop :=
  ∃ problems payload, outcome = .ok (.failure problems payload) ∧
    ∃ problem ∈ problems, problem.type = type

/-- The property states a date, and `new Date` reads it as the instant. -/
def StatesDate (platform : Platform) (credential : Json) (name : String) (ms : ℚ) : Prop :=
  ∃ text, credential.get? name = some (.str text) ∧ platform.parseDate text = some ms

/-- The credential states an end before the instant. -/
def EndsBefore (platform : Platform) (credential : Json) (properties : ValidityProperties)
    (now : ℚ) : Prop :=
  ∃ stop, StatesDate platform credential properties.end stop ∧ stop < now

/-- The credential states a start behind the instant. -/
def StartsAfter (platform : Platform) (credential : Json) (properties : ValidityProperties)
    (now : ℚ) : Prop :=
  ∃ start, StatesDate platform credential properties.start start ∧ now < start

/-- The validity period was judged: the check did not skip, it reported each bound
the instant is outside of, and with none it succeeded. -/
structure ValidityJudged (platform : Platform) (credential : Json)
    (properties : ValidityProperties) (now : ℚ) (outcome : Except Thrown CheckOutcome) : Prop where
  judged : ∀ reason code haltedBy, outcome ≠ .ok (.skipped reason code haltedBy)
  expired : Reports outcome ProblemTypes.credentialExpired ↔
    EndsBefore platform credential properties now
  notYetValid : Reports outcome ProblemTypes.credentialNotYetValid ↔
    StartsAfter platform credential properties now
  valid : ¬EndsBefore platform credential properties now →
    ¬StartsAfter platform credential properties now →
    ∃ message payload, outcome = .ok (.success message payload)

/-- `new Date` reads every date the credential states. -/
def DatesReadable (platform : Platform) (credential : Json) (properties : ValidityProperties) :
    Prop :=
  ∀ name ∈ [properties.start, properties.end], ∀ text,
    credential.get? name = some (.str text) → (platform.parseDate text).isSome

/-- The dates of a credential that passed are strings. -/
theorem stated_dates_are_strings {platform : Platform} {credential : Json} {version : VcVersion}
    (hversion : vcVersionOf (credential.get? "@context") = some version)
    (h : checkDates platform credential = []) :
    ∀ name ∈ [(validityProperties version).start, (validityProperties version).end], ∀ value,
      credential.get? name = some value → ∃ text, value = .str text := by
  have hdateTime {name : String} (hrule : checkDateTime platform credential name = []) :
      ∀ value, credential.get? name = some value → ∃ text, value = .str text := by
    intro value hvalue
    simp only [checkDateTime, hvalue] at hrule
    split_ifs at hrule with hdate
    · cases value <;> simp_all [isDateTime]
    · simp [report] at hrule
  unfold checkDates at h
  rw [hversion] at h
  intro name hname
  simp only [List.mem_cons, List.not_mem_nil, or_false] at hname
  cases version with
  | v1 =>
      simp only [List.append_eq_nil_iff] at h
      rcases hname with rfl | rfl
      · exact hdateTime h.1.2
      · exact hdateTime h.2
  | v2 =>
      simp only [List.append_eq_nil_iff] at h
      rcases hname with rfl | rfl
      · exact hdateTime h.1
      · exact hdateTime h.2

/-- A date that is read is stated. -/
theorem statesDate_of_dateOf {platform : Platform} {credential : Json} {name : String} {ms : ℚ}
    (h : dateOf platform (credential.get? name) = .date ms) :
    StatesDate platform credential name ms := by
  unfold dateOf at h
  split at h
  · cases h
  · rename_i text hget
    split at h
    · rename_i hparse
      cases h
      exact ⟨text, hget, hparse⟩
    · cases h
  · cases h

/-- A credential states one date under a name. -/
theorem StatesDate.unique {platform : Platform} {credential : Json} {name : String} {ms ms' : ℚ}
    (h : StatesDate platform credential name ms) (h' : StatesDate platform credential name ms') :
    ms = ms' := by
  rcases h with ⟨text, hget, hparse⟩
  rcases h' with ⟨text', hget', hparse'⟩
  rw [hget] at hget'
  cases hget'
  rw [hparse] at hparse'
  exact Option.some.inj hparse'

/-- A date is absent where there is no value. -/
theorem get?_eq_none_of_dateOf {platform : Platform} {value : Option Json}
    (h : dateOf platform value = .absent) : value = none := by
  unfold dateOf at h
  split at h
  · rfl
  · split at h <;> cases h
  · cases h

/-- A stated date is quoted without a throw. -/
theorem exists_dateRejectionProblem {platform : Platform} {credential : Json} {name : String}
    {ms : ℚ} (rejection : DateRejection) (now : ℚ)
    (h : StatesDate platform credential name ms) :
    ∃ problem, dateRejectionProblem platform rejection (some credential) now (some name) =
      .ok problem ∧ problem.type = (dateRejections rejection).type := by
  rcases h with ⟨text, hget, _⟩
  have hquoted : platform.coerceToString (.str text) = .ok text := rfl
  simp only [dateRejectionProblem, Option.some_or, Option.bind_some, hget, hquoted]
  exact ⟨_, rfl, rfl⟩

/-- The problems of one bound: a single one if the instant is outside of it. -/
def BoundProblems (problems : List ProblemDetail) (type : String) (outside : Prop) : Prop :=
  (problems = [] ∧ ¬outside) ∨ ∃ problem, problems = [problem] ∧ problem.type = type ∧ outside

/-- The outcome that both bounds' problems give is a judgement. -/
theorem validityJudged_of_problems {platform : Platform} {credential : Json}
    {properties : ValidityProperties} {now : ℚ} {expired notYetValid : List ProblemDetail}
    (message : String)
    (hexpired : BoundProblems expired ProblemTypes.credentialExpired
      (EndsBefore platform credential properties now))
    (hnotYetValid : BoundProblems notYetValid ProblemTypes.credentialNotYetValid
      (StartsAfter platform credential properties now)) :
    ValidityJudged platform credential properties now
      (.ok (if (expired ++ notYetValid).length > 0 then .failure (expired ++ notYetValid)
        else .success message)) := by
  have hne : ProblemTypes.credentialExpired ≠ ProblemTypes.credentialNotYetValid :=
    problemType_ne (by decide)
  rcases hexpired with ⟨rfl, hend⟩ | ⟨ended, rfl, hended, hend⟩ <;>
    rcases hnotYetValid with ⟨rfl, hstart⟩ | ⟨early, rfl, hearly, hstart⟩
  · refine ⟨by simp, ?_, ?_, ?_⟩
    · simp [Reports, hend]
    · simp [Reports, hstart]
    · intro _ _
      exact ⟨message, none, rfl⟩
  · refine ⟨by simp, ?_, ?_, ?_⟩
    · simp [Reports, hend, hearly, hne.symm]
    · simp [Reports, hstart, hearly]
    · exact fun _ hno => absurd hstart hno
  · refine ⟨by simp, ?_, ?_, ?_⟩
    · simp [Reports, hend, hended]
    · simp [Reports, hstart, hended, hne]
    · exact fun hno _ => absurd hend hno
  · refine ⟨by simp, ?_, ?_, ?_⟩
    · simp [Reports, hend, hended]
    · simp [Reports, hstart, hearly]
    · exact fun hno _ => absurd hend hno

/-- Inside a bound there is no problem. -/
theorem boundProblems_of_inside {type : String} {outside : Prop} (h : ¬outside) :
    BoundProblems [] type outside :=
  .inl ⟨rfl, h⟩

/-- A stated date gives the problem of its bound if it lies outside. -/
theorem boundProblems_of_statesDate {platform : Platform} {credential : Json} {name : String}
    {ms : ℚ} (rejection : DateRejection) (now : ℚ) (h : StatesDate platform credential name ms)
    (outside : ℚ → Prop) [DecidablePred outside] :
    ∃ problems, (if outside ms then do
        .ok [← dateRejectionProblem platform rejection (some credential) now (some name)]
      else .ok [] : Except Thrown (List ProblemDetail)) = .ok problems ∧
      BoundProblems problems (dateRejections rejection).type
        (∃ ms, StatesDate platform credential name ms ∧ outside ms) := by
  by_cases houtside : outside ms
  · obtain ⟨problem, hproblem, htype⟩ := exists_dateRejectionProblem rejection now h
    rw [if_pos houtside, hproblem]
    exact ⟨[problem], rfl, .inr ⟨problem, rfl, htype, ms, h, houtside⟩⟩
  · rw [if_neg houtside]
    refine ⟨[], rfl, boundProblems_of_inside ?_⟩
    rintro ⟨ms', h', houtside'⟩
    rw [h'.unique h] at houtside'
    exact houtside houtside'

/-- A date that is absent bounds nothing. -/
theorem not_outside_of_absent {platform : Platform} {credential : Json} {name : String}
    {outside : ℚ → Prop} (habsent : dateOf platform (credential.get? name) = .absent) :
    ¬∃ ms, StatesDate platform credential name ms ∧ outside ms := by
  rintro ⟨ms, ⟨text, hget, _⟩, _⟩
  rw [get?_eq_none_of_dateOf habsent] at hget
  cases hget

/-- With every stated date readable the period is judged. -/
theorem validityOutcome_judged {platform : Platform} {credential : Json}
    {properties : ValidityProperties} (now : ℚ)
    (hstart : dateOf platform (credential.get? properties.start) ≠ .unparseable)
    (hend : dateOf platform (credential.get? properties.end) ≠ .unparseable) :
    ValidityJudged platform credential properties now
      (validityOutcome platform credential now properties) := by
  have hexpired {stop : ℚ} (hstop : StatesDate platform credential properties.end stop) :=
    boundProblems_of_statesDate .expired now hstop (now > ·)
  have hnotYetValid {start : ℚ} (hfrom : StatesDate platform credential properties.start start) :=
    boundProblems_of_statesDate .notYetValid now hfrom (now < ·)
  unfold validityOutcome
  cases hdateStart : dateOf platform (credential.get? properties.start) with
  | unparseable => exact absurd hdateStart hstart
  | absent =>
      cases hdateEnd : dateOf platform (credential.get? properties.end) with
      | unparseable => exact absurd hdateEnd hend
      | absent =>
          exact validityJudged_of_problems "No validity period stated."
            (boundProblems_of_inside (not_outside_of_absent hdateEnd))
            (boundProblems_of_inside (not_outside_of_absent hdateStart))
      | date stop =>
          obtain ⟨problems, hproblems, hbound⟩ := hexpired (statesDate_of_dateOf hdateEnd)
          have hjudged := validityJudged_of_problems
            "The credential is within its validity period." hbound
            (boundProblems_of_inside (not_outside_of_absent hdateStart))
          rw [List.append_nil] at hjudged
          simp only [hproblems]
          exact hjudged
  | date start =>
      obtain ⟨early, hearly, hboundStart⟩ := hnotYetValid (statesDate_of_dateOf hdateStart)
      cases hdateEnd : dateOf platform (credential.get? properties.end) with
      | unparseable => exact absurd hdateEnd hend
      | absent =>
          have hjudged := validityJudged_of_problems
            "The credential is within its validity period."
            (boundProblems_of_inside (not_outside_of_absent hdateEnd)) hboundStart
          rw [List.nil_append] at hjudged
          simp only [hearly]
          exact hjudged
      | date stop =>
          obtain ⟨problems, hproblems, hboundEnd⟩ := hexpired (statesDate_of_dateOf hdateEnd)
          have hjudged := validityJudged_of_problems
            "The credential is within its validity period." hboundEnd hboundStart
          simp only [hearly, hproblems]
          exact hjudged

/-- A readable date that is a string is absent or stated. -/
theorem dateOf_readable {platform : Platform} {credential : Json}
    {properties : ValidityProperties} (name : String)
    (hname : name ∈ [properties.start, properties.end])
    (hstrings : ∀ value, credential.get? name = some value → ∃ text, value = .str text)
    (h : DatesReadable platform credential properties) :
    dateOf platform (credential.get? name) ≠ .unparseable := by
  cases hget : credential.get? name with
  | none => simp [dateOf]
  | some value =>
      obtain ⟨text, rfl⟩ := hstrings value hget
      obtain ⟨ms, hparse⟩ := Option.isSome_iff_exists.mp (h name hname text hget)
      simp [dateOf, hparse]

/-- A date that cannot be read has the check skip. -/
theorem validityOutcome_skips {platform : Platform} {credential : Json}
    {properties : ValidityProperties} (now : ℚ)
    (h : dateOf platform (credential.get? properties.start) = .unparseable ∨
      dateOf platform (credential.get? properties.end) = .unparseable) :
    ∃ reason, validityOutcome platform credential now properties =
      .ok (.skipped reason (some "unparseable-date")) := by
  unfold validityOutcome
  cases hstart : dateOf platform (credential.get? properties.start) with
  | unparseable => exact ⟨_, rfl⟩
  | absent | date =>
      rw [hstart] at h
      have hend : dateOf platform (credential.get? properties.end) = .unparseable := by
        simpa using h
      rw [hend]
      exact ⟨_, rfl⟩

/-- In a credential that passed the structure checks the validity period is judged,
at whatever instant, exactly when `new Date` reads every date it states. -/
theorem validityPeriodCheck_judges_iff {platform : Platform} {credential : Json}
    (hcontext : Passes vcContextCheck credential)
    (hstructure : Passes (vcStructureCheck platform) credential) :
    ∃ version, vcVersionOf (credential.get? "@context") = some version ∧
      ∀ context store trace result store',
        Executes ((validityPeriodCheck platform).execute
          { verifiableCredential := some credential } context store) trace (result, store') →
        (ValidityJudged platform credential (validityProperties version) context.now result ↔
          DatesReadable platform credential (validityProperties version)) := by
  have hconforming := conformingCredential_of_passes hstructure
  obtain ⟨version, hversion⟩ := vcVersionOf_isSome hcontext hconforming
  have hstrings := stated_dates_are_strings hversion hconforming.dates
  refine ⟨version, hversion, ?_⟩
  intro context store trace result store' hrun
  have htruthy : credential.truthy = true := by
    cases credential with
    | arr | obj => rfl
    | null | bool | num | str => simp [Json.get?, vcVersionOf, firstContextEntry] at hversion
  have hresult : result = validityOutcome platform credential context.now
      (validityProperties version) := by
    have hbody := (executes_pure_iff.mp hrun).2
    rw [Prod.mk.injEq] at hbody
    rw [hbody.1]
    simp only [Option.filter_some, htruthy, if_true, hversion]
  subst hresult
  constructor
  · intro hjudged name hname text hget
    by_contra hunreadable
    have hdate : dateOf platform (credential.get? name) = .unparseable := by
      rw [Option.not_isSome_iff_eq_none] at hunreadable
      simp [dateOf, hget, hunreadable]
    have hbound : dateOf platform (credential.get? (validityProperties version).start) =
          .unparseable ∨
        dateOf platform (credential.get? (validityProperties version).end) = .unparseable := by
      simp only [List.mem_cons, List.not_mem_nil, or_false] at hname
      rcases hname with rfl | rfl
      · exact .inl hdate
      · exact .inr hdate
    obtain ⟨reason, hskipped⟩ := validityOutcome_skips context.now hbound
    exact hjudged.judged _ _ _ hskipped
  · intro hreadable
    have hstart := dateOf_readable (validityProperties version).start (by simp)
      (hstrings _ (by simp)) hreadable
    have hend := dateOf_readable (validityProperties version).end (by simp)
      (hstrings _ (by simp)) hreadable
    exact validityOutcome_judged context.now hstart hend

/-! ### Dates of two grammars -/

/-- Read past the characters of `start`. -/
def takeText (start : String) (text : List Char) : Option (List Char) :=
  if start.toList.isPrefixOf text then some (text.drop start.toList.length) else none

/-- Read past so many digits whose value is within the bounds. -/
def takeNumber (count low high : Nat) (text : List Char) : Option (List Char) :=
  let digits := text.take count
  if digits.length = count ∧ digits.all isDigit ∧ low ≤ digitsValue digits ∧
      digitsValue digits ≤ high then
    some (text.drop count)
  else none

/-- Read past a sign. -/
def takeSign : List Char → Option (List Char)
  | '+' :: rest | '-' :: rest => some rest
  | _ => none

/-- Read past a decimal point and one or more digits, if they are there. -/
def dropFraction (isFractionDigit : Char → Bool) : List Char → List Char
  | '.' :: d :: rest =>
      if isFractionDigit d then rest.dropWhile isFractionDigit else '.' :: d :: rest
  | text => text

/-- `HH:mm:ss` with any fraction, or midnight at the end of a day. -/
def takeXsdTime (text : List Char) : Option (List Char) :=
  (do
    let text ← takeNumber 2 0 23 text
    let text ← takeText ":" text
    let text ← takeNumber 2 0 59 text
    let text ← takeText ":" text
    let text ← takeNumber 2 0 59 text
    some (dropFraction isDigit text)) <|>
  (takeText "24:00:00" text).map (dropFraction (· = '0'))

/-- Nothing, `Z`, or an offset of at most fourteen hours. -/
def isXsdZone (text : List Char) : Bool :=
  text = [] || text = ['Z'] ||
    ((takeSign text).bind fun text =>
      (do
        let text ← takeNumber 2 0 13 text
        let text ← takeText ":" text
        takeNumber 2 0 59 text) <|> takeText "14:00" text) = some []

/-- An XML Schema 1.1 dateTime: a year of four or more digits, the first of more than
four not zero, behind an optional minus, and then month, day, time and zone. -/
def isXsdDateTime (text : String) : Bool :=
  let unsigned := match text.toList with
    | '-' :: rest => rest
    | chars => chars
  let year := unsigned.takeWhile isDigit
  4 ≤ year.length && (year.length = 4 || year.head? ≠ some '0') &&
    ((do
      let text ← takeText "-" (unsigned.dropWhile isDigit)
      let text ← takeNumber 2 1 12 text
      let text ← takeText "-" text
      let text ← takeNumber 2 1 31 text
      let text ← takeText "T" text
      takeXsdTime text) : Option (List Char)).any isXsdZone

/-- Read past what is read, if it is there. -/
def dropOptional (take : List Char → Option (List Char)) (text : List Char) : List Char :=
  (take text).getD text

/-- A year of four digits, or of six behind a sign and not minus zero. -/
def takeEcmaYear (text : List Char) : Option (List Char) :=
  if (takeText "-000000" text).isSome then none
  else takeNumber 4 0 9999 text <|> (takeSign text).bind (takeNumber 6 0 999999)

/-- `HH:mm`, with seconds and milliseconds where they are given. -/
def takeEcmaTime (text : List Char) : Option (List Char) :=
  let seconds (high : Nat) (text : List Char) : Option (List Char) := do
    let text ← takeText ":" text
    let text ← takeNumber 2 0 high text
    some (dropOptional (fun text => (takeText "." text).bind
      (takeNumber 3 0 (if high = 0 then 0 else 999))) text)
  (do
    let text ← takeNumber 2 0 23 text
    let text ← takeText ":" text
    let text ← takeNumber 2 0 59 text
    some (dropOptional (seconds 59) text)) <|>
  (takeText "24:00" text).map (dropOptional (seconds 0))

/-- Nothing, `Z`, or an offset. -/
def isEcmaZone (text : List Char) : Bool :=
  text = [] || text = ['Z'] ||
    ((do
      let text ← takeSign text
      let text ← takeNumber 2 0 23 text
      let text ← takeText ":" text
      takeNumber 2 0 59 text) : Option (List Char)) = some []

/-- An ECMA-262 date-time string: a year, with a month and a day where they are given,
and a time behind it where one is given. -/
def isEcmaDateTime (text : String) : Bool :=
  let twoDigits (high : Nat) (text : List Char) : Option (List Char) :=
    (takeText "-" text).bind (takeNumber 2 1 high)
  let day (text : List Char) : Option (List Char) :=
    (twoDigits 12 text).map (dropOptional (twoDigits 31))
  ((takeEcmaYear text.toList).map (dropOptional day)).any fun text =>
    text = [] || ((takeText "T" text).bind takeEcmaTime).any isEcmaZone

/-- What is documented of the two readers of dates: the regular expression accepts
every XML Schema dateTime, and `new Date` reads exactly the ECMA-262 strings. -/
structure ReadsDocumentedDates (platform : Platform) : Prop where
  regex : ∀ text, isXsdDateTime text = true → platform.dateRegexTest text = true
  date : ∀ text, (platform.parseDate text).isSome = isEcmaDateTime text

/-! ### A credential with an end date -/

namespace DatedCredential

/-- A runtime that accepts every string as a URL but the empty one, and reads dates as
documented. -/
def platform : Platform :=
  { PlatformTable.platform {} with
    urlAccepts := fun url => url ≠ ""
    dateRegexTest := isXsdDateTime
    parseDate := fun text => if isEcmaDateTime text then some 0 else none }

/-- The runtime of the fixture reads the dates it lists. -/
theorem platform_readsDocumentedDates : ReadsDocumentedDates platform where
  regex _ h := h
  date text := by
    change (if isEcmaDateTime text = true then some (0 : ℚ) else none).isSome = _
    split <;> simp_all

/-- A credential that is valid until the stated date. -/
def credential (validUntil : String) : Json :=
  .obj [("@context", .arr [.str vcContextV2]), ("type", .arr [.str "VerifiableCredential"]),
    ("issuer", .str "did:example:issuer"), ("validUntil", .str validUntil),
    ("credentialSubject", .obj [("name", .str "Ada")]),
    ("credentialSchema", .obj [("id", .str "https://example.com/schema"),
      ("type", .str "JsonSchema")]),
    ("proof", .obj [("type", .str "DataIntegrityProof")])]

/-- The fixture names the second version of the data model. -/
theorem passes_vcContext (validUntil : String) : Passes vcContextCheck (credential validUntil) :=
  passes_of_pureBody rfl rfl

/-- The credential passes the structure check with any end that has the form of a date. -/
theorem passes_vcStructure {validUntil : String} (h : isXsdDateTime validUntil = true) :
    Passes (vcStructureCheck platform) (credential validUntil) := by
  apply passes_of_pureBody rfl
  apply runStructureRules_success_iff.mpr
  have hdate : checkDateTime platform (credential validUntil) "validUntil" = [] := by
    change (if platform.dateRegexTest validUntil = true then [] else _) = _
    rw [if_pos (show platform.dateRegexTest validUntil = true from h)]
  have hdates : checkDates platform (credential validUntil) = [] := by
    change checkDateTime platform (credential validUntil) "validFrom" ++
      checkDateTime platform (credential validUntil) "validUntil" = []
    rw [hdate]
    rfl
  change _ ++ _ ++ _ ++ _ ++ checkDates platform (credential validUntil) ++ _ = []
  rw [hdates]
  rfl

end DatedCredential

/-- A later reader finds what it needs in the credential. -/
theorem gate_sound_dated :
    GateSound DatedCredential.platform (DatedCredential.credential "2020-01-01T00:00:00Z") :=
  gate_sound (by decide)
    { contextExists := passes_of_pureBody rfl (by decide)
      vcContext := DatedCredential.passes_vcContext _
      vcStructure := DatedCredential.passes_vcStructure (by decide)
      proofExists := passes_of_pureBody rfl (by decide) }

/-- Its validity period is judged, since its date can be read. -/
theorem validityPeriodCheck_judges_dated :
    ∃ version, vcVersionOf ((DatedCredential.credential "2020-01-01T00:00:00Z").get? "@context") =
        some version ∧
      ∀ context store trace result store',
        Executes ((validityPeriodCheck DatedCredential.platform).execute
          { verifiableCredential := some (DatedCredential.credential "2020-01-01T00:00:00Z") }
          context store) trace (result, store') →
        (ValidityJudged DatedCredential.platform
            (DatedCredential.credential "2020-01-01T00:00:00Z") (validityProperties version)
            context.now result ↔
          DatesReadable DatedCredential.platform
            (DatedCredential.credential "2020-01-01T00:00:00Z") (validityProperties version)) :=
  validityPeriodCheck_judges_iff (DatedCredential.passes_vcContext _)
    (DatedCredential.passes_vcStructure (by decide))

/-- A credential that ended in the second year before our era passes the structure
checks, and the check of its dates skips it. -/
theorem ancientDate_escapes :
    ¬∀ (platform : Platform) (credential : Json), ReadsDocumentedDates platform →
      Passes vcContextCheck credential → Passes (vcStructureCheck platform) credential →
      ∃ version, vcVersionOf (credential.get? "@context") = some version ∧
        ∀ context store trace result store',
          Executes ((validityPeriodCheck platform).execute
            { verifiableCredential := some credential } context store) trace (result, store') →
          ValidityJudged platform credential (validityProperties version) context.now result := by
  intro hall
  obtain ⟨version, _, hjudged⟩ := hall DatedCredential.platform
    (DatedCredential.credential "-0001-12-31T23:59:59Z")
    DatedCredential.platform_readsDocumentedDates (DatedCredential.passes_vcContext _)
    (DatedCredential.passes_vcStructure (by decide))
  have hskips : Executes ((validityPeriodCheck DatedCredential.platform).execute
      { verifiableCredential := some (DatedCredential.credential "-0001-12-31T23:59:59Z") } {} {})
      [] (.ok (.skipped "validUntil is not a date, so the validity period cannot be judged."
        (some "unparseable-date")), {}) :=
    .done _
  exact (hjudged _ _ _ _ _ hskips).judged _ _ _ rfl

end VerifierCore
