import VerifierCore.Suites.Status

/-!
# What the status of the bitstring check depends on

The status of the bitstring check is a function of the `credentialStatus` entries that
are not ignored, in any order, once the status list library is known to report an error
exactly for bad entries, and one bit for every other entry it selects.

Main results:

- Theorem {lit}`isChecked_eq`: the check and the library select the same entries.
- Theorem {lit}`status_bitstringRun`: the status of a run, as a function of the entries.
- Theorem {lit}`bitstringStatus_byEntries`: what follows for the order of the entries and
  for entries that are ignored.
-/

namespace VerifierCore

open Foundations Program

/-! ## The status of an outcome -/

/-- The status of an outcome. -/
inductive OutcomeStatus where
  | success
  | failure
  | skipped
deriving DecidableEq

/-- The status of an outcome, without its texts. -/
def CheckOutcome.status : CheckOutcome → OutcomeStatus
  | .success .. => .success
  | .failure .. => .failure
  | .skipped .. => .skipped

@[simp]
theorem CheckOutcome.status_success (message : String) (payload : Option CheckPayload) :
    (success message payload).status = .success :=
  rfl

@[simp]
theorem CheckOutcome.status_failure (problems : List ProblemDetail)
    (payload : Option CheckPayload) : (failure problems payload).status = .failure :=
  rfl

@[simp]
theorem CheckOutcome.status_skipped (reason : String) (code haltedBy : Option String) :
    (skipped reason code haltedBy).status = .skipped :=
  rfl

/-! ## Entries -/

/-- The `credentialStatus` entries of a credential; a falsy value has none. -/
def statusEntries (credential : Json) : List Json :=
  (credentialStatusEntries credential).map fun entry => entry.1

/-- An entry the check fails on. -/
def isMalformed (entry : Json) : Bool :=
  match classifyStatusEntry entry with
  | .malformed .. => true
  | _ => false

/-- An entry whose bit is read. -/
def isChecked (entry : Json) : Bool :=
  match classifyStatusEntry entry with
  | .checked _ => true
  | _ => false

/-- A well-formed entry of another type or for another purpose. -/
def isIgnored (entry : Json) : Bool :=
  match classifyStatusEntry entry with
  | .otherType _ | .otherPurpose _ => true
  | _ => false

/-- What the library selects: Bitstring entries for one of the purposes, with a type that
is the entry type or an array that includes it. -/
def isSelected (entry : Json) : Bool :=
  isPlainObject (some entry) && bitstringEntryType ∈ stringValues (entry.get? "type") &&
    (asString (entry.get? "statusPurpose")).any fun purpose => purpose ∈ checkedStatusPurposes

/-- The check reads the entries the library selects. -/
theorem isChecked_eq (entry : Json) : isChecked entry = isSelected entry := by
  unfold isChecked classifyStatusEntry isSelected
  by_cases hplain : isPlainObject (some entry) = true
  · cases htypes : stringValues (entry.get? "type") with
    | nil => simp [hplain]
    | cons type types =>
        by_cases hbitstring : bitstringEntryType ∈ type :: types
        · cases hpurpose : asString (entry.get? "statusPurpose") with
          | none => simp [hplain, hbitstring]
          | some purpose =>
              by_cases hchecked : purpose ∈ checkedStatusPurposes
              · simp [hplain, hbitstring, hchecked]
              · simp [hplain, hbitstring, hchecked]
        · simp [hplain, hbitstring]
  · simp [hplain]

/-- An entry is passed over exactly if it is neither malformed nor asked about. -/
theorem isIgnored_eq (entry : Json) :
    isIgnored entry = (!isMalformed entry && !isSelected entry) := by
  rw [← isChecked_eq]
  unfold isIgnored isMalformed isChecked
  cases classifyStatusEntry entry <;> rfl

/-! ### Sorting -/

/-- The sorting is empty exactly if there is no entry. -/
theorem sortStatusEntries_empty (credential : Json) :
    (sortStatusEntries credential).empty = true ↔ statusEntries credential = [] := by
  simp [sortStatusEntries, statusEntries]

/-- The sorting reports a malformed entry exactly if there is one. -/
theorem sortStatusEntries_malformed (credential : Json) :
    (sortStatusEntries credential).malformed.length > 0 ↔
      (statusEntries credential).any isMalformed = true := by
  rw [gt_iff_lt, List.length_pos_iff_exists_mem, List.any_eq_true]
  constructor
  · rintro ⟨problem, hproblem⟩
    rcases List.mem_filterMap.mp hproblem with ⟨sorted, hsorted, hsome⟩
    rcases List.mem_map.mp hsorted with ⟨entry, hentry, rfl⟩
    refine ⟨entry.1, List.mem_map_of_mem hentry, ?_⟩
    unfold isMalformed
    cases hclass : classifyStatusEntry entry.1 <;> simp_all
  · rintro ⟨value, hvalue, hmalformed⟩
    rcases List.mem_map.mp hvalue with ⟨entry, hentry, rfl⟩
    unfold isMalformed at hmalformed
    cases hclass : classifyStatusEntry entry.1 with
    | malformed field detail =>
        cases field with
        | none =>
            refine ⟨malformedEntryProblem entry.2 detail, List.mem_filterMap.mpr
              ⟨_, List.mem_map_of_mem hentry, ?_⟩⟩
            rw [hclass]
        | some field =>
            refine ⟨malformedEntryProblem (entry.2 ++ [.name field]) detail,
              List.mem_filterMap.mpr ⟨_, List.mem_map_of_mem hentry, ?_⟩⟩
            rw [hclass]
    | checked | otherType | otherPurpose => simp [hclass] at hmalformed

/-- The sorting asks about no entry exactly if none is selected. -/
theorem sortStatusEntries_checked (credential : Json) :
    (sortStatusEntries credential).checked = 0 ↔
      (statusEntries credential).any isSelected = false := by
  have hcount : (sortStatusEntries credential).checked =
      (statusEntries credential).countP isSelected := by
    have hsame : isSelected = isChecked := funext fun entry => (isChecked_eq entry).symm
    rw [hsame, statusEntries, List.countP_map]
    exact List.countP_map
  rw [hcount, List.countP_eq_zero, List.any_eq_false]

/-! ## The library -/

/-- What holds of the entries the library selects: whether an entry or its list is bad, and
its bit if neither is. -/
structure StatusLibrary where
  bad : Json → Bool
  bit : Json → Bool

/-- The result for an entry that is not bad. -/
def StatusLibrary.result (library : StatusLibrary) (entry : Json) : StatusEntryResult :=
  { status := some (.bool (library.bit entry)), credentialStatus := some entry }

/-- The entries the library is asked about. -/
def selectedEntries (credential : Json) : List Json :=
  (statusEntries credential).filter isSelected

/-- The library reports an error exactly if a selected entry is bad, and otherwise one
result for each selected entry. -/
inductive StatusLibrary.Answers (library : StatusLibrary) (credential : Json) :
    Except StatusError StatusCheckResult → Prop where
  | threw (error : StatusError) : (selectedEntries credential).any library.bad = true →
      library.Answers credential (.error error)
  | error (result : StatusCheckResult) (error : StatusError) :
      (selectedEntries credential).any library.bad = true → result.error = some error →
      library.Answers credential (.ok result)
  | read (result : StatusCheckResult) : (selectedEntries credential).any library.bad = false →
      result.error = none →
      result.results.Perm ((selectedEntries credential).map library.result) →
      library.Answers credential (.ok result)

/-- A run of the check on a credential, with the library answering as described. -/
inductive BitstringRun (platform : Platform) (library : StatusLibrary) (credential : Json) :
    CheckOutcome → Prop where
  | intro {subject : VerificationSubject} {context : VerificationContext}
      {store store' : ContextStore} {trace : List PortEvent} {outcome : CheckOutcome} :
      subject.verifiableCredential = some credential →
      Executes ((bitstringStatusCheck platform).execute subject context store) trace
        (.ok outcome, store') →
      (∀ verdicts answer, ⟨.readStatusLists credential verdicts, answer⟩ ∈ trace →
        library.Answers credential answer) →
      BitstringRun platform library credential outcome

/-- The status the entries settle. -/
def settledStatus (library : StatusLibrary) (entries : List Json) : OutcomeStatus :=
  if entries.any isMalformed then .failure
  else if !entries.any isSelected then .skipped
  else if entries.any fun entry => isSelected entry && (library.bad entry || library.bit entry) then
    .failure
  else .success

/-! ## One run -/

/-- There is one result for each element. -/
theorem length_mapM_except {α β ε : Type} {f : α → Except ε β} {as : List α} {bs : List β}
    (h : as.mapM f = .ok bs) : bs.length = as.length := by
  induction as generalizing bs with
  | nil =>
      cases h
      rfl
  | cons a as ih =>
      rw [List.mapM_cons] at h
      cases hfirst : f a with
      | error error =>
          rw [hfirst] at h
          cases h
      | ok b =>
          cases hrest : as.mapM f with
          | error error =>
              rw [hfirst, hrest] at h
              cases h
          | ok rest =>
              rw [hfirst, hrest] at h
              cases h
              simp [ih hrest]

/-- Once every bit was read, a set bit decides. -/
theorem status_statusOutcome (platform : Platform) (sorted : SortedStatusEntries)
    (results : List StatusEntryResult) :
    (statusOutcome platform sorted results).status =
      if results.any fun result => result.status = some (.bool true) then .failure
      else .success := by
  unfold statusOutcome
  cases hflagged : results.filter fun result => result.status = some (.bool true) with
  | nil =>
      have hnone : (results.any fun result => result.status = some (.bool true)) = false := by
        rw [List.any_eq_false]
        exact List.filter_eq_nil_iff.mp hflagged
      rw [hnone]
      rfl
  | cons flagged rest =>
      have hsome : (results.any fun result => result.status = some (.bool true)) = true := by
        have hmem : flagged ∈ results.filter fun result => result.status = some (.bool true) := by
          rw [hflagged]
          exact List.mem_cons_self
        rw [List.any_eq_true]
        exact ⟨flagged, List.mem_filter.mp hmem⟩
      rw [hsome]
      dsimp only
      split
      · rfl
      · rename_i problems hproblems
        have hlength := length_mapM_except hproblems
        rw [if_pos (by simp [hlength])]
        rfl

/-- The results of the library have the bits of the selected entries. -/
theorem any_bit_of_perm {library : StatusLibrary} {selected : List Json}
    {results : List StatusEntryResult} (h : results.Perm (selected.map library.result)) :
    (results.any fun result => result.status = some (.bool true)) = selected.any library.bit := by
  rw [h.any_eq, List.any_map]
  congr 1
  funext entry
  cases hbit : library.bit entry <;> simp [StatusLibrary.result, hbit]

/-- Where something is selected and nothing is malformed, the library decides. -/
theorem settledStatus_of_selected {library : StatusLibrary} {credential : Json}
    (hmalformed : (statusEntries credential).any isMalformed = false)
    (hselected : (statusEntries credential).any isSelected = true) :
    settledStatus library (statusEntries credential) =
      if (selectedEntries credential).any library.bad || (selectedEntries credential).any library.bit
      then .failure else .success := by
  have hor (entries : List Json) : (entries.any fun entry => library.bad entry || library.bit entry) =
      (entries.any library.bad || entries.any library.bit) := by
    induction entries with
    | nil => rfl
    | cons entry rest ih =>
        simp only [List.any_cons, ih]
        cases library.bad entry <;> cases library.bit entry <;> simp
  rw [settledStatus, hmalformed, hselected, ← hor, selectedEntries, List.any_filter]
  rfl

/-- The status of a run is settled by the entries. -/
theorem status_bitstringRun {platform : Platform} {library : StatusLibrary} {credential : Json}
    {outcome : CheckOutcome} (h : BitstringRun platform library credential outcome) :
    outcome.status = settledStatus library (statusEntries credential) := by
  rcases h with ⟨hcredential, hexecutes, hanswers⟩
  rename_i subject context store store' trace
  unfold bitstringStatusCheck at hexecutes
  dsimp only at hexecutes
  rw [hcredential] at hexecutes
  split at hexecutes
  · rename_i hfalsy
    have hempty : statusEntries credential = [] := by
      cases credential with
      | obj => simp [Option.filter, Json.truthy] at hfalsy
      | null | bool | num | str | arr => rfl
    rw [executes_pure_iff, Prod.mk.injEq] at hexecutes
    cases hexecutes.2.1
    simp [settledStatus, hempty]
  · rename_i truthyCredential htruthy
    cases Option.eq_some_of_filter_eq_some htruthy
    split_ifs at hexecutes with hempty hmalformed hchecked
    · rw [executes_pure_iff, Prod.mk.injEq] at hexecutes
      cases hexecutes.2.1
      rw [sortStatusEntries_empty] at hempty
      simp [settledStatus, hempty]
    · rw [executes_pure_iff, Prod.mk.injEq] at hexecutes
      cases hexecutes.2.1
      rw [sortStatusEntries_malformed] at hmalformed
      simp [settledStatus, hmalformed]
    · rw [executes_pure_iff, Prod.mk.injEq] at hexecutes
      cases hexecutes.2.1
      rw [sortStatusEntries_malformed, Bool.not_eq_true] at hmalformed
      rw [sortStatusEntries_checked] at hchecked
      simp [settledStatus, hmalformed, hchecked]
    · rw [sortStatusEntries_malformed, Bool.not_eq_true] at hmalformed
      rw [sortStatusEntries_checked, Bool.not_eq_false] at hchecked
      rcases executes_ask_bind_iff.mp hexecutes with ⟨loaded, rest, rfl, hverify⟩
      rcases executes_bind_iff.mp hverify with ⟨verifying, reading, verified, rfl, _, hread⟩
      rcases executes_ask_bind_iff.mp hread with ⟨answer, back, rfl, hpure⟩
      rw [executes_pure_iff, Prod.mk.injEq, Except.ok.injEq] at hpure
      have hanswer := hanswers verified.1 answer (by simp)
      rw [hpure.2.1, settledStatus_of_selected hmalformed hchecked]
      cases hanswer with
      | threw error hbad =>
          rw [hbad]
          rfl
      | error result error hbad herror =>
          dsimp only
          rw [hbad, herror]
          rfl
      | read result hgood hnone hresults =>
          dsimp only
          rw [hnone, hgood, Bool.false_or, ← any_bit_of_perm hresults]
          exact status_statusOutcome platform _ _

/-! ## What matters -/

/-- The order of the entries does not decide the status. -/
theorem settledStatus_perm {library : StatusLibrary} {entries entries' : List Json}
    (h : entries.Perm entries') :
    settledStatus library entries = settledStatus library entries' := by
  simp only [settledStatus, h.any_eq]

/-- Ignored entries do not matter. -/
theorem settledStatus_filter (library : StatusLibrary) (entries : List Json) :
    settledStatus library (entries.filter fun entry => !isIgnored entry) =
      settledStatus library entries := by
  have hany (q : Json → Bool) (hq : ∀ entry, q entry = true → isIgnored entry = false) :
      ((entries.filter fun entry => !isIgnored entry).any q) = entries.any q := by
    rw [List.any_filter]
    congr 1
    funext entry
    cases hvalue : q entry with
    | false => simp
    | true => simp [hq entry hvalue]
  have hmalformed := hany isMalformed fun entry h => by simp [isIgnored_eq, h]
  have hselected := hany isSelected fun entry h => by simp [isIgnored_eq, h]
  have hdecides := hany
    (fun entry => isSelected entry && (library.bad entry || library.bit entry))
    fun entry h => by
      rw [Bool.and_eq_true] at h
      simp [isIgnored_eq, h.1]
  simp only [settledStatus, hmalformed, hselected, hdecides]

/-! ### The three statuses -/

/-- One malformed entry fails the check, whatever the others are. -/
theorem settledStatus_of_malformed {library : StatusLibrary} {entries : List Json}
    (h : ∃ entry ∈ entries, isMalformed entry = true) : settledStatus library entries = .failure := by
  rw [settledStatus, if_pos (List.any_eq_true.mpr h)]

/-- The check is skipped exactly if all entries are passed over. -/
theorem settledStatus_eq_skipped_iff {library : StatusLibrary} {entries : List Json} :
    settledStatus library entries = .skipped ↔
      ∀ entry ∈ entries, isMalformed entry = false ∧ isSelected entry = false := by
  have hall : (∀ entry ∈ entries, isMalformed entry = false ∧ isSelected entry = false) ↔
      entries.any isMalformed = false ∧ entries.any isSelected = false := by
    simp only [List.any_eq_false, Bool.not_eq_true, forall₂_and]
  rw [hall, settledStatus]
  split_ifs with hmalformed hselected hdecides
  · simp [hmalformed]
  · simpa [hmalformed] using hselected
  · simpa [hmalformed] using hselected
  · simpa [hmalformed] using hselected

/-- The settled status is a success exactly if some entry is selected, none is malformed, and no
list of a selected one is bad or has its bit set. -/
theorem settledStatus_eq_success_iff {library : StatusLibrary} {entries : List Json} :
    settledStatus library entries = .success ↔
      (∃ entry ∈ entries, isSelected entry = true) ∧
        ∀ entry ∈ entries, isMalformed entry = false ∧
          (isSelected entry = true → library.bad entry = false ∧ library.bit entry = false) := by
  have hall : (∀ entry ∈ entries, isMalformed entry = false ∧
        (isSelected entry = true → library.bad entry = false ∧ library.bit entry = false)) ↔
      entries.any isMalformed = false ∧
        (entries.any fun entry => isSelected entry && (library.bad entry || library.bit entry)) =
          false := by
    simp only [List.any_eq_false, Bool.not_eq_true, forall₂_and, Bool.and_eq_false_imp,
      Bool.or_eq_false_iff]
  rw [hall, ← List.any_eq_true, settledStatus]
  split_ifs with hmalformed hselected hdecides
  · simp [hmalformed]
  · simp only [Bool.not_eq_true'] at hselected
    simp [hselected]
  · simp [hdecides]
  · simp only [Bool.not_eq_true', Bool.not_eq_false] at hselected
    simp [hmalformed, hselected, hdecides]

/-- The status of the check is the same for the same entries in another order, and with
other ignored entries among them.  A malformed entry fails it, it is skipped exactly if no
entry is malformed or checked, and it succeeds exactly if some entry is checked, none is
malformed, and no checked entry is bad or has its bit set. -/
theorem bitstringStatus_byEntries (platform : Platform) (library : StatusLibrary) :
    (∀ credential credential' outcome outcome',
      BitstringRun platform library credential outcome →
      BitstringRun platform library credential' outcome' →
      ((statusEntries credential).filter fun entry => !isIgnored entry).Perm
        ((statusEntries credential').filter fun entry => !isIgnored entry) →
      outcome.status = outcome'.status) ∧
    ∀ credential outcome, BitstringRun platform library credential outcome →
      ((∃ entry ∈ statusEntries credential, isMalformed entry = true) →
        outcome.status = .failure) ∧
      (outcome.status = .skipped ↔
        ∀ entry ∈ statusEntries credential, isMalformed entry = false ∧ isChecked entry = false) ∧
      (outcome.status = .success ↔
        (∃ entry ∈ statusEntries credential, isChecked entry = true) ∧
          ∀ entry ∈ statusEntries credential, isMalformed entry = false ∧
            (isChecked entry = true → library.bad entry = false ∧ library.bit entry = false)) := by
  constructor
  · intro credential credential' outcome outcome' hrun hrun' hperm
    rw [status_bitstringRun hrun, status_bitstringRun hrun', ← settledStatus_filter,
      settledStatus_perm hperm, settledStatus_filter]
  · intro credential outcome hrun
    rw [status_bitstringRun hrun]
    simp only [isChecked_eq]
    exact ⟨settledStatus_of_malformed, settledStatus_eq_skipped_iff, settledStatus_eq_success_iff⟩

/-! ### A legacy entry in front of one that is checked -/

namespace LegacyInFront

/-- An entry of a type that is passed over. -/
def legacyEntry : Json :=
  .obj [("type", .str "StatusList2021Entry")]

/-- An entry the library is asked about. -/
def checkedEntry : Json :=
  .obj [("type", .arr [.str bitstringEntryType]), ("statusPurpose", .str "revocation"),
    ("statusListCredential", .str "https://list"), ("statusListIndex", .str "1")]

/-- A credential with both. -/
def credential : Json :=
  .obj [("credentialStatus", .arr [legacyEntry, checkedEntry])]

/-- A credential that states the checked entry by itself. -/
def single : Json :=
  .obj [("credentialStatus", checkedEntry)]

/-- A runtime without URLs and dates. -/
def platform : Platform :=
  PlatformTable.platform {}

/-- No entry is bad, and the bit of each is set. -/
def library : StatusLibrary where
  bad _ := false
  bit _ := true

/-- What the library reads for both credentials. -/
def read : StatusCheckResult :=
  { error := none, results := [library.result checkedEntry] }

/-- The calls of the check on one of them. -/
def calls (document : Json) : List PortEvent :=
  [⟨.loadStatusLists document, []⟩, ⟨.readStatusLists document [], .ok read⟩]

/-- The outcome that the answers of the library settle. -/
def outcome (document : Json) : CheckOutcome :=
  statusOutcome platform (sortStatusEntries document) read.results

/-- The library answers for the one selected entry. -/
theorem answers {document : Json} (hselected : selectedEntries document = [checkedEntry]) :
    library.Answers document (.ok read) := by
  refine .read read ?_ rfl ?_
  · simp [hselected, library]
  · simp [hselected, read]

/-- A run of the check with these answers. -/
theorem run {document : Json} (hselected : selectedEntries document = [checkedEntry])
    (hexecutes : Executes ((bitstringStatusCheck platform).execute
      { verifiableCredential := some document } {} {}) (calls document)
      (.ok (outcome document), { verifiedLists := some [] })) :
    BitstringRun platform library document (outcome document) := by
  refine .intro rfl hexecutes ?_
  intro verdicts answer hmem
  have hanswer : answer = .ok read := by
    rcases List.mem_cons.mp hmem with hload | hread
    · cases hload
    · cases List.mem_singleton.mp hread
      rfl
  rw [hanswer]
  exact answers hselected

end LegacyInFront

/-- The legacy entry in front changes nothing, and the set bit keeps the check from
succeeding. -/
theorem bitstringStatus_byEntries_legacyInFront :
    (LegacyInFront.outcome LegacyInFront.credential).status =
        (LegacyInFront.outcome LegacyInFront.single).status ∧
      (LegacyInFront.outcome LegacyInFront.single).status ≠ .success := by
  have hboth := LegacyInFront.run (by decide +kernel : selectedEntries LegacyInFront.credential =
    [LegacyInFront.checkedEntry]) (replay_eq_some_iff.mp rfl)
  have hsingle := LegacyInFront.run (by decide +kernel : selectedEntries LegacyInFront.single =
    [LegacyInFront.checkedEntry]) (replay_eq_some_iff.mp rfl)
  have hstatus := bitstringStatus_byEntries LegacyInFront.platform LegacyInFront.library
  refine ⟨hstatus.1 _ _ _ _ hboth hsingle (List.Perm.of_eq (by decide +kernel)), ?_⟩
  intro hsuccess
  have hentries := ((hstatus.2 _ _ hsingle).2.2.mp hsuccess).2 LegacyInFront.checkedEntry
    (by decide +kernel)
  cases (hentries.2 (by decide +kernel)).2

end VerifierCore
