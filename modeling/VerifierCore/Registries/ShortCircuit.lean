import VerifierCore.Registries.Lookup

/-!
# Stopping at the first match

A lookup stops at the first registry that lists the issuer, unless it is exhaustive.
The calls it makes are the first calls of the exhaustive lookup, answered alike, and
what it reports is the beginning of the exhaustive report.  Nothing is assumed of the
handlers, which may answer and throw as they like.

Main results:

- Theorem {lit}`executes_walkRegistries_plain` and
  {lit}`executes_walkRegistries_exhaustive`: each walk is found in the other.
- Theorem {lit}`createRegistryLookup_shortCircuit`: so is each lookup.
-/

namespace VerifierCore

open Foundations Program

/-! ## Walks -/

/-- What the plain walk makes of an exhaustive one: it ends the same way, or at the first
match, and then the calls behind it are not made. -/
inductive CutsShort : Except Thrown RegistryCheckPayload → Except Thrown RegistryCheckPayload →
    List PortEvent → Prop where
  | whole {walked : Except Thrown RegistryCheckPayload} :
      (∀ payload, walked = .ok payload → payload.matchesFound = []) → CutsShort walked walked []
  | stopped {found : RegistryMatch} {unchecked : List RegistryReference}
      {walked : Except Thrown RegistryCheckPayload} {skipped : List PortEvent} :
      (∀ payload, walked = .ok payload → payload.matchesFound.head? = some found ∧
        unchecked <+: payload.uncheckedRegistries) →
      CutsShort (.ok { matchesFound := [found], uncheckedRegistries := unchecked }) walked skipped

/-- A registry in front that goes unchecked stands in front of both reports. -/
theorem CutsShort.cons {plain walked : Except Thrown RegistryCheckPayload}
    {skipped : List PortEvent} (h : CutsShort plain walked skipped) (reference : RegistryReference) :
    CutsShort
      (plain.map fun payload =>
        { payload with uncheckedRegistries := reference :: payload.uncheckedRegistries })
      (walked.map fun payload =>
        { payload with uncheckedRegistries := reference :: payload.uncheckedRegistries })
      skipped := by
  cases h with
  | whole hnone =>
      apply CutsShort.whole
      cases plain with
      | error error => simp [Except.map]
      | ok payload =>
          rintro _ ⟨⟩
          exact hnone payload rfl
  | stopped hreport =>
      apply CutsShort.stopped
      cases walked with
      | error error => simp [Except.map]
      | ok payload =>
          rintro _ ⟨⟩
          obtain ⟨hhead, hprefix⟩ := hreport payload rfl
          exact ⟨hhead, (List.prefix_cons_inj reference).mpr hprefix⟩

section

variable {handlers : RegistryHandlerMap} {context : RegistryHandlerContext} {did : String}
  {registries : List EntityIdentityRegistry}

/-- An exhaustive walk begins with a plain one. -/
theorem executes_walkRegistries_plain {trace : List PortEvent}
    {walked : Except Thrown RegistryCheckPayload}
    (h : Executes (walkRegistries handlers context did true registries) trace walked) :
    ∃ front skipped plain, trace = front ++ skipped ∧
      Executes (walkRegistries handlers context did false registries) front plain ∧
      CutsShort plain walked skipped := by
  induction registries generalizing trace walked with
  | nil =>
      obtain ⟨rfl, rfl⟩ := executes_pure_iff.mp h
      exact ⟨[], [], _, rfl, .done _, .whole (by simp)⟩
  | cons registry rest ih =>
      obtain ⟨events, later, outcome, rfl, hhandler, hrest⟩ := executes_bind_iff.mp h
      match outcome with
      | .error error =>
          obtain ⟨rfl, rfl⟩ := executes_pure_iff.mp hrest
          refine ⟨events, [], .error error, by simp, ?_, .whole (by simp)⟩
          exact executes_bind_iff.mpr
            ⟨events, [], _, by simp, hhandler, executes_pure_iff.mpr ⟨rfl, rfl⟩⟩
      | .ok (.found entity) =>
          dsimp only at hrest
          rw [if_pos rfl] at hrest
          obtain ⟨walk, last, behind, rfl, _, hpure⟩ := executes_bind_iff.mp hrest
          obtain ⟨rfl, rfl⟩ := executes_pure_iff.mp hpure
          let found : RegistryMatch :=
            { registry := registryReference registry, entity := entity }
          refine ⟨events, walk, .ok { matchesFound := [found], uncheckedRegistries := [] },
            by simp, ?_, .stopped ?_⟩
          · exact executes_bind_iff.mpr
              ⟨events, [], _, by simp, hhandler, executes_pure_iff.mpr ⟨rfl, rfl⟩⟩
          · cases behind with
            | error error => simp [Except.map]
            | ok payload =>
                rintro _ ⟨⟩
                exact ⟨rfl, List.nil_prefix⟩
      | .ok .notFound =>
          obtain ⟨front, skipped, plain, rfl, hplain, hcut⟩ := ih hrest
          refine ⟨events ++ front, skipped, plain, by simp, ?_, hcut⟩
          exact executes_bind_iff.mpr ⟨events, front, _, rfl, hhandler, hplain⟩
      | .ok .unchecked =>
          obtain ⟨walk, last, behind, rfl, hwalk, hpure⟩ := executes_bind_iff.mp hrest
          obtain ⟨rfl, rfl⟩ := executes_pure_iff.mp hpure
          obtain ⟨front, skipped, plain, rfl, hplain, hcut⟩ := ih hwalk
          refine ⟨events ++ front, skipped, _, by simp, ?_, hcut.cons (registryReference registry)⟩
          refine executes_bind_iff.mpr ⟨events, front, _, rfl, hhandler, ?_⟩
          exact executes_bind_iff.mpr
            ⟨front, [], _, by simp, hplain, executes_pure_iff.mpr ⟨rfl, rfl⟩⟩

/-- A plain walk can be continued to an exhaustive one. -/
theorem executes_walkRegistries_exhaustive {front : List PortEvent}
    {plain : Except Thrown RegistryCheckPayload}
    (h : Executes (walkRegistries handlers context did false registries) front plain) :
    ∃ skipped walked,
      Executes (walkRegistries handlers context did true registries) (front ++ skipped) walked ∧
      CutsShort plain walked skipped := by
  induction registries generalizing front plain with
  | nil =>
      obtain ⟨rfl, rfl⟩ := executes_pure_iff.mp h
      exact ⟨[], _, .done _, .whole (by simp)⟩
  | cons registry rest ih =>
      obtain ⟨events, later, outcome, rfl, hhandler, hrest⟩ := executes_bind_iff.mp h
      match outcome with
      | .error error =>
          obtain ⟨rfl, rfl⟩ := executes_pure_iff.mp hrest
          refine ⟨[], .error error, ?_, .whole (by simp)⟩
          exact executes_bind_iff.mpr
            ⟨events, [], _, by simp, hhandler, executes_pure_iff.mpr ⟨rfl, rfl⟩⟩
      | .ok (.found entity) =>
          dsimp only at hrest
          rw [if_neg Bool.false_ne_true] at hrest
          obtain ⟨rfl, rfl⟩ := executes_pure_iff.mp hrest
          -- The rest of the exhaustive walk is answered somehow.
          obtain ⟨walk, behind, hwalk⟩ :=
            exists_executes (walkRegistries handlers context did true rest)
          let found : RegistryMatch :=
            { registry := registryReference registry, entity := entity }
          refine ⟨walk, behind.map fun payload =>
            { payload with matchesFound := found :: payload.matchesFound }, ?_, .stopped ?_⟩
          · refine executes_bind_iff.mpr ⟨events, walk, _, by simp, hhandler, ?_⟩
            dsimp only
            rw [if_pos rfl]
            exact executes_bind_iff.mpr
              ⟨walk, [], behind, by simp, hwalk, executes_pure_iff.mpr ⟨rfl, rfl⟩⟩
          · cases behind with
            | error error => simp [Except.map]
            | ok payload =>
                rintro _ ⟨⟩
                exact ⟨rfl, List.nil_prefix⟩
      | .ok .notFound =>
          obtain ⟨skipped, walked, hwalk, hcut⟩ := ih hrest
          refine ⟨skipped, walked, ?_, hcut⟩
          exact executes_bind_iff.mpr ⟨events, later ++ skipped, _, by simp, hhandler, hwalk⟩
      | .ok .unchecked =>
          obtain ⟨walk, last, behind, rfl, hwalk, hpure⟩ := executes_bind_iff.mp hrest
          obtain ⟨rfl, rfl⟩ := executes_pure_iff.mp hpure
          obtain ⟨skipped, walked, hexhaustive, hcut⟩ := ih hwalk
          refine ⟨skipped, _, ?_, hcut.cons (registryReference registry)⟩
          refine executes_bind_iff.mpr ⟨events, walk ++ skipped, _, by simp, hhandler, ?_⟩
          exact executes_bind_iff.mpr
            ⟨walk ++ skipped, [], _, by simp, hexhaustive, executes_pure_iff.mpr ⟨rfl, rfl⟩⟩

end

/-! ## Lookups -/

/-- How the outcome of a plain lookup relates to that of the exhaustive one. -/
structure BeginsReport (plain exhaustive : Except Thrown RegistryLookupResult) : Prop where
  /-- A plain lookup is thrown out of where the exhaustive one is. -/
  threw : ∀ error, plain = .error error → exhaustive = .error error
  /-- What both return agrees up to the first match. -/
  returned : ∀ result, exhaustive = .ok result → ∃ short, plain = .ok short ∧
    short.found = result.found ∧ short.matchesFound = result.matchesFound.take 1 ∧
      short.uncheckedRegistries <+: result.uncheckedRegistries
  /-- Without a match they do not differ. -/
  unfound : ∀ short, plain = .ok short → short.found = false → exhaustive = plain

theorem CutsShort.beginsReport {plain walked : Except Thrown RegistryCheckPayload}
    {skipped : List PortEvent} (h : CutsShort plain walked skipped) :
    BeginsReport (plain.map lookupResultOf) (walked.map lookupResultOf) := by
  cases h with
  | whole hnone =>
      refine ⟨fun _ herror => herror, ?_, fun _ _ _ => rfl⟩
      intro result hresult
      refine ⟨result, hresult, rfl, ?_, List.prefix_refl _⟩
      cases plain with
      | error error => cases hresult
      | ok payload =>
          cases hresult
          have hmatches := hnone payload rfl
          simp [lookupResultOf, hmatches]
  | @stopped found unchecked _ _ hreport =>
      refine ⟨by rintro error ⟨⟩, ?_, ?_⟩
      · intro result hresult
        cases walked with
        | error error => cases hresult
        | ok payload =>
            cases hresult
            obtain ⟨hhead, hprefix⟩ := hreport payload rfl
            refine ⟨_, rfl, ?_⟩
            cases hmatches : payload.matchesFound with
            | nil => simp [hmatches] at hhead
            | cons first others =>
                have hfirst : first = found := by simpa [hmatches] using hhead
                subst hfirst
                simp [lookupResultOf, hmatches, hprefix]
      · rintro short ⟨⟩ hfound
        simp [lookupResultOf] at hfound

/-- The event that stores a result, if there is one to store. -/
def storeEvents (did : String) (registries : List EntityIdentityRegistry) :
    Except Thrown RegistryLookupResult → List PortEvent
  | .error _ => []
  | .ok result => [⟨.cacheSet (resultCacheKey did registries) (.lookupResult result)
      ((resultTtl result : WithTop ℚ) : Num), ()⟩]

/-- A lookup that does not read the result cache is a walk and the store of its result. -/
theorem executes_lookupAndStore_iff {handlers : RegistryHandlerMap}
    {context : RegistryHandlerContext} {did : String} {registries : List EntityIdentityRegistry}
    {exhaustive : Bool} {trace : List PortEvent} {outcome : Except Thrown RegistryLookupResult} :
    Executes (lookupAndStore handlers context did registries exhaustive) trace outcome ↔
      ∃ events walked, trace = events ++ storeEvents did registries outcome ∧
        Executes (walkRegistries handlers context did exhaustive registries) events walked ∧
        outcome = walked.map lookupResultOf := by
  rw [lookupAndStore, executes_bind_iff]
  constructor
  · rintro ⟨events, last, walked, rfl, hwalk, hlast⟩
    refine ⟨events, walked, ?_, hwalk, ?_⟩
    · cases walked with
      | error error =>
          obtain ⟨rfl, rfl⟩ := executes_pure_iff.mp hlast
          rfl
      | ok payload =>
          obtain ⟨_, rest, rfl, hrest⟩ := executes_ask_bind_iff.mp hlast
          obtain ⟨rfl, rfl⟩ := executes_pure_iff.mp hrest
          rfl
    · cases walked with
      | error error => exact (executes_pure_iff.mp hlast).2
      | ok payload =>
          obtain ⟨_, rest, _, hrest⟩ := executes_ask_bind_iff.mp hlast
          exact (executes_pure_iff.mp hrest).2
  · rintro ⟨events, walked, rfl, hwalk, rfl⟩
    refine ⟨events, _, walked, rfl, hwalk, ?_⟩
    cases walked with
    | error error => exact .done _
    | ok payload => exact .call (.done _)

/-- A fresh lookup that stops at the first match makes the first calls of the exhaustive
one, and its report is the beginning of the exhaustive report; and every fresh lookup can
be continued so. -/
theorem createRegistryLookup_shortCircuit (handlers : RegistryHandlerMap)
    (context : RegistryHandlerContext) (did : String) (registries : List EntityIdentityRegistry) :
    (∀ trace outcome,
      Executes (createRegistryLookup handlers context did registries
        { fresh := true, exhaustive := true }) trace outcome →
      ∃ front skipped plain, trace = front ++ skipped ++ storeEvents did registries outcome ∧
        Executes (createRegistryLookup handlers context did registries { fresh := true })
          (front ++ storeEvents did registries plain) plain ∧
        BeginsReport plain outcome) ∧
    ∀ trace plain,
      Executes (createRegistryLookup handlers context did registries { fresh := true }) trace
        plain →
      ∃ front skipped outcome, trace = front ++ storeEvents did registries plain ∧
        Executes (createRegistryLookup handlers context did registries
          { fresh := true, exhaustive := true })
          (front ++ skipped ++ storeEvents did registries outcome) outcome ∧
        BeginsReport plain outcome := by
  simp only [createRegistryLookup, if_true, executes_lookupAndStore_iff]
  constructor
  · rintro trace outcome ⟨events, walked, rfl, hwalk, rfl⟩
    obtain ⟨front, skipped, plain, rfl, hplain, hcut⟩ := executes_walkRegistries_plain hwalk
    exact ⟨front, skipped, _, rfl, ⟨front, plain, rfl, hplain, rfl⟩, hcut.beginsReport⟩
  · rintro trace outcome ⟨front, plain, rfl, hplain, rfl⟩
    obtain ⟨skipped, walked, hwalk, hcut⟩ := executes_walkRegistries_exhaustive hplain
    exact ⟨front, skipped, _, rfl, ⟨front ++ skipped, walked, rfl, hwalk, rfl⟩, hcut.beginsReport⟩

end VerifierCore
