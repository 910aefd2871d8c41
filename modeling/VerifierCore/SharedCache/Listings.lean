import VerifierCore.SharedCache.ReadThrough

/-!
# Lookups in files

Lookups of any issuers in any lists of `dcc-legacy` registries, plain, fresh and
exhaustive ones among each other, through the cache of files and the cache of results.
While the files do not change, every lookup finds an issuer exactly if one of its
registries lists it, and what it reports of the registries is what their files say.

Main results:

- Theorem {lit}`Walked.reportsFixedAnswers`: what a walk reports, exhaustive or not.
- Theorem {lit}`reportsFixedAnswers_of_run`: so does every lookup, whichever lookup its
  result was stored by.
- Theorem {lit}`lookups_reportListings`: lookups report what the files list.
-/

namespace VerifierCore

open Foundations Program

/-! ## Reports of answers -/

section

variable {answer : String → EntityIdentityRegistry → HandlerResult} {did : String}

/-- The report says of registries what their handlers answer.  Of the registries that
find the issuer, at least one is reported. -/
structure ReportsFixedAnswers (answer : String → EntityIdentityRegistry → HandlerResult) (did : String)
    (registries : List EntityIdentityRegistry) (payload : RegistryCheckPayload) : Prop where
  found : payload.matchesFound ≠ [] ↔
    ∃ registry ∈ registries, (expectedMatch answer did registry).isSome
  matched : ∀ found ∈ payload.matchesFound,
    ∃ registry ∈ registries, expectedMatch answer did registry = some found
  unchecked : ∀ reference ∈ payload.uncheckedRegistries,
    ∃ registry ∈ registries, expectedUnchecked answer did registry = some reference

/-- A walk passes a registry over only if it does not find the issuer. -/
theorem Walked.found_iff {exhaustive : Bool} {registries : List EntityIdentityRegistry}
    {visits : List Visit} (hwalked : Walked exhaustive registries visits)
    (hfixed : ∀ visit ∈ visits, visit.outcome = .ok (answer did visit.registry)) :
    (reportVisits visits).matchesFound ≠ [] ↔
      ∃ registry ∈ registries, (expectedMatch answer did registry).isSome := by
  induction hwalked with
  | done => simp [reportVisits]
  | @stopped visit rest _ hfound =>
      have hmatch := Visit.matchFound?_of_fixed (hfixed visit List.mem_cons_self)
      constructor
      · intro _
        exact ⟨visit.registry, List.mem_cons_self, hmatch ▸ hfound⟩
      · intro _
        obtain ⟨found, hsome⟩ := Option.isSome_iff_exists.mp hfound
        simp [reportVisits, hsome]
  | @next visit rest visits _ _ _ ih =>
      have hmatch := Visit.matchFound?_of_fixed (hfixed visit List.mem_cons_self)
      have hrest := ih fun other hmem => hfixed other (List.mem_cons_of_mem _ hmem)
      rw [List.exists_mem_cons_iff, ← hrest, ← hmatch]
      cases hvisit : visit.matchFound? with
      | none => simp [reportVisits, List.filterMap_cons, hvisit]
      | some found => simp [reportVisits, List.filterMap_cons, hvisit]

/-- A walk whose handlers answer as fixed reports these answers. -/
theorem Walked.reportsFixedAnswers {exhaustive : Bool} {registries : List EntityIdentityRegistry}
    {visits : List Visit} (hwalked : Walked exhaustive registries visits)
    (hlisted : ∀ visit ∈ visits, visit.registry ∈ registries)
    (hfixed : ∀ visit ∈ visits, visit.outcome = .ok (answer did visit.registry)) :
    ReportsFixedAnswers answer did registries (reportVisits visits) where
  found := hwalked.found_iff hfixed
  matched := by
    intro found hfound
    rcases List.mem_filterMap.mp hfound with ⟨visit, hmem, hmatch⟩
    rw [Visit.matchFound?_of_fixed (hfixed visit hmem)] at hmatch
    exact ⟨visit.registry, hlisted visit hmem, hmatch⟩
  unchecked := by
    intro reference hreference
    rcases List.mem_filterMap.mp hreference with ⟨visit, hmem, hunchecked⟩
    rw [Visit.unchecked?_of_fixed (hfixed visit hmem)] at hunchecked
    exact ⟨visit.registry, hlisted visit hmem, hunchecked⟩

/-- Registries with the same ids are answered alike. -/
def AnsweredAlike (answer : String → EntityIdentityRegistry → HandlerResult) (did : String)
    (registries registries' : List EntityIdentityRegistry) : Prop :=
  ∀ registry ∈ registries, ∀ registry' ∈ registries', registryId registry = registryId registry' →
    answer did registry = answer did registry'

/-- A report is one of every list with the same ids. -/
theorem ReportsFixedAnswers.of_perm {registries registries' : List EntityIdentityRegistry}
    {payload : RegistryCheckPayload} (h : ReportsFixedAnswers answer did registries payload)
    (hids : (registries.map registryId).Perm (registries'.map registryId))
    (halike : AnsweredAlike answer did registries registries') :
    ReportsFixedAnswers answer did registries' payload := by
  -- Each registry of a list has its like in the other.
  have hlike : ∀ registry ∈ registries, ∃ registry' ∈ registries',
      expectedMatch answer did registry' = expectedMatch answer did registry ∧
        expectedUnchecked answer did registry' = expectedUnchecked answer did registry := by
    intro registry hmem
    rcases List.mem_map.mp (hids.subset (List.mem_map_of_mem hmem)) with ⟨registry', hmem', hid⟩
    have hanswer := halike registry hmem registry' hmem' hid.symm
    have hreference := registryReference_eq_of_registryId_eq hid
    refine ⟨registry', hmem', ?_, ?_⟩
    · simp [expectedMatch, hanswer, hreference]
    · simp [expectedUnchecked, hanswer, hreference]
  have hlike' : ∀ registry' ∈ registries', ∃ registry ∈ registries,
      expectedMatch answer did registry = expectedMatch answer did registry' := by
    intro registry' hmem'
    rcases List.mem_map.mp (hids.symm.subset (List.mem_map_of_mem hmem')) with ⟨registry, hmem, hid⟩
    have hanswer := halike registry hmem registry' hmem' hid
    have hreference := registryReference_eq_of_registryId_eq hid
    refine ⟨registry, hmem, ?_⟩
    simp [expectedMatch, hanswer, hreference]
  constructor
  · rw [h.found]
    constructor
    · rintro ⟨registry, hmem, hfound⟩
      rcases hlike registry hmem with ⟨registry', hmem', hmatch, _⟩
      exact ⟨registry', hmem', hmatch ▸ hfound⟩
    · rintro ⟨registry', hmem', hfound⟩
      rcases hlike' registry' hmem' with ⟨registry, hmem, hmatch⟩
      exact ⟨registry, hmem, hmatch ▸ hfound⟩
  · intro found hfound
    rcases h.matched found hfound with ⟨registry, hmem, hmatch⟩
    rcases hlike registry hmem with ⟨registry', hmem', hsame, _⟩
    exact ⟨registry', hmem', hsame.trans hmatch⟩
  · intro reference hreference
    rcases h.unchecked reference hreference with ⟨registry, hmem, hunchecked⟩
    rcases hlike registry hmem with ⟨registry', hmem', _, hsame⟩
    exact ⟨registry', hmem', hsame.trans hunchecked⟩

end

/-! ## Runs of lookups with fixed answers -/

section

variable {handlers : RegistryHandlerMap} {context : RegistryHandlerContext}
  {answer : String → EntityIdentityRegistry → HandlerResult}
  {run : Run ResultCall ℚ Port Port.Answer}

/-- Every lookup reports what its registries answer, whether it walked them or was
served the result of another lookup, plain or exhaustive. -/
theorem reportsFixedAnswers_of_run (hfixed : FixedHandlers handlers context answer run)
    (hfollows : run.Follows (ResultCall.program handlers context))
    (hcache : SharedCache run.history)
    (halike : ∀ call ∈ run.calls, ∀ call' ∈ run.calls,
      AnsweredAlike answer call.did call.registries call'.registries)
    {i : Nat} {call : ResultCall} {outcome : Except Thrown RegistryLookupResult}
    (hreturns : run.Returns (ResultCall.program handlers context) i call outcome) :
    ∃ payload, outcome = .ok (lookupResultOf payload) ∧
      ReportsFixedAnswers answer call.did call.registries payload := by
  have hlookup := executes_createRegistryLookup hreturns.executes
  generalize htrace : own run.history i = trace at hlookup
  cases hlookup with
  | @cached result hread =>
      have hhit : ⟨.cacheGet (resultCacheKey call.did call.registries),
          some (.lookupResult result)⟩ ∈ own run.history i := by simp [htrace]
      rcases exists_split_of_mem_own hhit with ⟨before, read, after, hsplit, hthread, hevent⟩
      rcases Run.exists_write hfollows hcache
          (fun call _ => justified_resultCall hfixed.keepsOut call) hsplit ⟨_, _, hevent⟩ with
        ⟨earlier, write, between, writer, rfl, hserves, hwriter, hstores⟩
      rcases hserves with ⟨key, value, ttlMs, hwrite, hserved, _⟩
      rw [hevent] at hserved
      cases hserved
      rcases hstores _ _ _ hwrite (inNamespace_resultCacheKey _ _) with
        ⟨hkey, visits, hinside, hvisits, hwalked, hvalue, _⟩
      cases hvalue
      rcases resultCacheKey_inj hkey with ⟨hdid, hids⟩
      have hearlier : own earlier write.thread <:+: own run.history write.thread := by
        rw [hsplit, List.append_assoc, own_append]
        exact (List.prefix_append _ _).isInfix
      have hanswers := hfixed.outcome_eq hwriter (hinside.trans hearlier) hvisits
      have hreport := hwalked.reportsFixedAnswers (fun visit hmem => (hvisits visit hmem).1) hanswers
      rw [← hdid] at hreport
      have hpair := halike writer (List.mem_of_getElem? hwriter) call
        (List.mem_of_getElem? hreturns.called)
      rw [← hdid] at hpair
      exact ⟨_, rfl, hreport.of_perm hids.symm hpair⟩
  | @threw missed visits error _ hvisits herror =>
      rcases herror with ⟨visit, hmem, houtcome⟩
      have hinside : visits.flatMap Visit.events <:+: own run.history i := by
        rw [htrace]
        exact (List.suffix_append missed _).isInfix
      have hanswered := hfixed.outcome_eq hreturns.called hinside hvisits visit hmem
      rw [houtcome] at hanswered
      cases hanswered
  | @walked missed visits result _ hvisits hwalked hresult =>
      have hinside : visits.flatMap Visit.events <:+: own run.history i := by
        rw [htrace]
        exact ⟨missed, _, (List.append_assoc missed _ _)⟩
      have hanswers := hfixed.outcome_eq hreturns.called hinside hvisits
      rw [hresult]
      exact ⟨_, rfl, hwalked.reportsFixedAnswers (fun visit hmem => (hvisits visit hmem).1) hanswers⟩

end

/-! ## Files -/

/-- The issuer's entry in the file at the URL, if the file is usable and lists it. -/
def Site.entry? (site : Site) (url did : String) : Option Json :=
  (((site.file? url).bind (Json.get? · "registry")).bind (Json.get? · did)).filter fun entry =>
    entry ≠ .null

/-- What the registry's file says of the issuer. -/
def Site.listing (site : Site) (did : String) : EntityIdentityRegistry → HandlerResult
  | .dccLegacy _ url =>
      match site.file? url with
      | none => .unchecked
      | some _ =>
          match site.entry? url did with
          | none => .notFound
          | some entry => .found (some (dccLegacyEntity entry))
  | _ => .unchecked

section

variable {site : Site} {did name url : String}

/-- A file of the site has the form of a registry. -/
theorem Site.file?_usable {file : Json} (h : site.file? url = some file) :
    isDccLegacyRegistryBody (some file) = true := by
  unfold Site.file? at h
  cases hanswer : site url with
  | error error => simp [hanswer] at h
  | ok result =>
      rw [hanswer] at h
      dsimp only at h
      split_ifs at h
      exact (Option.filter_eq_some_iff.mp h).2

/-- Asking a usable file throws nothing. -/
theorem dccLegacyAnswer_of_file {file : Json} (h : site.file? url = some file) :
    dccLegacyAnswer file did = .ok (site.listing did (.dccLegacy name url)) := by
  have husable := Site.file?_usable h
  unfold isDccLegacyRegistryBody at husable
  rw [Option.bind_some] at husable
  unfold dccLegacyAnswer Site.listing Site.entry?
  simp only [h, Option.bind_some]
  cases hregistry : file.get? "registry" with
  | none => simp [hregistry, isPlainObject] at husable
  | some registry =>
      rw [hregistry] at husable
      cases registry with
      | obj members =>
          simp only [Option.bind_some]
          cases hentry : (Json.obj members).get? did with
          | none => rfl
          | some entry =>
              by_cases hnull : entry = .null
              · subst hnull
                simp [Option.filter_some]
              · cases entry with
                | null => exact absurd rfl hnull
                | bool | num | str | arr | obj => simp [Option.filter_some]
      | null | bool | num | str | arr => simp [isPlainObject] at husable

/-- Without a cache a registry's handler says what its file says. -/
theorem eval_dccLegacy (nowMs : ℚ) :
    (lookupDccLegacyForRegistry did url).eval (coldAnswer site nowMs) =
      .ok (site.listing did (.dccLegacy name url)) := by
  rw [eval_lookupDccLegacyForRegistry]
  cases hfile : site.file? url with
  | some file => exact dccLegacyAnswer_of_file hfile
  | none => simp [Site.listing, hfile]

theorem expectedMatch_listing {found : RegistryMatch} :
    expectedMatch site.listing did (.dccLegacy name url) = some found ↔
      ∃ entry, site.entry? url did = some entry ∧
        found = { registry := registryReference (.dccLegacy name url)
                  entity := some (dccLegacyEntity entry) } := by
  unfold expectedMatch Site.listing
  cases hfile : site.file? url with
  | none => simp [Site.entry?, hfile]
  | some file =>
      cases hentry : site.entry? url did with
      | none => simp [hfile, hentry]
      | some entry => simp [hfile, hentry, eq_comm]

theorem expectedUnchecked_listing {reference : RegistryReference} :
    expectedUnchecked site.listing did (.dccLegacy name url) = some reference ↔
      site.file? url = none ∧ reference = registryReference (.dccLegacy name url) := by
  unfold expectedUnchecked Site.listing
  cases hfile : site.file? url with
  | none => simp [hfile, eq_comm]
  | some file =>
      cases hentry : site.entry? url did with
      | none => simp [hfile, hentry]
      | some entry => simp [hfile, hentry]

end

/-! ## Runs of lookups in files -/

/-- The lookup finds the issuer exactly if a file of its registries lists it, each match is
an entry of such a file, and what goes unchecked has no usable file. -/
structure ReportsListings (site : Site) (call : ResultCall) (result : RegistryLookupResult) :
    Prop where
  found : result.found = true ↔ ∃ name url,
    .dccLegacy name url ∈ call.registries ∧ (site.entry? url call.did).isSome
  matched : ∀ found ∈ result.matchesFound, ∃ name url entry,
    .dccLegacy name url ∈ call.registries ∧ site.entry? url call.did = some entry ∧
      found = { registry := registryReference (.dccLegacy name url)
                entity := some (dccLegacyEntity entry) }
  unchecked : ∀ reference ∈ result.uncheckedRegistries, ∃ name url,
    .dccLegacy name url ∈ call.registries ∧ site.file? url = none ∧
      reference = registryReference (.dccLegacy name url)

/-- Registries of one reference have one file. -/
theorem answeredAlike_listing {site : Site} {did : String}
    {registries registries' : List EntityIdentityRegistry}
    (hfiles : ∀ registry ∈ registries, registry.type = .dccLegacy)
    (hfiles' : ∀ registry ∈ registries', registry.type = .dccLegacy) :
    AnsweredAlike site.listing did registries registries' := by
  intro registry hmem registry' hmem' hid
  have hreference := registryReference_eq_of_registryId_eq hid
  have htype := hfiles registry hmem
  have htype' := hfiles' registry' hmem'
  cases registry with
  | oidf | vcRecognition => cases htype
  | dccLegacy name url =>
      cases registry' with
      | oidf | vcRecognition => cases htype'
      | dccLegacy name' url' =>
          cases hreference
          rfl

/-- A report of what the handlers answer is one of what the files list. -/
theorem ReportsFixedAnswers.reportsListings {site : Site} {call : ResultCall}
    {payload : RegistryCheckPayload}
    (hfiles : ∀ registry ∈ call.registries, registry.type = .dccLegacy)
    (h : ReportsFixedAnswers site.listing call.did call.registries payload) :
    ReportsListings site call (lookupResultOf payload) where
  found := by
    have hfound : (lookupResultOf payload).found = true ↔ payload.matchesFound ≠ [] := by
      simp [lookupResultOf, List.length_pos_iff]
    rw [hfound, h.found]
    constructor
    · rintro ⟨registry, hmem, hmatch⟩
      have htype := hfiles registry hmem
      cases registry with
      | oidf | vcRecognition => cases htype
      | dccLegacy name url =>
          obtain ⟨found, hsome⟩ := Option.isSome_iff_exists.mp hmatch
          obtain ⟨entry, hentry, _⟩ := expectedMatch_listing.mp hsome
          exact ⟨name, url, hmem, by simp [hentry]⟩
    · rintro ⟨name, url, hmem, hentry⟩
      obtain ⟨entry, hsome⟩ := Option.isSome_iff_exists.mp hentry
      refine ⟨_, hmem, ?_⟩
      rw [expectedMatch_listing.mpr ⟨entry, hsome, rfl⟩]
      rfl
  matched := by
    intro found hfound
    obtain ⟨registry, hmem, hmatch⟩ := h.matched found hfound
    have htype := hfiles registry hmem
    cases registry with
    | oidf | vcRecognition => cases htype
    | dccLegacy name url =>
        obtain ⟨entry, hentry, hsame⟩ := expectedMatch_listing.mp hmatch
        exact ⟨name, url, entry, hmem, hentry, hsame⟩
  unchecked := by
    intro reference hreference
    obtain ⟨registry, hmem, hunchecked⟩ := h.unchecked reference hreference
    have htype := hfiles registry hmem
    cases registry with
    | oidf | vcRecognition => cases htype
    | dccLegacy name url =>
        obtain ⟨hfile, hsame⟩ := expectedUnchecked_listing.mp hunchecked
        exact ⟨name, url, hmem, hfile, hsame⟩

section

variable {platform : Platform} {config : VerifierConfig} {depth : Nat} {site : Site}
  {run : Run ResultCall ℚ Port Port.Answer}
  (hhandlers : config.registryHandlers = none)
  (hfollows : run.Follows (verifierLookup platform config depth))
  (hcache : SharedCache run.history)
  (hsite : ∀ stamped ∈ run.history, AnsweredBy site stamped.event)
  (hfiles : ∀ call ∈ run.calls, ∀ registry ∈ call.registries, registry.type = .dccLegacy)

include hhandlers hfollows hcache hsite hfiles

/-- The answers of the handlers are fixed by the files. -/
theorem fixedHandlers_listing_of_site : FixedHandlers config.handlers
    (handlerContext platform config depth) site.listing run := by
  have hconfig : config.handlers = defaultHandlers := by simp [VerifierConfig.handlers, hhandlers]
  rw [hconfig]
  refine ⟨?_, fun type => keepsOut_defaultHandlers platform config depth type⟩
  intro i call hcall registry hmem events outcome hinside hruns
  have htype := hfiles call (List.mem_of_getElem? hcall) registry hmem
  cases registry with
  | oidf | vcRecognition => cases htype
  | dccLegacy name url =>
      have hagrees : AgreesOn (ReadsCopies platform site) (coldAnswer site 0)
          (lookupDccLegacyForRegistry call.did url) :=
        agreesOn_lookupDccLegacyForRegistry call.did url
      rw [hagrees events outcome hruns fun event hevent =>
        readsCopies_of_run hhandlers hfollows hcache hsite (hinside.subset hevent)]
      exact eval_dccLegacy 0

/-- Every lookup reports what the files say of its registries. -/
theorem reportsFixedAnswers_of_site {i : Nat} {call : ResultCall}
    {outcome : Except Thrown RegistryLookupResult}
    (hreturns : run.Returns (verifierLookup platform config depth) i call outcome) :
    ∃ payload, outcome = .ok (lookupResultOf payload) ∧
      ReportsFixedAnswers site.listing call.did call.registries payload := by
  have hfixed := fixedHandlers_listing_of_site hhandlers hfollows hcache hsite hfiles
  have halike : ∀ call ∈ run.calls, ∀ call' ∈ run.calls,
      AnsweredAlike site.listing call.did call.registries call'.registries :=
    fun call hcall call' hcall' => answeredAlike_listing (hfiles call hcall) (hfiles call' hcall')
  exact reportsFixedAnswers_of_run hfixed hfollows hcache halike hreturns

/-- While the files do not change, every lookup in `dcc-legacy` registries on a shared cache
reports what the files list, whichever lookups, plain or exhaustive, were made before. -/
theorem lookups_reportListings {i : Nat} {call : ResultCall}
    {outcome : Except Thrown RegistryLookupResult}
    (hreturns : run.Returns (verifierLookup platform config depth) i call outcome) :
    ∃ result, outcome = .ok result ∧ ReportsListings site call result := by
  obtain ⟨payload, rfl, hreport⟩ :=
    reportsFixedAnswers_of_site hhandlers hfollows hcache hsite hfiles hreturns
  exact ⟨_, rfl, hreport.reportsListings (hfiles call (List.mem_of_getElem? hreturns.called))⟩

end

/-- The listed issuer is found, and the other one is not. -/
theorem lookups_reportListings_listed :
    ReportsListings ListedIssuer.site (ListedIssuer.call "did:example:other")
      ListedIssuer.unlisted := by
  have hfiles : ∀ call ∈ (Run.sequential ListedIssuer.lookups).calls,
      ∀ registry ∈ call.registries, registry.type = .dccLegacy := by
    decide +kernel
  have hreturns : (Run.sequential ListedIssuer.lookups).Returns
      (verifierLookup ListedIssuer.platform {} 0) 1 (ListedIssuer.call "did:example:other")
      (.ok ListedIssuer.unlisted) :=
    ⟨rfl, replay_eq_some_iff.mp (by decide +kernel)⟩
  obtain ⟨result, hresult, hreport⟩ := lookups_reportListings rfl ListedIssuer.follows
    ListedIssuer.sharedCache ListedIssuer.answeredBy hfiles hreturns
  cases hresult
  exact hreport

end VerifierCore
