import VerifierCore.Foundations.Interleaving
import VerifierCore.HttpGetService.Builtin

/-!
# Requests that keep the policy

A request is a list of hops and an ending.  A hop judges its URL, reads the shared flag
and fetches; only a hidden redirect has it fetch the same URL again, and then the flag
is up, so that no hop comes behind it.  The calls of a service interleave freely: what
they share is read from the flag and changes no hop.

Main results:

- Theorem {lit}`executes_fetchHop`: what one round of the redirect loop does.
- Theorem {lit}`executes_fetchHops`: the hops of a request, each judged first.
- Theorem {lit}`get_keepsPolicy`: no call of any run leaves the policy, and none loops.
-/

namespace VerifierCore

open Foundations Program BuiltinHttpGetService

/-! ## Hops -/

/-- One hop of a request: its URL, the flag as it is read, the answer, the answer to a
repeated request, and what is done with the response. -/
structure Hop where
  url : String
  followsRedirects : Bool
  answer : Except Thrown Response
  again : Option (Except Thrown Response)
  rest : List FetchEvent

/-- What a hop fetches: its URL, and after a hidden redirect the same URL again, to be
followed. -/
def Hop.requests (hop : Hop) : List FetchEvent :=
  ⟨.fetch hop.url (if hop.followsRedirects then .follow else .manual), hop.answer⟩ ::
    hop.again.elim [] fun answer =>
      [⟨.setFollowsRedirects, ()⟩, ⟨.fetch hop.url .follow, answer⟩]

/-- Right before it is fetched, the URL is allowed. -/
def Hop.events (hop : Hop) : List FetchEvent :=
  [⟨.checkUrl hop.url (.ok .allowed), ()⟩, ⟨.readFollowsRedirects, hop.followsRedirects⟩] ++
    hop.requests ++ hop.rest

/-- Neither a request, nor the reading of a body, nor the raising of the flag. -/
def FetchPort.IsQuiet : FetchPort → Prop
  | .fetch .. | .readCapped .. | .setFollowsRedirects => False
  | _ => True

/-- A hop within the policy of the service. -/
structure Hop.Judged (service : BuiltinHttpGetService) (hop : Hop) : Prop where
  allowed : service.check hop.url = .ok .allowed
  /-- Only a hidden redirect has the request repeated. -/
  hidden : hop.again ≠ none →
    ∃ response, hop.answer = .ok response ∧ response.type = "opaqueredirect"
  quiet : ∀ event ∈ hop.rest, event.op.IsQuiet

/-- The flag is read as down. -/
def flagDown : FetchEvent :=
  ⟨.readFollowsRedirects, false⟩

/-! ## One round -/

/-- A URL is judged by the policy, and passes only if it is allowed. -/
theorem executes_assertAllowed {service : BuiltinHttpGetService} {url : String}
    {trace : List FetchEvent} {result : Except Thrown Unit}
    (h : Executes (service.assertAllowed url) trace result) :
    trace = [⟨.checkUrl url (service.check url), ()⟩] ∧
      (result = .ok () → service.check url = .ok .allowed) := by
  obtain ⟨_, rest, rfl, hrest⟩ := executes_fetching_bind_iff.mp h
  cases hcheck : service.check url with
  | error error =>
      rw [hcheck] at hrest
      obtain ⟨rfl, rfl⟩ := executes_pure_iff.mp hrest
      exact ⟨rfl, by simp⟩
  | ok check =>
      rw [hcheck] at hrest
      cases check with
      | allowed =>
          obtain ⟨rfl, rfl⟩ := executes_pure_iff.mp hrest
          exact ⟨rfl, fun _ => rfl⟩
      | refused reason =>
          obtain ⟨rfl, rfl⟩ := executes_pure_iff.mp hrest
          exact ⟨rfl, by simp⟩

/-- One request is made, and its response is what was fetched. -/
theorem executes_fetchOrFail {url : String} {redirect : RedirectMode} {trace : List FetchEvent}
    {result : Except Thrown Response} (h : Executes (fetchOrFail url redirect) trace result) :
    ∃ answer, trace = [⟨.fetch url redirect, answer⟩] ∧
      ∀ response, result = .ok response → answer = .ok response := by
  obtain ⟨answer, rest, rfl, hrest⟩ := executes_fetching_bind_iff.mp h
  cases answer with
  | error cause =>
      obtain ⟨rfl, rfl⟩ := executes_pure_iff.mp hrest
      exact ⟨_, rfl, by simp⟩
  | ok response =>
      obtain ⟨rfl, rfl⟩ := executes_pure_iff.mp hrest
      exact ⟨_, rfl, fun _ hresult => hresult⟩

/-- A request is made again only for a response that hides its redirect. -/
theorem executes_retryOpaque {url : String} {response : Response} {trace : List FetchEvent}
    {result : Except Thrown Response} (h : Executes (retryOpaque url response) trace result) :
    ∃ again : Option (Except Thrown Response),
      (again ≠ none → response.type = "opaqueredirect") ∧
      trace = again.elim [] fun answer =>
        [⟨.setFollowsRedirects, ()⟩, ⟨.fetch url .follow, answer⟩] := by
  unfold retryOpaque at h
  by_cases hhidden : response.type = "opaqueredirect"
  · rw [if_pos hhidden] at h
    obtain ⟨_, rest, rfl, hrest⟩ := executes_fetching_bind_iff.mp h
    obtain ⟨answer, rfl, _⟩ := executes_fetchOrFail hrest
    exact ⟨some answer, fun _ => hhidden, rfl⟩
  · rw [if_neg hhidden] at h
    obtain ⟨rfl, _⟩ := executes_pure_iff.mp h
    exact ⟨none, by simp, rfl⟩

/-- The loop only goes on with the flag down, and below the limit. -/
theorem executes_leaveHop {service : BuiltinHttpGetService} {redirects : Nat}
    {current : String} {response : Response} {trace : List FetchEvent} {outcome : HopOutcome}
    (h : Executes (leaveHop service redirects current response) trace outcome) :
    (∀ event ∈ trace, event.op.IsQuiet) ∧
      ∀ next, outcome = .next next → redirects ≠ maxRedirects ∧ flagDown ∈ trace := by
  obtain ⟨flag, rest, rfl, hrest⟩ := executes_fetching_bind_iff.mp h
  cases hlocation : response.headers.lookup "location" with
  | none =>
      rw [hlocation] at hrest
      obtain ⟨rfl, rfl⟩ := executes_pure_iff.mp hrest
      refine ⟨?_, by simp⟩
      rw [List.forall_mem_singleton]
      trivial
  | some location =>
      simp only [hlocation] at hrest
      split_ifs at hrest with hdone hlimit
      · obtain ⟨rfl, rfl⟩ := executes_pure_iff.mp hrest
        refine ⟨?_, by simp⟩
        rw [List.forall_mem_singleton]
        trivial
      · obtain ⟨_, more, rfl, hmore⟩ := executes_fetching_bind_iff.mp hrest
        obtain ⟨rfl, rfl⟩ := executes_pure_iff.mp hmore
        refine ⟨?_, by simp⟩
        rw [List.forall_mem_cons, List.forall_mem_singleton]
        exact ⟨trivial, trivial⟩
      · obtain ⟨_, more, rfl, hmore⟩ := executes_fetching_bind_iff.mp hrest
        have hdown : flag = false := by
          rw [not_or, Bool.not_eq_true] at hdone
          exact hdone.1
        have hquiet : more = [] := by
          cases hresolve : service.parser.resolve location current with
          | none =>
              rw [hresolve] at hmore
              exact (executes_pure_iff.mp hmore).1
          | some next =>
              rw [hresolve] at hmore
              exact (executes_pure_iff.mp hmore).1
        subst hquiet hdown
        refine ⟨?_, fun _ _ => ⟨hlimit, List.mem_cons_self⟩⟩
        rw [List.forall_mem_cons, List.forall_mem_singleton]
        exact ⟨trivial, trivial⟩

/-- A round throws after judging its URL, or it is a hop within the policy. -/
theorem executes_fetchHop {service : BuiltinHttpGetService} {redirects : Nat}
    {current : String} {trace : List FetchEvent} {outcome : HopOutcome}
    (h : Executes (fetchHop service redirects current) trace outcome) :
    ((∃ error, outcome = .failed error) ∧
        trace = [⟨.checkUrl current (service.check current), ()⟩]) ∨
      ∃ hop : Hop, hop.url = current ∧ hop.Judged service ∧ trace = hop.events ∧
        ∀ next, outcome = .next next → redirects ≠ maxRedirects ∧ flagDown ∈ hop.rest := by
  obtain ⟨checking, requesting, checked, rfl, hchecking, hrequesting⟩ := executes_bind_iff.mp h
  obtain ⟨rfl, hallowed⟩ := executes_assertAllowed hchecking
  cases checked with
  | error error =>
      obtain ⟨rfl, rfl⟩ := executes_pure_iff.mp hrequesting
      exact .inl ⟨⟨error, rfl⟩, rfl⟩
  | ok =>
      right
      have hcheck := hallowed rfl
      obtain ⟨flag, later, rfl, hlater⟩ := executes_fetching_bind_iff.mp hrequesting
      obtain ⟨fetching, handling, fetched, rfl, hfetching, hhandling⟩ :=
        executes_bind_iff.mp hlater
      obtain ⟨answer, rfl, hanswer⟩ := executes_fetchOrFail hfetching
      cases fetched with
      | error error =>
          obtain ⟨rfl, rfl⟩ := executes_pure_iff.mp hhandling
          refine ⟨⟨current, flag, answer, none, []⟩, rfl, ⟨hcheck, by simp, by simp⟩, ?_, by simp⟩
          simp [Hop.events, Hop.requests, hcheck]
      | ok first =>
          obtain ⟨retrying, leaving, retried, rfl, hretrying, hleaving⟩ :=
            executes_bind_iff.mp hhandling
          obtain ⟨again, hhidden, rfl⟩ := executes_retryOpaque hretrying
          have hjudged (rest : List FetchEvent) (hquiet : ∀ event ∈ rest, event.op.IsQuiet) :
              Hop.Judged service ⟨current, flag, answer, again, rest⟩ :=
            ⟨hcheck, fun hagain => ⟨first, hanswer first rfl, hhidden hagain⟩, hquiet⟩
          cases retried with
          | error error =>
              obtain ⟨rfl, rfl⟩ := executes_pure_iff.mp hleaving
              refine ⟨⟨current, flag, answer, again, []⟩, rfl, hjudged [] (by simp), ?_, by simp⟩
              simp [Hop.events, Hop.requests, hcheck]
          | ok response =>
              obtain ⟨hquiet, hnext⟩ := executes_leaveHop hleaving
              refine ⟨⟨current, flag, answer, again, leaving⟩, rfl, hjudged leaving hquiet, ?_,
                hnext⟩
              simp [Hop.events, Hop.requests, hcheck]

/-! ## The redirect loop -/

/-- The hops of a request are within the policy, no more than are left, and each but
the last reads the flag as down when it goes on. -/
structure HopsWithin (service : BuiltinHttpGetService) (redirects : Nat) (url : String)
    (hops : List Hop) : Prop where
  start : ∀ hop ∈ hops.head?, hop.url = url
  judged : ∀ hop ∈ hops, hop.Judged service
  length_le : hops.length + redirects ≤ maxRedirects + 1
  flagDown : ∀ before hop after, hops = before ++ hop :: after → after ≠ [] →
    VerifierCore.flagDown ∈ hop.rest

/-- No hop needs no judgment. -/
theorem HopsWithin.nil {service : BuiltinHttpGetService} {redirects : Nat} {url : String}
    (h : redirects ≤ maxRedirects) : HopsWithin service redirects url [] := by
  refine ⟨by simp, by simp, ?_, by simp⟩
  rw [List.length_nil]
  omega

/-- A judged hop may stand in front of hops that follow the flag. -/
theorem HopsWithin.cons {service : BuiltinHttpGetService} {redirects : Nat} {url next : String}
    {hop : Hop} {hops : List Hop} (hurl : hop.url = url) (hjudged : hop.Judged service)
    (hdown : hops ≠ [] → VerifierCore.flagDown ∈ hop.rest)
    (hops_within : HopsWithin service (redirects + 1) next hops) :
    HopsWithin service redirects url (hop :: hops) where
  start := by simpa using hurl
  judged := by
    rw [List.forall_mem_cons]
    exact ⟨hjudged, hops_within.judged⟩
  length_le := by
    have hlength := hops_within.length_le
    rw [List.length_cons]
    omega
  flagDown := by
    intro before other after hsplit hafter
    cases before with
    | nil =>
        obtain ⟨rfl, rfl⟩ := List.cons.inj hsplit
        exact hdown hafter
    | cons head before =>
        obtain ⟨rfl, hrest⟩ := List.cons.inj hsplit
        exact hops_within.flagDown before other after hrest hafter

/-- A single hop, below the limit. -/
theorem HopsWithin.singleton {service : BuiltinHttpGetService} {redirects : Nat} {hop : Hop}
    (h : redirects ≤ maxRedirects) (hjudged : hop.Judged service) :
    HopsWithin service redirects hop.url [hop] := by
  refine ⟨by simp, by simpa using hjudged, ?_, ?_⟩
  · rw [List.length_singleton]
    omega
  · intro before other after hsplit hafter
    cases before with
    | nil => exact absurd (List.cons.inj hsplit).2.symm hafter
    | cons head before => simp at hsplit

/-- The loop is a list of hops, behind which at most one more URL is judged.  A response
it ends with was fetched from a URL that is allowed. -/
theorem executes_fetchHops {service : BuiltinHttpGetService} {rounds redirects : Nat}
    {current : String} {trace : List FetchEvent}
    {outcome : Option (Except Thrown (String × Response))} (hlimit : redirects ≤ maxRedirects)
    (h : Executes (fetchHops service rounds redirects current) trace outcome) :
    ∃ hops ending, trace = hops.flatMap Hop.events ++ ending ∧
      HopsWithin service redirects current hops ∧ (∀ event ∈ ending, event.op.IsQuiet) ∧
      ∀ url response, outcome = some (.ok (url, response)) →
        ending = [] ∧ service.check url = .ok .allowed := by
  induction rounds generalizing redirects current trace with
  | zero =>
      obtain ⟨rfl, rfl⟩ := executes_pure_iff.mp h
      exact ⟨[], [], rfl, .nil hlimit, by simp, by simp⟩
  | succ rounds ih =>
      obtain ⟨hopping, looping, left, rfl, hhopping, hlooping⟩ := executes_bind_iff.mp h
      rcases executes_fetchHop hhopping with ⟨⟨error, rfl⟩, rfl⟩ | ⟨hop, rfl, hjudged, rfl, hnext⟩
      · obtain ⟨rfl, rfl⟩ := executes_pure_iff.mp hlooping
        refine ⟨[], [⟨.checkUrl current (service.check current), ()⟩], by simp, .nil hlimit, ?_,
          by simp⟩
        rw [List.forall_mem_singleton]
        trivial
      · cases left with
        | failed error =>
            obtain ⟨rfl, rfl⟩ := executes_pure_iff.mp hlooping
            exact ⟨[hop], [], by simp, .singleton hlimit hjudged, by simp, by simp⟩
        | done response =>
            obtain ⟨rfl, rfl⟩ := executes_pure_iff.mp hlooping
            refine ⟨[hop], [], by simp, .singleton hlimit hjudged, by simp, ?_⟩
            rintro url other hother
            cases hother
            exact ⟨rfl, hjudged.allowed⟩
        | next url =>
            obtain ⟨hbelow, hdown⟩ := hnext url rfl
            obtain ⟨hops, ending, rfl, hwithin, hquiet, hallowed⟩ := ih (by omega) hlooping
            exact ⟨hop :: hops, ending, by simp, .cons rfl hjudged (fun _ => hdown) hwithin, hquiet,
              hallowed⟩

/-- With a round more than there may be redirects, the loop ends. -/
theorem fetchHops_ends {service : BuiltinHttpGetService} {rounds redirects : Nat}
    {current : String} {trace : List FetchEvent}
    {outcome : Option (Except Thrown (String × Response))} (hlimit : redirects ≤ maxRedirects)
    (hrounds : maxRedirects < rounds + redirects)
    (h : Executes (fetchHops service rounds redirects current) trace outcome) :
    outcome ≠ none := by
  induction rounds generalizing redirects current trace with
  | zero => omega
  | succ rounds ih =>
      obtain ⟨hopping, looping, left, rfl, hhopping, hlooping⟩ := executes_bind_iff.mp h
      cases left with
      | failed error =>
          obtain ⟨_, rfl⟩ := executes_pure_iff.mp hlooping
          exact Option.some_ne_none _
      | done response =>
          obtain ⟨_, rfl⟩ := executes_pure_iff.mp hlooping
          exact Option.some_ne_none _
      | next url =>
          rcases executes_fetchHop hhopping with ⟨⟨error, hfailed⟩, _⟩ | ⟨_, _, _, _, hnext⟩
          · cases hfailed
          · have hbelow := (hnext url rfl).1
            exact ih (by omega) (by omega) hlooping

/-! ## Requests -/

/-- Behind the hops nothing is fetched, and a body is only read from a response that was
reached at an allowed URL. -/
structure EndsWithin (service : BuiltinHttpGetService) (ending : List FetchEvent) : Prop where
  noRequest : ∀ event ∈ ending, event.op.IsQuiet ∨ ∃ response url maxBytes,
    event.op = .readCapped response url maxBytes
  bodies : ∀ event ∈ ending, ∀ response url maxBytes,
    event.op = .readCapped response url maxBytes → service.check url = .ok .allowed ∧
      (response.url ≠ "" → service.check response.url = .ok .allowed)

/-- An ending that asks nothing of the network is within the policy. -/
theorem EndsWithin.of_quiet {service : BuiltinHttpGetService} {ending : List FetchEvent}
    (h : ∀ event ∈ ending, event.op.IsQuiet) : EndsWithin service ending where
  noRequest event hevent := .inl (h event hevent)
  bodies := by
    intro event hevent response url maxBytes hop
    have hquiet := h event hevent
    rw [hop] at hquiet
    exact hquiet.elim

/-- Endings within the policy follow each other. -/
theorem EndsWithin.append {service : BuiltinHttpGetService} {first second : List FetchEvent}
    (hfirst : EndsWithin service first) (hsecond : EndsWithin service second) :
    EndsWithin service (first ++ second) where
  noRequest := by
    rw [List.forall_mem_append]
    exact ⟨hfirst.noRequest, hsecond.noRequest⟩
  bodies := by
    rw [List.forall_mem_append]
    exact ⟨hfirst.bodies, hsecond.bodies⟩

/-- The URL a response was reached at is judged before its body is read. -/
theorem executes_readReached {service : BuiltinHttpGetService} {current : String}
    {response : Response} {trace : List FetchEvent} {result : Except Thrown HttpGetResult}
    (hcurrent : service.check current = .ok .allowed)
    (h : Executes (readReached service current response) trace result) :
    EndsWithin service trace := by
  obtain ⟨judging, reading, judged, rfl, hjudging, hreading⟩ := executes_bind_iff.mp h
  have hreached : (∀ event ∈ judging, event.op.IsQuiet) ∧
      (judged = .ok () → service.check (reachedUrl current response) = .ok .allowed) := by
    unfold assertReached at hjudging
    by_cases hsame : reachedUrl current response = current
    · rw [if_neg (not_not.mpr hsame)] at hjudging
      obtain ⟨rfl, _⟩ := executes_pure_iff.mp hjudging
      refine ⟨by simp, fun _ => ?_⟩
      rw [hsame]
      exact hcurrent
    · rw [if_pos hsame] at hjudging
      obtain ⟨rfl, hallowed⟩ := executes_assertAllowed hjudging
      refine ⟨?_, hallowed⟩
      rw [List.forall_mem_singleton]
      trivial
  refine (EndsWithin.of_quiet hreached.1).append ?_
  cases judged with
  | error error =>
      obtain ⟨_, rest, rfl, hrest⟩ := executes_fetching_bind_iff.mp hreading
      obtain ⟨rfl, _⟩ := executes_pure_iff.mp hrest
      apply EndsWithin.of_quiet
      rw [List.forall_mem_singleton]
      trivial
  | ok =>
      have hallowed := hreached.2 rfl
      obtain ⟨body, rest, rfl, hrest⟩ := executes_fetching_bind_iff.mp hreading
      have hnil : rest = [] := by
        cases body with
        | error error => exact (executes_pure_iff.mp hrest).1
        | ok text => exact (executes_pure_iff.mp hrest).1
      subst hnil
      constructor
      · rw [List.forall_mem_singleton]
        exact .inr ⟨_, _, _, rfl⟩
      · rw [List.forall_mem_singleton]
        rintro other url maxBytes hop
        cases hop
        refine ⟨hallowed, fun hurl => ?_⟩
        rw [reachedUrl, if_pos hurl] at hallowed
        exact hallowed

/-- A call is a list of hops and an ending, both within the policy. -/
theorem executes_get {service : BuiltinHttpGetService} {rounds : Nat} {url : String}
    {trace : List FetchEvent} {result : Option (Except Thrown HttpGetResult)}
    (h : Executes (service.get rounds url) trace result) :
    ∃ hops ending, trace = hops.flatMap Hop.events ++ ending ∧
      HopsWithin service 0 url hops ∧ EndsWithin service ending := by
  obtain ⟨within, racing, fetched, rfl, hwithin, hracing⟩ := executes_bind_iff.mp h
  have hlast : EndsWithin service racing := by
    obtain ⟨late, rest, rfl, hrest⟩ := executes_fetching_bind_iff.mp hracing
    obtain ⟨rfl, _⟩ := executes_pure_iff.mp hrest
    apply EndsWithin.of_quiet
    rw [List.forall_mem_singleton]
    trivial
  obtain ⟨looping, reading, outcome, rfl, hlooping, hreading⟩ := executes_bind_iff.mp hwithin
  obtain ⟨hops, ending, rfl, hhops, hquiet, hallowed⟩ :=
    executes_fetchHops (Nat.zero_le _) hlooping
  have hread : EndsWithin service reading := by
    cases outcome with
    | none =>
        obtain ⟨rfl, _⟩ := executes_pure_iff.mp hreading
        exact .of_quiet (by simp)
    | some outcome =>
        cases outcome with
        | error error =>
            obtain ⟨rfl, _⟩ := executes_pure_iff.mp hreading
            exact .of_quiet (by simp)
        | ok reached =>
            obtain ⟨result, hresult, _⟩ := executes_map_iff.mp hreading
            exact executes_readReached (hallowed _ _ rfl).2 hresult
  refine ⟨hops, ending ++ reading ++ racing, by simp, hhops, ?_⟩
  exact ((EndsWithin.of_quiet hquiet).append hread).append hlast

/-- With a round more than there may be redirects, a call returns or throws. -/
theorem get_ends {service : BuiltinHttpGetService} {rounds : Nat} {url : String}
    {trace : List FetchEvent} {result : Option (Except Thrown HttpGetResult)}
    (hrounds : maxRedirects < rounds) (h : Executes (service.get rounds url) trace result) :
    result ≠ none := by
  obtain ⟨within, racing, fetched, rfl, hwithin, hracing⟩ := executes_bind_iff.mp h
  obtain ⟨late, rest, rfl, hrest⟩ := executes_fetching_bind_iff.mp hracing
  obtain ⟨_, rfl⟩ := executes_pure_iff.mp hrest
  rw [ne_eq, Option.map_eq_none_iff]
  obtain ⟨looping, reading, outcome, rfl, hlooping, hreading⟩ := executes_bind_iff.mp hwithin
  have hends := fetchHops_ends (Nat.zero_le _) (by omega) hlooping
  cases outcome with
  | none => exact absurd rfl hends
  | some outcome =>
      cases outcome with
      | error error =>
          obtain ⟨_, rfl⟩ := executes_pure_iff.mp hreading
          exact Option.some_ne_none _
      | ok reached =>
          obtain ⟨result, _, rfl⟩ := executes_map_iff.mp hreading
          exact Option.some_ne_none _

/-! ## Calls that share the flag -/

/-- The flag reads as up exactly when some call has raised it before. -/
def FlagShared {T : Type} (history : List (Stamped T FetchPort FetchPort.Answer)) : Prop :=
  ∀ before stamped after flag, history = before ++ stamped :: after →
    stamped.event = ⟨.readFollowsRedirects, flag⟩ →
    (flag = true ↔ ∃ earlier ∈ before, earlier.event.op = .setFollowsRedirects)

/-- Once raised, the flag stays up. -/
def StaysUp (trace : List FetchEvent) : Prop :=
  ∀ front event rest, trace = front ++ event :: rest →
    (∃ earlier ∈ front, earlier.op = .setFollowsRedirects) → event ≠ flagDown

/-- In a shared history the flag stays up for each call once it was set. -/
theorem staysUp_own {T : Type} {history : List (Stamped T FetchPort FetchPort.Answer)}
    (h : FlagShared history) (i : Nat) : StaysUp (own history i) := by
  intro front event rest hsplit hraised hdown
  obtain ⟨before, stamped, after, hhistory, rfl, _, hevent⟩ := exists_split_of_own_eq hsplit
  obtain ⟨earlier, hearlier, hop⟩ := hraised
  obtain ⟨write, hwrite, _, rfl⟩ := mem_own_iff.mp hearlier
  have hup := (h before stamped after false hhistory (hevent.trans hdown)).mpr ⟨write, hwrite, hop⟩
  cases hup

/-- Where the flag is not read as down any more, it stays up. -/
theorem StaysUp.append {front rest : List FetchEvent} (h : StaysUp front)
    (hrest : ∀ event ∈ rest, event ≠ flagDown) : StaysUp (front ++ rest) := by
  intro before event after hsplit hraised
  rcases List.append_eq_append_iff.mp hsplit with ⟨middle, rfl, hmiddle⟩ | ⟨middle, rfl, hmiddle⟩
  · exact hrest event (by simp [hmiddle])
  · cases middle with
    | nil =>
        have hmem : event ∈ [] ++ rest := hmiddle ▸ List.mem_cons_self
        exact hrest event hmem
    | cons head middle =>
        obtain ⟨rfl, _⟩ := List.cons.inj hmiddle
        exact h before event middle rfl hraised

/-- A hop that repeats its request has raised the flag, so it is the last. -/
theorem again_last {service : BuiltinHttpGetService} {url : String} {hops : List Hop}
    {ending : List FetchEvent} (hwithin : HopsWithin service 0 url hops)
    (hup : StaysUp (hops.flatMap Hop.events ++ ending)) :
    ∀ before hop after, hops = before ++ hop :: after → hop.again ≠ none → after = [] := by
  rintro before hop after rfl hagain
  by_contra hafter
  obtain ⟨first, second, hrest⟩ :=
    List.append_of_mem (hwithin.flagDown before hop after rfl hafter)
  have hraised : (⟨.setFollowsRedirects, ()⟩ : FetchEvent) ∈ hop.requests := by
    obtain ⟨answer, hanswer⟩ := Option.ne_none_iff_exists'.mp hagain
    simp [Hop.requests, hanswer]
  refine hup (before.flatMap Hop.events ++ ([⟨.checkUrl hop.url (.ok .allowed), ()⟩,
    ⟨.readFollowsRedirects, hop.followsRedirects⟩] ++ hop.requests ++ first)) flagDown
    (second ++ after.flatMap Hop.events ++ ending) ?_ ⟨⟨.setFollowsRedirects, ()⟩, ?_, rfl⟩ rfl
  · simp [Hop.events, hrest]
  · simp [hraised]

/-- What a call makes of its URL: hops within the policy, of which only the last may
repeat its request, and an ending within the policy. -/
structure KeepsPolicy (service : BuiltinHttpGetService) (url : String) (hops : List Hop)
    (ending : List FetchEvent) : Prop where
  start : ∀ hop ∈ hops.head?, hop.url = url
  judged : ∀ hop ∈ hops, hop.Judged service
  length_le : hops.length ≤ maxRedirects + 1
  again_last : ∀ before hop after, hops = before ++ hop :: after → hop.again ≠ none → after = []
  ending : EndsWithin service ending

/-- However the calls of a service interleave and whatever they are answered, what each
has done so far begins a list of hops and an ending that keep the policy, and no call
loops. -/
theorem get_keepsPolicy {T : Type} {service : BuiltinHttpGetService} {rounds : Nat}
    {run : Run String T FetchPort FetchPort.Answer} (hrounds : maxRedirects < rounds)
    (hfollows : run.Follows (service.get rounds)) (hflag : FlagShared run.history)
    {i : Nat} {url : String} (hcall : run.calls[i]? = some url) :
    (∃ rest hops ending, own run.history i ++ rest = hops.flatMap Hop.events ++ ending ∧
      KeepsPolicy service url hops ending) ∧
    ∀ result, run.Returns (service.get rounds) i url result → result ≠ none := by
  refine ⟨?_, fun result hreturns => get_ends hrounds hreturns.executes⟩
  obtain ⟨rest, result, hexec⟩ := hfollows.executes i url hcall
  -- Behind what it has done, the call is run to its end with the flag up.
  obtain ⟨rest', result', hexec', hanswers⟩ := hexec.complete FetchPort.unavailable
  obtain ⟨hops, ending, htrace, hhops, hending⟩ := executes_get hexec'
  have hup : StaysUp (own run.history i ++ rest') := by
    apply (staysUp_own hflag i).append
    rintro event hevent rfl
    have hanswer := hanswers flagDown hevent
    cases hanswer
  rw [htrace] at hup
  exact ⟨rest', hops, ending, htrace, hhops.start, hhops.judged, hhops.length_le,
    again_last hhops hup, hending⟩

/-! ### A runtime that hides a redirect -/

/-- Every read of the flag along a history is of its value, from the one at the start. -/
def ReadsFlag {T : Type} : Bool → List (Stamped T FetchPort FetchPort.Answer) → Prop
  | _, [] => True
  | flag, stamped :: rest =>
      (∀ answer, stamped.event = ⟨.readFollowsRedirects, answer⟩ → answer = flag) ∧
        ReadsFlag (flag || stamped.event.op = .setFollowsRedirects) rest

/-- The flag is down at the start. -/
theorem flagShared_of_readsFlag {T : Type}
    {history : List (Stamped T FetchPort FetchPort.Answer)} (h : ReadsFlag false history) :
    FlagShared history := by
  have hfrom (flag : Bool) (history : List (Stamped T FetchPort FetchPort.Answer))
      (h : ReadsFlag flag history) : ∀ before stamped after answer,
      history = before ++ stamped :: after →
      stamped.event = ⟨.readFollowsRedirects, answer⟩ →
      (answer = true ↔ flag = true ∨
        ∃ earlier ∈ before, earlier.event.op = .setFollowsRedirects) := by
    induction history generalizing flag with
    | nil => simp
    | cons first history ih =>
        intro before stamped after answer hsplit hevent
        cases before with
        | nil =>
            obtain ⟨rfl, _⟩ := List.cons.inj hsplit
            rw [h.1 answer hevent]
            simp
        | cons head before =>
            obtain ⟨rfl, htail⟩ := List.cons.inj hsplit
            rw [ih _ h.2 before stamped after answer htail hevent]
            simp [or_assoc]
  intro before stamped after answer hsplit hevent
  simpa using hfrom false history h before stamped after answer hsplit hevent

namespace HiddenRedirect

/-- The runtime parses the three URLs of the run. -/
def parser : UrlParser where
  parse url := [("https://a.example/x", ⟨"https:", "a.example"⟩),
    ("https://b.example/y", ⟨"https:", "b.example"⟩),
    ("https://10.0.0.1/", (⟨"https:", "10.0.0.1"⟩ : ParsedUrl))].lookup url
  resolve location _ := some location

/-- A service with the default limits. -/
def service : BuiltinHttpGetService where
  platform := PlatformTable.platform {}
  parser := parser
  timeoutMs := defaultTimeoutMs
  maxBytes := defaultMaxBytes
  allowInsecure := false

/-- A response that hides where it redirects. -/
def hidden : Response where
  type := "opaqueredirect"
  status := 0
  url := ""
  headers := []

/-- A response that names the URL it reached. -/
def reached (url : String) : Response where
  type := "basic"
  status := 200
  url := url
  headers := []

/-- The first call learns that the runtime follows redirects by itself. -/
def first : List FetchEvent :=
  [⟨.checkUrl "https://a.example/x" (.ok .allowed), ()⟩, ⟨.readFollowsRedirects, false⟩,
    ⟨.fetch "https://a.example/x" .manual, .ok hidden⟩, ⟨.setFollowsRedirects, ()⟩,
    ⟨.fetch "https://a.example/x" .follow, .ok (reached "https://b.example/y")⟩,
    ⟨.readFollowsRedirects, true⟩, ⟨.checkUrl "https://b.example/y" (.ok .allowed), ()⟩,
    ⟨.readCapped (reached "https://b.example/y") "https://b.example/y" defaultMaxBytes,
      .ok "text"⟩,
    ⟨.deadlinePassed, false⟩]

/-- The second is led to a private address, whose body is not read. -/
def second : List FetchEvent :=
  [⟨.checkUrl "https://b.example/y" (.ok .allowed), ()⟩, ⟨.readFollowsRedirects, true⟩,
    ⟨.fetch "https://b.example/y" .follow, .ok (reached "https://10.0.0.1/")⟩,
    ⟨.readFollowsRedirects, true⟩,
    ⟨.checkUrl "https://10.0.0.1/" (.ok (.refused "host is a private address")), ()⟩,
    ⟨.discard (reached "https://10.0.0.1/"), ()⟩, ⟨.deadlinePassed, false⟩]

/-- Two calls, one after another. -/
def run : Run String Unit FetchPort FetchPort.Answer :=
  .sequential [("https://a.example/x", first.map fun event => ((), event)),
    ("https://b.example/y", second.map fun event => ((), event))]

/-- The events are those of the calls. -/
theorem follows : run.Follows (service.get 6) := by
  have hexec {url : String} {events : List FetchEvent}
      (hreplay : (replay (service.get 6 url) events).isSome = true) :
      ∃ result, Executes (service.get 6 url) events result := by
    obtain ⟨result, hresult⟩ := Option.isSome_iff_exists.mp hreplay
    exact ⟨result, replay_eq_some_iff.mp hresult⟩
  apply Run.follows_sequential
  simp only [List.forall_mem_cons, List.map_map]
  refine ⟨hexec ?_, hexec ?_, by simp⟩
  · decide +kernel
  · decide +kernel

/-- Both calls see one flag. -/
theorem flagShared : FlagShared run.history := by
  apply flagShared_of_readsFlag
  simp [run, Run.sequential, Run.sequence, first, second, ReadsFlag]

end HiddenRedirect

/-- The call that is led to a private address keeps the policy. -/
theorem get_keepsPolicy_hiddenRedirect :
    ∃ rest hops ending,
      own HiddenRedirect.run.history 1 ++ rest = hops.flatMap Hop.events ++ ending ∧
        KeepsPolicy HiddenRedirect.service "https://b.example/y" hops ending :=
  (get_keepsPolicy (by decide) HiddenRedirect.follows HiddenRedirect.flagShared rfl).1

end VerifierCore
