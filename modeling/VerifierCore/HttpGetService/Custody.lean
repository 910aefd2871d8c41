import VerifierCore.Foundations.Monitor
import VerifierCore.HttpGetService.PolicyRuns

/-!
# What becomes of a response

A response that is fetched holds a connection until its body is read or given up.  A
call has at most one such response: it fetches again only when the response before it
is given up, and then what that response redirects to, or when the runtime hid a
redirect, and then the same URL.  The protocol is a monitor of a single call, so the
calls of a service keep it however they interleave.

Main results:

- Theorem {lit}`passes_fetchHop`: what a round of the redirect loop leaves behind.
- Theorem {lit}`passes_get`: a call keeps the protocol.
- Theorem {lit}`get_custody`: so does every call of a run, and what has returned holds
  no response.
-/

namespace VerifierCore

open Foundations Program BuiltinHttpGetService

/-! ## The protocol -/

/-- Where a call is between its responses. -/
inductive Custody where
  /-- About to fetch its URL. -/
  | due (url : String)
  /-- With a response in hand. -/
  | holding (url : String) (response : Response)
  /-- With a response given up. -/
  | left (url : String) (response : Response)
  /-- With a body read. -/
  | read (url : String) (response : Response) (text : String)
  /-- With a request or a body that failed. -/
  | over
deriving DecidableEq

/-- A URL that a response redirects to, from the URL it was fetched from. -/
def RedirectsTo (service : BuiltinHttpGetService) (url : String) (response : Response)
    (next : String) : Prop :=
  response.status ∈ redirectStatuses ∧
    (response.headers.lookup "location").bind (service.parser.resolve · url) = some next

instance (service : BuiltinHttpGetService) (url : String) (response : Response)
    (next : String) : Decidable (RedirectsTo service url response next) :=
  inferInstanceAs (Decidable (_ ∧ _))

/-- What may be fetched: the URL of the call, the URL of a hidden redirect once more, and
where a redirect that is given up leads. -/
def Custody.MayFetch (service : BuiltinHttpGetService) : Custody → String → Prop
  | .due current, url => url = current
  | .holding current response, url => url = current ∧ response.type = "opaqueredirect"
  | .left current response, url => RedirectsTo service current response url
  | .read .., _ => False
  | .over, _ => False

instance (service : BuiltinHttpGetService) (state : Custody) (url : String) :
    Decidable (state.MayFetch service url) :=
  match state with
  | .due _ => inferInstanceAs (Decidable (_ = _))
  | .holding .. => inferInstanceAs (Decidable (_ ∧ _))
  | .left current response => inferInstanceAs (Decidable (RedirectsTo service current response url))
  | .read .. => inferInstanceAs (Decidable False)
  | .over => inferInstanceAs (Decidable False)

/-- A request is made when one may be.  A response is given up or read while it is in
hand, and its body is read under the URL it was reached at, up to the cap. -/
def custody (service : BuiltinHttpGetService) :
    Monitor FetchPort FetchPort.Answer Custody where
  step
    | state, ⟨.fetch url _, fetched⟩ =>
        if state.MayFetch service url then
          match fetched with
          | .ok response => some (.holding url response)
          | .error _ => some .over
        else none
    | .holding url held, ⟨.discard response, _⟩ =>
        if response = held then some (.left url held) else none
    | .holding url held, ⟨.readCapped response reached maxBytes, body⟩ =>
        if response = held ∧ reached = reachedUrl url held ∧ maxBytes = service.maxBytes then
          match body with
          | .ok text => some (.read url held text)
          | .error _ => some .over
        else none
    | _, ⟨.discard _, _⟩ => none
    | _, ⟨.readCapped .., _⟩ => none
    | state, _ => some state

/-- What a call returns for a body it has read. -/
def BuiltinHttpGetService.resultOf (service : BuiltinHttpGetService) (response : Response)
    (text : String) : HttpGetResult where
  body := some (service.parseOnce text)
  headers := response.headers
  status := response.status

section

variable {service : BuiltinHttpGetService} {state : Custody} {url : String}

/-! ## Steps -/

/-- Checking a URL moves no response. -/
@[simp]
theorem custody_step_checkUrl {check : Except Thrown UrlCheck} :
    (custody service).step state ⟨.checkUrl url check, ()⟩ = some state := by
  cases state <;> rfl

/-- Reading the shared flag leaves the custody as it is. -/
@[simp]
theorem custody_step_readFollowsRedirects {flag : Bool} :
    (custody service).step state ⟨.readFollowsRedirects, flag⟩ = some state := by
  cases state <;> rfl

/-- Setting the shared flag leaves the custody as it is. -/
@[simp]
theorem custody_step_setFollowsRedirects :
    (custody service).step state ⟨.setFollowsRedirects, ()⟩ = some state := by
  cases state <;> rfl

/-- or looking at the deadline. -/
@[simp]
theorem custody_step_deadlinePassed {late : Bool} :
    (custody service).step state ⟨.deadlinePassed, late⟩ = some state := by
  cases state <;> rfl

/-- A request that may be made puts its response into the caller's hands. -/
theorem custody_step_fetch_ok {redirect : RedirectMode} {response : Response}
    (h : state.MayFetch service url) :
    (custody service).step state ⟨.fetch url redirect, .ok response⟩ =
      some (.holding url response) := by
  cases state <;> exact if_pos h

/-- A request that fails leaves nothing to care for. -/
theorem custody_step_fetch_error {redirect : RedirectMode} {cause : Thrown}
    (h : state.MayFetch service url) :
    (custody service).step state ⟨.fetch url redirect, .error cause⟩ = some .over := by
  cases state <;> exact if_pos h

/-- The response in hand may be let go of. -/
@[simp]
theorem custody_step_discard {response : Response} :
    (custody service).step (.holding url response) ⟨.discard response, ()⟩ =
      some (.left url response) :=
  if_pos rfl

/-- The response in hand may be read once, under the cap of the service. -/
theorem custody_step_readCapped_ok {response : Response} {text : String} :
    (custody service).step (.holding url response)
      ⟨.readCapped response (reachedUrl url response) service.maxBytes, .ok text⟩ =
        some (.read url response text) :=
  if_pos ⟨rfl, rfl, rfl⟩

/-- A read that fails ends the call. -/
theorem custody_step_readCapped_error {response : Response} {cause : Thrown} :
    (custody service).step (.holding url response)
      ⟨.readCapped response (reachedUrl url response) service.maxBytes, .error cause⟩ =
        some .over :=
  if_pos ⟨rfl, rfl, rfl⟩

/-! ## The redirect loop -/

/-- With nothing in hand, and nothing read. -/
def Custody.Idle : Custody → Prop
  | .holding .. | .read .. => False
  | .due _ | .left .. | .over => True

/-- Behind a request its response is in hand. -/
def FetchSettled (url : String) : Except Thrown Response → Custody → Prop
  | .ok response, final => final = .holding url response
  | .error _, final => final = .over

/-- Behind a round the response to read is in hand, or the next URL may be fetched. -/
def LeavesHop (service : BuiltinHttpGetService) (current : String) :
    HopOutcome → Custody → Prop
  | .failed _, final => final.Idle
  | .done response, final => final = .holding current response
  | .next url, final => final.Idle ∧ final.MayFetch service url

/-- Testing a URL against the policy changes nothing about the response in hand. -/
theorem passes_assertAllowed :
    (custody service).Passes state (service.assertAllowed url) fun _ final => final = state := by
  apply Monitor.passes_perform_bind
  intro _
  refine ⟨_, custody_step_checkUrl, ?_⟩
  cases service.check url with
  | error error => exact Monitor.passes_pure rfl
  | ok check =>
      cases check with
      | allowed => exact Monitor.passes_pure rfl
      | refused reason => exact Monitor.passes_pure rfl

/-- A request ends with its response in hand, or with nothing. -/
theorem passes_fetchOrFail {redirect : RedirectMode} (h : state.MayFetch service url) :
    (custody service).Passes state (fetchOrFail url redirect) (FetchSettled url) := by
  apply Monitor.passes_perform_bind
  intro fetched
  cases fetched with
  | ok response => exact ⟨_, custody_step_fetch_ok h, Monitor.passes_pure rfl⟩
  | error cause => exact ⟨_, custody_step_fetch_error h, Monitor.passes_pure rfl⟩

/-- A hidden redirect is let go of without being given up: it has no body. -/
theorem passes_retryOpaque {response : Response} :
    (custody service).Passes (.holding url response) (retryOpaque url response)
      (FetchSettled url) := by
  unfold retryOpaque
  by_cases hhidden : response.type = "opaqueredirect"
  · rw [if_pos hhidden]
    apply Monitor.passes_perform_bind
    intro _
    exact ⟨_, custody_step_setFollowsRedirects, passes_fetchOrFail ⟨rfl, hhidden⟩⟩
  · rw [if_neg hhidden]
    exact Monitor.passes_pure rfl

/-- A hop is left with its response in hand, or behind it for the next URL. -/
theorem passes_leaveHop {redirects : Nat} {response : Response} :
    (custody service).Passes (.holding url response) (leaveHop service redirects url response)
      (LeavesHop service url) := by
  apply Monitor.passes_perform_bind
  intro flag
  refine ⟨_, custody_step_readFollowsRedirects, ?_⟩
  cases hlocation : response.headers.lookup "location" with
  | none => exact Monitor.passes_pure rfl
  | some location =>
      dsimp only
      by_cases hkept : flag ∨ response.status ∉ redirectStatuses
      · rw [if_pos hkept]
        exact Monitor.passes_pure rfl
      · rw [if_neg hkept]
        apply Monitor.passes_perform_bind
        intro _
        refine ⟨_, custody_step_discard, ?_⟩
        by_cases hlimit : redirects = maxRedirects
        · rw [if_pos hlimit]
          exact Monitor.passes_pure trivial
        · rw [if_neg hlimit]
          cases hresolve : service.parser.resolve location url with
          | none => exact Monitor.passes_pure trivial
          | some next =>
              have hstatus : response.status ∈ redirectStatuses := by
                rw [not_or, not_not] at hkept
                exact hkept.2
              refine Monitor.passes_pure ⟨trivial, hstatus, ?_⟩
              rw [hlocation, Option.bind_some, hresolve]

/-- A hop with its own request is in good order, and leaves a response in hand. -/
theorem passes_fetchHop {redirects : Nat} (hidle : state.Idle) (h : state.MayFetch service url) :
    (custody service).Passes state (fetchHop service redirects url) (LeavesHop service url) := by
  apply passes_assertAllowed.bind
  rintro checked _ rfl
  cases checked with
  | error error => exact Monitor.passes_pure hidle
  | ok =>
      apply Monitor.passes_perform_bind
      intro flag
      refine ⟨_, custody_step_readFollowsRedirects, ?_⟩
      apply (passes_fetchOrFail h).bind
      intro first next hfirst
      cases first with
      | error error =>
          cases hfirst
          exact Monitor.passes_pure trivial
      | ok first =>
          cases hfirst
          apply passes_retryOpaque.bind
          intro retried next hretried
          cases retried with
          | error error =>
              cases hretried
              exact Monitor.passes_pure trivial
          | ok response =>
              cases hretried
              exact passes_leaveHop

/-- Behind the loop the response to read is in hand, and nothing else ever is. -/
def LeavesHops : Option (Except Thrown (String × Response)) → Custody → Prop
  | some (.ok (current, response)), final => final = .holding current response
  | _, final => final.Idle

/-- Following redirects ends with the last response in hand. -/
theorem passes_fetchHops {rounds redirects : Nat} (hidle : state.Idle)
    (h : state.MayFetch service url) :
    (custody service).Passes state (fetchHops service rounds redirects url) LeavesHops := by
  induction rounds generalizing state redirects url with
  | zero => exact Monitor.passes_pure hidle
  | succ rounds ih =>
      apply (passes_fetchHop hidle h).bind
      intro outcome next hnext
      cases outcome with
      | failed error => exact Monitor.passes_pure hnext
      | done response => exact Monitor.passes_pure hnext
      | next url => exact ih hnext.1 hnext.2

/-! ## Calls -/

/-- What is returned is what was read. -/
def ReadsResult (service : BuiltinHttpGetService) :
    Option (Except Thrown HttpGetResult) → Custody → Prop
  | some (.ok result), final => ∃ current response text,
      final = .read current response text ∧ result = service.resultOf response text
  | _, final => final.Idle

/-- The response in hand is read, and what was read is returned. -/
theorem passes_readReached {response : Response} :
    (custody service).Passes (.holding url response) (readReached service url response)
      fun result final => ReadsResult service (some result) final := by
  have hjudged : (custody service).Passes (.holding url response)
      (service.assertReached url (reachedUrl url response))
      fun _ final => final = .holding url response := by
    unfold assertReached
    by_cases hreached : reachedUrl url response ≠ url
    · rw [if_pos hreached]
      exact passes_assertAllowed
    · rw [if_neg hreached]
      exact Monitor.passes_pure rfl
  apply hjudged.bind
  rintro judged _ rfl
  cases judged with
  | error error =>
      apply Monitor.passes_perform_bind
      intro _
      exact ⟨_, custody_step_discard, Monitor.passes_pure trivial⟩
  | ok =>
      apply Monitor.passes_perform_bind
      intro body
      cases body with
      | error error => exact ⟨_, custody_step_readCapped_error, Monitor.passes_pure trivial⟩
      | ok text =>
          refine ⟨_, custody_step_readCapped_ok, Monitor.passes_pure ?_⟩
          exact ⟨url, response, text, rfl, rfl⟩

/-- A call without its error handling reads one response at most. -/
theorem passes_fetchWithinPolicy {rounds : Nat} :
    (custody service).Passes (.due url) (service.fetchWithinPolicy rounds url)
      (ReadsResult service) := by
  have hhops : (custody service).Passes (.due url) (fetchHops service rounds 0 url) LeavesHops :=
    passes_fetchHops trivial rfl
  apply hhops.bind
  intro outcome next hnext
  cases outcome with
  | none => exact Monitor.passes_pure hnext
  | some outcome =>
      cases outcome with
      | error error => exact Monitor.passes_pure hnext
      | ok reached =>
          cases hnext
          exact passes_readReached.map

/-- What a call throws that has lost the race. -/
def BuiltinHttpGetService.timedOut (service : BuiltinHttpGetService) (url : String) : Thrown :=
  let timeout := service.platform.numberToString service.timeoutMs
  errorWith s!"Request to {url} timed out after {timeout} ms"

/-- How a call ends: without a response in hand, and with a result exactly for a body
that it has read in time. -/
structure Settled (service : BuiltinHttpGetService) (url : String)
    (result : Option (Except Thrown HttpGetResult)) (final : Custody) : Prop where
  released : ∀ current response, final ≠ .holding current response
  returned : ∀ value, result = some (.ok value) → ∃ current response text,
    final = .read current response text ∧ value = service.resultOf response text
  delivered : ∀ current response text, final = .read current response text →
    result = some (.ok (service.resultOf response text)) ∨
      result = some (.error (service.timedOut url))

/-- A call that ends in an error without a response in hand is settled. -/
theorem Settled.of_idle {result : Option (Except Thrown HttpGetResult)} {final : Custody}
    (hidle : final.Idle) (hthrown : ∀ value, result ≠ some (.ok value)) :
    Settled service url result final := by
  refine ⟨?_, fun value hvalue => absurd hvalue (hthrown value), ?_⟩
  · rintro current response rfl
    exact hidle
  · rintro current response text rfl
    exact hidle.elim

/-- Every call is in good order: no response is left open, and none is read twice. -/
theorem passes_get {rounds : Nat} :
    (custody service).Passes (.due url) (service.get rounds url) (Settled service url) := by
  apply passes_fetchWithinPolicy.bind
  intro fetched final hread
  apply Monitor.passes_perform_bind
  intro late
  refine ⟨_, custody_step_deadlinePassed, Monitor.passes_pure ?_⟩
  cases fetched with
  | none => exact .of_idle hread (by simp)
  | some fetched =>
      cases fetched with
      | error error =>
          apply Settled.of_idle hread
          cases late <;> simp
      | ok value =>
          obtain ⟨current, response, text, rfl, rfl⟩ := hread
          refine ⟨by simp, ?_, ?_⟩
          · cases late with
            | true => simp
            | false =>
                rintro value ⟨⟩
                exact ⟨current, response, text, rfl, rfl⟩
          · rintro _ _ _ ⟨⟩
            cases late with
            | true => exact .inr rfl
            | false => exact .inl rfl

end

/-- However the calls of a service interleave, each keeps the protocol with its own
responses; and when it has returned it holds none, and has returned what it read. -/
theorem get_custody {T : Type} {service : BuiltinHttpGetService} {rounds : Nat}
    {calls : Run String T FetchPort FetchPort.Answer} (hfollows : calls.Follows (service.get rounds))
    {i : Nat} {url : String} (hcall : calls.calls[i]? = some url) :
    (∃ state, (custody service).run (.due url) (own calls.history i) = some state) ∧
      ∀ result, calls.Returns (service.get rounds) i url result →
        ∃ final, (custody service).run (.due url) (own calls.history i) = some final ∧
          Settled service url result final :=
  ⟨passes_get.run_own hfollows hcall, fun _ hreturns => passes_get.run_returned hreturns⟩

/-! ### A redirect given up -/

namespace GivenUp

/-- A response that points somewhere else. -/
def moved : Response where
  type := "basic"
  status := 302
  url := "https://a.example/x"
  headers := [("location", "https://b.example/y")]

/-- The first call is redirected while the second is waiting for its deadline. -/
def calls : Run String Unit FetchPort FetchPort.Answer where
  calls := ["https://a.example/x", "https://b.example/y"]
  history :=
    [⟨0, (), ⟨.checkUrl "https://a.example/x" (.ok .allowed), ()⟩⟩,
      ⟨0, (), ⟨.readFollowsRedirects, false⟩⟩,
      ⟨1, (), ⟨.checkUrl "https://b.example/y" (.ok .allowed), ()⟩⟩,
      ⟨0, (), ⟨.fetch "https://a.example/x" .manual, .ok moved⟩⟩,
      ⟨1, (), ⟨.readFollowsRedirects, false⟩⟩,
      ⟨1, (), ⟨.fetch "https://b.example/y" .manual, .error .null⟩⟩,
      ⟨0, (), ⟨.readFollowsRedirects, false⟩⟩,
      ⟨0, (), ⟨.discard moved, ()⟩⟩,
      ⟨0, (), ⟨.checkUrl "https://b.example/y" (.ok .allowed), ()⟩⟩,
      ⟨0, (), ⟨.readFollowsRedirects, false⟩⟩,
      ⟨0, (), ⟨.fetch "https://b.example/y" .manual,
        .ok (HiddenRedirect.reached "https://b.example/y")⟩⟩,
      ⟨1, (), ⟨.deadlinePassed, true⟩⟩,
      ⟨0, (), ⟨.readFollowsRedirects, false⟩⟩,
      ⟨0, (), ⟨.readCapped (HiddenRedirect.reached "https://b.example/y") "https://b.example/y"
        defaultMaxBytes, .ok "text"⟩⟩,
      ⟨0, (), ⟨.deadlinePassed, false⟩⟩]

/-- What the call returns is read off the place it reached. -/
def result : Option (Except Thrown HttpGetResult) :=
  some (.ok (HiddenRedirect.service.resultOf (HiddenRedirect.reached "https://b.example/y") "text"))

/-- The call returns it. -/
theorem returns :
    calls.Returns (HiddenRedirect.service.get 6) 0 "https://a.example/x" result := by
  refine ⟨rfl, ?_⟩
  apply replay_eq_some_iff.mp
  decide +kernel

/-- The events are those of the call. -/
theorem follows : calls.Follows (HiddenRedirect.service.get 6) where
  threads := by
    simp [calls]
  executes := by
    intro i call hcall
    match i with
    | 0 =>
        cases hcall
        exact ⟨[], result, by simpa using returns.executes⟩
    | 1 =>
        cases hcall
        have hreplay : ((HiddenRedirect.service.get 6 "https://b.example/y").replay
            (own calls.history 1 ++ [])).isSome = true := by
          decide +kernel
        obtain ⟨thrown, hthrown⟩ := Option.isSome_iff_exists.mp hreplay
        exact ⟨[], thrown, replay_eq_some_iff.mp hthrown⟩
    | i + 2 => cases hcall

end GivenUp

/-- The redirected call has given up the redirect and read what it led to. -/
theorem get_custody_givenUp :
    ∃ final, (custody HiddenRedirect.service).run (.due "https://a.example/x")
        (own GivenUp.calls.history 0) = some final ∧
      Settled HiddenRedirect.service "https://a.example/x" GivenUp.result final :=
  (get_custody GivenUp.follows rfl).2 GivenUp.result GivenUp.returns

end VerifierCore
