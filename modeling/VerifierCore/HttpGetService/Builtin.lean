import VerifierCore.HttpGetService.UrlPolicy
import VerifierCore.Types

/-!
# The built-in HTTP service

A request is made hop by hop.  Each URL is judged before it is fetched, and the URL a
response was reached at before its body is read.  A runtime that hides redirects is
noticed by its opaque answer; from then on every call lets it follow them by itself.
That flag is the one thing the calls of a service share, so they interleave on it.
-/

namespace VerifierCore

open Foundations Program

/-! ## Requests and responses -/

/-- The `redirect` mode of a request. -/
inductive RedirectMode where
  | manual
  | follow
deriving DecidableEq

/-- A response to `fetch`, with its headers under their lower-case names. -/
structure Response where
  type : String
  status : Int
  url : String
  headers : List (String × String)
deriving DecidableEq

/-- What a call does: `fetch` and the methods of a response, the shared flag, and the
race against the deadline.  The judgement of a URL is a computation; it is listed with
its verdict, so that it can be said what it came before. -/
inductive FetchPort where
  | checkUrl (url : String) (check : Except Thrown UrlCheck)
  | readFollowsRedirects
  | setFollowsRedirects
  | fetch (url : String) (redirect : RedirectMode)
  | discard (response : Response)
  | readCapped (response : Response) (url : String) (maxBytes : Num)
  | deadlinePassed
deriving DecidableEq

/-- What each operation answers. -/
@[reducible]
def FetchPort.Answer : FetchPort → Type
  | .checkUrl .. => Unit
  | .readFollowsRedirects => Bool
  | .setFollowsRedirects => Unit
  | .fetch .. => Except Thrown Response
  | .discard _ => Unit
  | .readCapped .. => Except Thrown String
  | .deadlinePassed => Bool

/-- Answers of a runtime that fetches nothing and has the flag up. -/
def FetchPort.unavailable : (port : FetchPort) → port.Answer
  | .checkUrl .. => ()
  | .readFollowsRedirects => true
  | .setFollowsRedirects => ()
  | .fetch .. => .error .null
  | .discard _ => ()
  | .readCapped .. => .error .null
  | .deadlinePassed => true

/-- The body of an async function of the service. -/
abbrev Fetching (α : Type) : Type :=
  Program FetchPort FetchPort.Answer α

/-- An operation with its answer. -/
abbrev FetchEvent : Type :=
  Event FetchPort FetchPort.Answer

/-- Do one thing. -/
def fetching (port : FetchPort) : Fetching port.Answer :=
  Program.perform port

/-- An operation is the first event of an execution, with any answer. -/
theorem executes_fetching_bind_iff {port : FetchPort} {α : Type}
    {f : port.Answer → Fetching α} {a : α} {trace : List FetchEvent} :
    Executes (fetching port >>= f) trace a ↔
      ∃ answer rest, trace = ⟨port, answer⟩ :: rest ∧ Executes (f answer) rest a :=
  executes_perform_bind_iff

/-! ## The service -/

/-- The options of the service, as the caller gives them. -/
structure BuiltinHttpGetServiceOptions where
  timeoutMs : Option Num := none
  maxBytes : Option Num := none
  allowInsecure : Option Bool := none

/-- A service, with the runtime it is used in. -/
structure BuiltinHttpGetService where
  platform : Platform
  parser : UrlParser
  timeoutMs : Num
  maxBytes : Num
  allowInsecure : Bool

/-- Ten seconds for a call. -/
def defaultTimeoutMs : Num :=
  ((10000 : ℚ) : Num)

/-- Five mebibytes for a body. -/
def defaultMaxBytes : Num :=
  ((5 * 1024 * 1024 : ℚ) : Num)

/-- The redirects a call follows at most. -/
def maxRedirects : Nat :=
  5

/-- The statuses that redirect. -/
def redirectStatuses : List Int :=
  [301, 302, 303, 307, 308]

/-- `new Error(message)`. -/
def errorWith (message : String) : Thrown :=
  .obj [("message", .str message)]

/-- An option is a positive number, or its default. -/
def positiveOption (name : String) (value : Option Num) (fallback : Num) : Except Thrown Num :=
  match value with
  | none => .ok fallback
  | some value =>
      if value = ⊤ ∨ value ≤ ((0 : ℚ) : Num) then
        .error (errorWith s!"{name} must be a positive number")
      else .ok value

/-- The service of the options. -/
def builtinHttpGetService (platform : Platform) (parser : UrlParser)
    (options : BuiltinHttpGetServiceOptions) : Except Thrown BuiltinHttpGetService := do
  let timeoutMs ← positiveOption "timeoutMs" options.timeoutMs defaultTimeoutMs
  let maxBytes ← positiveOption "maxBytes" options.maxBytes defaultMaxBytes
  .ok
    { platform := platform
      parser := parser
      timeoutMs := timeoutMs
      maxBytes := maxBytes
      allowInsecure := options.allowInsecure.getD false }

namespace BuiltinHttpGetService

/-- The verdict of the policy on a URL. -/
def check (service : BuiltinHttpGetService) (url : String) : Except Thrown UrlCheck :=
  checkUrl service.parser url service.allowInsecure

/-- The error of a URL that is refused. -/
def refusal (url reason : String) : Thrown :=
  errorWith s!"Request to {url} refused: {reason}"

/-- Judge a URL, and throw unless it is allowed. -/
def assertAllowed (service : BuiltinHttpGetService) (url : String) :
    Fetching (Except Thrown Unit) := do
  fetching (.checkUrl url (service.check url))
  match service.check url with
  | .ok .allowed => pure (.ok ())
  | .ok (.refused reason) => pure (.error (refusal url reason))
  | .error error => pure (.error error)

/-- One request; a failure is reported with its cause. -/
def fetchOrFail (url : String) (redirect : RedirectMode) :
    Fetching (Except Thrown Response) := do
  let fetched ← fetching (.fetch url redirect)
  match fetched with
  | .ok response => pure (.ok response)
  | .error cause =>
      pure (.error (.obj [("message", .str s!"Request to {url} failed"), ("cause", cause)]))

/-- Follow a redirect the runtime hides, and remember that it does. -/
def retryOpaque (url : String) (response : Response) : Fetching (Except Thrown Response) :=
  if response.type = "opaqueredirect" then do
    fetching .setFollowsRedirects
    fetchOrFail url .follow
  else pure (.ok response)

/-- How a round of the redirect loop ends: with a throw, with the response to read, or
with the URL of the next round. -/
inductive HopOutcome where
  | failed (error : Thrown)
  | done (response : Response)
  | next (url : String)

/-- What becomes of a response. -/
def leaveHop (service : BuiltinHttpGetService) (redirects : Nat) (current : String)
    (response : Response) : Fetching HopOutcome := do
  let followsRedirects ← fetching .readFollowsRedirects
  match response.headers.lookup "location" with
  | none => pure (.done response)
  | some location =>
      if followsRedirects ∨ response.status ∉ redirectStatuses then pure (.done response)
      else do
        fetching (.discard response)
        if redirects = maxRedirects then pure (.failed (refusal current "too many redirects"))
        else
          match service.parser.resolve location current with
          | some next => pure (.next next)
          | none => pure (.failed (refusal current "not a valid URL"))

/-- One round of the redirect loop. -/
def fetchHop (service : BuiltinHttpGetService) (redirects : Nat) (current : String) :
    Fetching HopOutcome := do
  match ← service.assertAllowed current with
  | .error error => pure (.failed error)
  | .ok () => do
      let followsRedirects ← fetching .readFollowsRedirects
      match ← fetchOrFail current (if followsRedirects then .follow else .manual) with
      | .error error => pure (.failed error)
      | .ok first => do
          match ← retryOpaque current first with
          | .error error => pure (.failed error)
          | .ok response => leaveHop service redirects current response

/-- The redirect loop, for at most so many rounds; without an answer it is still
looping. -/
def fetchHops (service : BuiltinHttpGetService) :
    Nat → Nat → String → Fetching (Option (Except Thrown (String × Response)))
  | 0, _, _ => pure none
  | rounds + 1, redirects, current => do
      match ← fetchHop service redirects current with
      | .failed error => pure (some (.error error))
      | .done response => pure (some (.ok (current, response)))
      | .next url => fetchHops service rounds (redirects + 1) url

/-- The body as JSON, or else the text. -/
def parseOnce (service : BuiltinHttpGetService) (text : String) : Json :=
  (service.platform.parseJson text).getD (.str text)

/-- The URL a response was reached at: its own, if it names one. -/
def reachedUrl (current : String) (response : Response) : String :=
  if response.url ≠ "" then response.url else current

/-- Judge the URL a response was reached at, unless it has just been fetched. -/
def assertReached (service : BuiltinHttpGetService) (current reached : String) :
    Fetching (Except Thrown Unit) :=
  if reached ≠ current then service.assertAllowed reached else pure (.ok ())

/-- Read the response the loop ended with, once the URL it was reached at is judged. -/
def readReached (service : BuiltinHttpGetService) (current : String) (response : Response) :
    Fetching (Except Thrown HttpGetResult) := do
  let reached := reachedUrl current response
  match ← service.assertReached current reached with
  | .error error => do
      fetching (.discard response)
      pure (.error error)
  | .ok () => do
      match ← fetching (.readCapped response reached service.maxBytes) with
      | .error error => pure (.error error)
      | .ok text =>
          pure (.ok
            { body := some (service.parseOnce text)
              headers := response.headers
              status := response.status })

/-- Fetch a URL under the URL policy. -/
def fetchWithinPolicy (service : BuiltinHttpGetService) (rounds : Nat) (url : String) :
    Fetching (Option (Except Thrown HttpGetResult)) := do
  match ← fetchHops service rounds 0 url with
  | none => pure none
  | some (.error error) => pure (some (.error error))
  | some (.ok (current, response)) => some <$> readReached service current response

/-- The service's `get`.  A call that loses the race against its deadline throws, and
what it had begun ends by itself. -/
def get (service : BuiltinHttpGetService) (rounds : Nat) (url : String) :
    Fetching (Option (Except Thrown HttpGetResult)) := do
  let fetched ← service.fetchWithinPolicy rounds url
  let late ← fetching .deadlinePassed
  let timeout := service.platform.numberToString service.timeoutMs
  pure (fetched.map fun result =>
    if late then .error (errorWith s!"Request to {url} timed out after {timeout} ms")
    else result)

end BuiltinHttpGetService

end VerifierCore
