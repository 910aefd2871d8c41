import VerifierCore.HttpGetService.Builtin
import VerifierCore.Registries.Handler

/-!
# The document loader

Remote documents and did:web documents are fetched through the HTTP service.  The service
is replaceable: the built-in one parses a body, another one may hand back its text, which
the loader then parses by itself.

Main results:

- Theorem {lit}`sameDocument_iff`: the texts from which both services lead to one document.
- Theorem {lit}`sameDocument_iff_of_shortens`: they are those that are not the JSON text of a
  string.
-/

namespace VerifierCore

open Foundations Program

/-! ## Bodies -/

/-- The body of a response as JSON.  A string is taken for a text that is still to be
parsed. -/
def parseJsonBody (platform : Platform) (body : Option Json) : Except Thrown (Option Json) :=
  match body with
  | some (.str text) =>
      match platform.parseJson text with
      | some value => .ok (some value)
      | none => .error (errorWith "response is not JSON")
  | body => .ok body

/-! ## Documents -/

/-- The error of a DID that does not resolve. -/
def didResolutionError (message code : String) (cause : Option Thrown) : Thrown :=
  .obj ([("name", .str "DIDResolutionError"), ("message", .str message), ("code", .str code)] ++
    cause.toList.map fun cause => ("cause", cause))

/-- The did:web document in what was fetched.  Every failure is a resolution error of fixed
text. -/
def didWebDocument (platform : Platform) (url : String) (fetched : Except Thrown HttpGetResult) :
    Except Thrown (Option Json) :=
  match fetched with
  | .error cause =>
      .error (didResolutionError s!"Could not fetch DID document at \"{url}\"."
        "internalError" (some cause))
  | .ok result =>
      if !result.isOk then
        .error (didResolutionError
          s!"Fetching DID document at \"{url}\" returned HTTP {result.status}."
          (if result.status = 404 then "notFound" else "internalError") none)
      else
        (parseJsonBody platform result.body).mapError fun cause =>
          didResolutionError s!"The DID document at \"{url}\" is not JSON." "internalError"
            (some cause)

/-- The document of a `did:web` DID, from the URL that it names. -/
def fetchDidWebDocument (platform : Platform) (url : String) :
    Async (Except Thrown (Option Json)) := do
  let fetched ← ask (.httpGet url)
  pure (didWebDocument platform url fetched)

/-- The failure to load a remote document names its URL. -/
def notFoundLoading (url : String) (cause : Thrown) : Thrown :=
  let reason := errorMessage cause "non-Error value thrown"
  .obj [("message", .str s!"NotFoundError loading \"{url}\": {reason}"), ("cause", cause)]

/-- The remote document in what was fetched. -/
def remoteDocument (platform : Platform) (url : String) (fetched : Except Thrown HttpGetResult) :
    Except Thrown (Option Json) :=
  match fetched with
  | .error cause => .error (notFoundLoading url cause)
  | .ok result =>
      if !result.isOk then .error (notFoundLoading url (errorWith s!"HTTP {result.status}"))
      else (parseJsonBody platform result.body).mapError (notFoundLoading url)

/-- The `get` of the protocol handler. -/
def protocolHandler (platform : Platform) (url : String) :
    Async (Except Thrown (Option Json)) :=
  if !startsWith url "http" then pure (.error (errorWith "NotFoundError"))
  else do
    let fetched ← ask (.httpGet url)
    pure (remoteDocument platform url fetched)

/-! ## Raw and parsed bodies -/

/-- A text leads to one document, whether the service hands it back or what it parsed. -/
structure SameDocument (service : BuiltinHttpGetService) (text : String) : Prop where
  body : parseJsonBody service.platform (some (service.parseOnce text)) =
    parseJsonBody service.platform (some (.str text))
  didWeb : ∀ url headers status,
    didWebDocument service.platform url
        (.ok { body := some (service.parseOnce text), headers := headers, status := status }) =
      didWebDocument service.platform url
        (.ok { body := some (.str text), headers := headers, status := status })
  remote : ∀ url headers status,
    remoteDocument service.platform url
        (.ok { body := some (service.parseOnce text), headers := headers, status := status }) =
      remoteDocument service.platform url
        (.ok { body := some (.str text), headers := headers, status := status })

/-- A did:web document depends on the body through its JSON alone. -/
theorem didWebDocument_congr {platform : Platform} {body body' : Option Json}
    (h : parseJsonBody platform body = parseJsonBody platform body') (url : String)
    (headers : List (String × String)) (status : Int) :
    didWebDocument platform url (.ok { body := body, headers := headers, status := status }) =
      didWebDocument platform url
        (.ok { body := body', headers := headers, status := status }) := by
  simp only [didWebDocument, h]
  rfl

/-- A remote document depends on its body through what the body parses to. -/
theorem remoteDocument_congr {platform : Platform} {body body' : Option Json}
    (h : parseJsonBody platform body = parseJsonBody platform body') (url : String)
    (headers : List (String × String)) (status : Int) :
    remoteDocument platform url (.ok { body := body, headers := headers, status := status }) =
      remoteDocument platform url
        (.ok { body := body', headers := headers, status := status }) := by
  simp only [remoteDocument, h]
  rfl

/-- Parsing twice gives what parsing once does exactly if the JSON of the text is no string
to be parsed again. -/
theorem parseJsonBody_parseOnce_iff (service : BuiltinHttpGetService) (text : String) :
    parseJsonBody service.platform (some (service.parseOnce text)) =
        parseJsonBody service.platform (some (.str text)) ↔
      ∀ s, service.platform.parseJson text = some (.str s) →
        service.platform.parseJson s = some (.str s) := by
  unfold BuiltinHttpGetService.parseOnce
  cases htext : service.platform.parseJson text with
  | none => simp
  | some value =>
      cases value with
      | str s =>
          simp only [Option.getD_some, parseJsonBody, htext, Option.some.injEq, Json.str.injEq,
            forall_eq']
          cases hs : service.platform.parseJson s with
          | none => simp
          | some again => simp
      | null | bool | num | arr | obj => simp [parseJsonBody, htext]

/-- The document is the same for a text unless its JSON is a string that is not its own
JSON text. -/
theorem sameDocument_iff (service : BuiltinHttpGetService) (text : String) :
    SameDocument service text ↔
      ∀ s, service.platform.parseJson text = some (.str s) →
        service.platform.parseJson s = some (.str s) := by
  rw [← parseJsonBody_parseOnce_iff]
  constructor
  · intro h
    exact h.body
  · intro h
    exact ⟨h, didWebDocument_congr h, remoteDocument_congr h⟩

/-- A string is shorter than its JSON text: the text has the quotes, and no escape is shorter
than what it stands for. -/
def ShortensStrings (parseJson : String → Option Json) : Prop :=
  ∀ text s, parseJson text = some (.str s) → s.length < text.length

/-- Where strings are shorter than their texts, the document is the same exactly for the texts
that are not the JSON text of a string. -/
theorem sameDocument_iff_of_shortens {service : BuiltinHttpGetService}
    (h : ShortensStrings service.platform.parseJson) (text : String) :
    SameDocument service text ↔ ∀ s, service.platform.parseJson text ≠ some (.str s) := by
  rw [sameDocument_iff]
  constructor
  · intro hself s hs
    exact absurd (h s s (hself s hs)) (lt_irrefl _)
  · intro hnot s hs
    exact absurd hs (hnot s)

/-! ### Texts of strings -/

namespace QuotedText

/-- The runtime parses the text of a numeral in quotes, of the numeral and of a word in
quotes. -/
def service : BuiltinHttpGetService where
  platform := PlatformTable.platform
    { documents := [("\"5\"", .str "5"), ("5", .num ((5 : ℚ) : WithTop ℚ)),
        ("\"word\"", .str "word")] }
  parser := { parse := fun _ => none, resolve := fun _ _ => none }
  timeoutMs := defaultTimeoutMs
  maxBytes := defaultMaxBytes
  allowInsecure := false

end QuotedText

open QuotedText in
/-- A numeral in quotes is a number to one service and a string to the other; a word in
quotes is no JSON to one and a string to the other. -/
theorem not_sameDocument_quoted :
    (¬SameDocument service "\"5\"" ∧
      parseJsonBody service.platform (some (service.parseOnce "\"5\"")) =
        .ok (some (.num ((5 : ℚ) : WithTop ℚ))) ∧
      parseJsonBody service.platform (some (.str "\"5\"")) = .ok (some (.str "5"))) ∧
    ¬SameDocument service "\"word\"" ∧
      parseJsonBody service.platform (some (service.parseOnce "\"word\"")) =
        .error (errorWith "response is not JSON") ∧
      parseJsonBody service.platform (some (.str "\"word\"")) = .ok (some (.str "word")) := by
  have hnumber : parseJsonBody service.platform (some (service.parseOnce "\"5\"")) =
      .ok (some (.num ((5 : ℚ) : WithTop ℚ))) := rfl
  have hnumeral : parseJsonBody service.platform (some (.str "\"5\"")) =
      .ok (some (.str "5")) := rfl
  have hfailure : parseJsonBody service.platform (some (service.parseOnce "\"word\"")) =
      .error (errorWith "response is not JSON") := rfl
  have hword : parseJsonBody service.platform (some (.str "\"word\"")) =
      .ok (some (.str "word")) := rfl
  refine ⟨⟨?_, hnumber, hnumeral⟩, ?_, hfailure, hword⟩
  · intro h
    have hbody := h.body
    rw [hnumber, hnumeral] at hbody
    cases hbody
  · intro h
    have hbody := h.body
    rw [hfailure, hword] at hbody
    cases hbody

end VerifierCore
