import VerifierCore.DataIntegrityCrypto.Rejection

/-!
# Unreachable issuers

An HTTP error is reported as an unresolved issuer if the request was for the issuer's
DID document.  The request's URL is not compared with the document's; the issuer's id
is looked for in it, with slashes for its colons.  So a URL beside the document can be
taken for it, and a document on another port is not recognized.

Main results:

- Theorem {lit}`DidWeb.mentionedIn_iff_recognizes`: which URLs are taken for the document.
- Theorem {lit}`classifiedByDocument_iff`: the HTTP errors that are classified by whether
  the document was requested.
-/

namespace VerifierCore

/-! ## `did:web` issuers -/

/-- A port in a DID, behind an encoded colon. -/
structure DidWebPort where
  colon : String
  digits : String
  encoded : colon = "%3A" ∨ colon = "%3a"
  decimal : digits.toList.all isDigit = true

/-- The parts of a `did:web` DID.  They are separated by colons. -/
structure DidWeb where
  host : String
  port : Option DidWebPort
  path : List String
  host_plain : ':' ∉ host.toList
  path_plain : ∀ segment ∈ path, ':' ∉ segment.toList

namespace DidWeb

/-- The path segments, each behind a separator. -/
def segments (did : DidWeb) (separator : String) : String :=
  String.join (did.path.map fun segment => separator ++ segment)

/-- The DID itself. -/
def text (did : DidWeb) : String :=
  "did:web:" ++ did.host ++ did.port.elim "" (fun port => port.colon ++ port.digits) ++
    did.segments ":"

/-- The URL of the DID document: under the path, or under `.well-known` without one. -/
def documentUrl (did : DidWeb) : String :=
  "https://" ++ did.host ++ did.port.elim "" (fun port => ":" ++ port.digits) ++
    (if did.path = [] then "/.well-known" else did.segments "/") ++ "/did.json"

end DidWeb

/-! ## What the code looks for -/

/-- Characters other than the replaced one stay. -/
theorem replace_of_notMem {c : Char} {replacement text : List Char} (h : c ∉ text) :
    text.flatMap (fun d => if d = c then replacement else [d]) = text := by
  induction text with
  | nil => rfl
  | cons d text ih =>
      rw [List.mem_cons, not_or] at h
      rw [List.flatMap_cons, if_neg (Ne.symm h.1), ih h.2, List.singleton_append]

/-- Digits contain no other character. -/
theorem notMem_of_all_isDigit {c : Char} {digits : List Char} (hdigits : digits.all isDigit = true)
    (hc : isDigit c = false) : c ∉ digits := by
  intro hmem
  have hdigit := List.all_eq_true.mp hdigits c hmem
  rw [hc] at hdigit
  cases hdigit

namespace DidWeb

/-- The host and the port of the DID, as they stand in it. -/
def authority (did : DidWeb) : List Char :=
  did.host.toList ++ did.port.elim [] fun port => port.colon.toList ++ port.digits.toList

/-- The host and the port, as they stand in a URL. -/
def urlAuthority (did : DidWeb) : List Char :=
  did.host.toList ++ did.port.elim [] fun port => ':' :: port.digits.toList

/-- The path, each segment behind the separator. -/
theorem toList_segments (did : DidWeb) (separator : String) :
    (did.segments separator).toList =
      did.path.flatMap fun segment => separator.toList ++ segment.toList := by
  simp [segments, List.flatMap_map, String.toList_append]

/-- The DID is its authority behind the method, and its path. -/
theorem toList_text (did : DidWeb) :
    did.text.toList = "did:web:".toList ++ (did.authority ++ (did.segments ":").toList) := by
  cases hport : did.port with
  | none => simp [text, authority, hport]
  | some port => simp [text, authority, hport]

/-- The URL of the document, piece by piece. -/
theorem toList_documentUrl (did : DidWeb) :
    did.documentUrl.toList = "https://".toList ++ did.urlAuthority ++
      (if did.path = [] then "/.well-known".toList else (did.segments "/").toList) ++
        "/did.json".toList := by
  have hport : (did.port.elim "" fun port => ":" ++ port.digits).toList =
      did.port.elim [] fun port => ':' :: port.digits.toList := by
    cases did.port with
    | none => rfl
    | some port => simp
  rw [documentUrl, urlAuthority]
  simp only [String.toList_append, hport, apply_ite String.toList, List.append_assoc]

/-- An authority has no colon: that of a port is percent-encoded. -/
theorem colon_notMem_authority (did : DidWeb) : ':' ∉ did.authority := by
  rw [authority, List.mem_append, not_or]
  refine ⟨did.host_plain, ?_⟩
  cases did.port with
  | none => simp
  | some port =>
      have hdigits := notMem_of_all_isDigit port.decimal (by decide : isDigit ':' = false)
      rcases port.encoded with hcolon | hcolon
      · simp [hcolon, hdigits]
      · simp [hcolon, hdigits]

/-- The id behind the method, with slashes for the colons in it. -/
def slashed (did : DidWeb) : String :=
  String.ofList did.authority ++ did.segments "/"

/-- The pattern is the id in lower case. -/
theorem pattern_eq (platform : Platform) (did : DidWeb) :
    didWebToUrlPattern platform did.text = platform.toLowerCase did.slashed := by
  have hsegments : (did.segments ":").toList.flatMap
      (fun d => if d = ':' then ['/'] else [d]) = (did.segments "/").toList := by
    rw [toList_segments, toList_segments, List.flatMap_assoc]
    apply List.flatMap_congr
    intro segment hsegment
    rw [List.flatMap_append, replace_of_notMem (did.path_plain segment hsegment)]
    rfl
  have hslashed : replaceAll (sliceAfter did.text "did:web:") ':' "/" = did.slashed := by
    rw [← String.toList_inj, replaceAll, sliceAfter, String.toList_ofList, toList_text,
      List.drop_left, String.toList_ofList, String.toList_ofList, List.flatMap_append, hsegments,
      replace_of_notMem did.colon_notMem_authority, slashed, String.toList_append,
      String.toList_ofList]
  rw [didWebToUrlPattern, hslashed]

/-- What stands behind the id in the document's URL. -/
def file (did : DidWeb) : String :=
  if did.path = [] then ".well-known/did.json" else "did.json"

variable {platform : Platform} {did : DidWeb}

/-- A `did:web` DID is one in lower case, too. -/
theorem isDidWeb_text (hlower : platform.LowersCase) : isDidWeb platform did.text = true := by
  have hfront := hlower.ascii "did:web:" (String.ofList did.authority ++ did.segments ":")
    (by decide)
  have htext : "did:web:" ++ (String.ofList did.authority ++ did.segments ":") = did.text := by
    rw [← String.toList_inj, toList_text]
    simp only [String.toList_append, String.toList_ofList]
  rw [htext] at hfront
  exact List.isPrefixOf_iff_prefix.mpr hfront

/-- Without a port, the document's URL is the id between two slashes. -/
theorem documentUrl_eq (hport : did.port = none) :
    did.documentUrl = "https:/" ++ "/" ++ (did.slashed ++ "/" ++ did.file) := by
  rw [← String.toList_inj, toList_documentUrl, slashed, file, urlAuthority, authority, hport]
  by_cases hpath : did.path = []
  · simp [hpath, segments]
  · simp [hpath]

/-- The URL of a DID document holds the DID's pattern, both in lower case. -/
theorem pattern_infix_documentUrl (hlower : platform.LowersCase) (hport : did.port = none) :
    (didWebToUrlPattern platform did.text).toList <:+:
      (platform.toLowerCase did.documentUrl).toList := by
  rw [pattern_eq, documentUrl_eq hport, hlower.slash, hlower.slash]
  refine ⟨(platform.toLowerCase "https:/" ++ "/").toList,
    ("/" ++ platform.toLowerCase did.file).toList, ?_⟩
  simp only [String.toList_append, List.append_assoc]

/-- With a port it does not: the pattern has one more percent sign. -/
theorem not_pattern_infix_documentUrl (hlower : platform.LowersCase) {port : DidWebPort}
    (hport : did.port = some port) :
    ¬(didWebToUrlPattern platform did.text).toList <:+:
      (platform.toLowerCase did.documentUrl).toList := by
  intro hinfix
  have hcount := hinfix.sublist.count_le '%'
  have hcolon : port.colon.toList.count '%' = 1 := by
    rcases port.encoded with hcolon | hcolon
    · rw [hcolon]
      decide
    · rw [hcolon]
      decide
  have hpath : (if did.path = [] then "/.well-known".toList
      else (did.segments "/").toList).count '%' ≤ (did.segments "/").toList.count '%' := by
    by_cases hpath : did.path = []
    · rw [if_pos hpath]
      have hnone : "/.well-known".toList.count '%' = 0 := by decide
      omega
    · rw [if_neg hpath]
  have hscheme : "https://".toList.count '%' = 0 := by decide
  have hfile : "/did.json".toList.count '%' = 0 := by decide
  have hplain : [':'].count '%' = 0 := by decide
  rw [pattern_eq, hlower.percent, hlower.percent, toList_documentUrl, slashed,
    String.toList_append, String.toList_ofList, authority, urlAuthority, hport,
    Option.elim_some, Option.elim_some, ← List.singleton_append] at hcount
  simp only [List.count_append, hcolon, hscheme, hfile, hplain] at hcount
  omega

/-! ## What is taken for the document -/

/-- The URL has the issuer's id in it, in any case and with slashes for its colons. -/
def MentionedIn (platform : Platform) (did : DidWeb) (url : String) : Prop :=
  includes (platform.toLowerCase url) (didWebToUrlPattern platform did.text) = true

instance (platform : Platform) (did : DidWeb) (url : String) :
    Decidable (did.MentionedIn platform url) :=
  inferInstanceAs (Decidable (_ = true))

/-- A request for the document is recognized unless the issuer has a port, any other
one is mistaken for it where the id is mentioned. -/
def Recognizes (platform : Platform) (did : DidWeb) (url : String) : Prop :=
  if url = did.documentUrl then did.port = none else did.MentionedIn platform url

/-- The code's test for the id recognizes these requests. -/
theorem mentionedIn_iff_recognizes (hlower : platform.LowersCase) {url : String} :
    did.MentionedIn platform url ↔ did.Recognizes platform url := by
  by_cases hurl : url = did.documentUrl
  · subst hurl
    rw [Recognizes, if_pos rfl, MentionedIn, includes_iff]
    cases hport : did.port with
    | none => simpa using pattern_infix_documentUrl hlower hport
    | some port => simpa using not_pattern_infix_documentUrl hlower hport
  · rw [Recognizes, if_neg hurl]

end DidWeb

/-! ## The verdict on an HTTP error -/

/-- The verdict is one problem, of this type. -/
def ReportsOnly (verdict : Except Thrown (List ProblemDetail)) (type : String) : Prop :=
  ∃ problem, verdict = .ok [problem] ∧ problem.type = type

/-- An HTTP error among the sub-errors, itself or wrapped, and the URL of its request. -/
def HttpSubError (error httpError : JsValue) (url : String) : Prop :=
  isOfKind httpErrorKind httpError = true ∧ requestUrl httpError = .str url ∧
    ∃ e ∈ extractErrors error, httpError = e ∨ httpError = unwrapSubError e

/-- What the first HTTP error that is not wrapped states as its URL. -/
def firstRequestUrl (error : JsValue) : Option JsValue :=
  ((extractErrors error).find? (isOfKind httpErrorKind)).map requestUrl

/-- The verdict says that the issuer is unresolved if its document was requested, and
otherwise that an HTTP error occurred. -/
def ClassifiedByDocument (platform : Platform) (error : JsValue) (credential : Option Json)
    (now : ℚ) (did : DidWeb) (url : String) : Prop :=
  ReportsOnly (classifySignatureError platform error credential now)
    (if url = did.documentUrl then ProblemTypes.didWebUnresolved else ProblemTypes.httpError)

/-- A single problem decides what is reported. -/
theorem reportsOnly_singleton_iff {problem : ProblemDetail} {type : String} :
    ReportsOnly (.ok [problem]) type ↔ problem.type = type := by
  simp [ReportsOnly]

/-- A credential with an issuer is an object. -/
theorem truthy_of_credentialIssuerId {credential : Json} {issuer : String}
    (h : credentialIssuerId credential = some issuer) : credential.truthy = true := by
  cases credential with
  | obj | arr => rfl
  | null | bool | num | str => cases h

section

variable {platform : Platform} {did : DidWeb}

/-- The two problems are told apart by their types. -/
theorem didWebUnresolved_ne_httpError : ProblemTypes.didWebUnresolved ≠ ProblemTypes.httpError :=
  problemType_ne (by decide)

/-- An unresolved document is no fault of the proof. -/
theorem didWebUnresolved_notMem : ProblemTypes.didWebUnresolved ∉ proofFaultTypes := by
  rw [ProblemTypes.didWebUnresolved, proofFaultTypes,
    List.mem_map_of_injective problemType_injective]
  decide

/-- A failed request is no fault of the proof. -/
theorem httpError_notMem : ProblemTypes.httpError ∉ proofFaultTypes := by
  rw [ProblemTypes.httpError, proofFaultTypes, List.mem_map_of_injective problemType_injective]
  decide

/-- The issuer that is looked at is the DID. -/
theorem issuerDid_eq {credential : Json} (hissuer : credentialIssuerId credential = some did.text) :
    (((some credential).filter Json.truthy).bind credentialIssuerId).getD "" = did.text := by
  rw [Option.filter_some, if_pos (truthy_of_credentialIssuerId hissuer), Option.bind_some, hissuer,
    Option.getD_some]

/-- An HTTP error is reported as an unresolved issuer if its URL is taken for the document. -/
theorem reportsOnly_httpProblems (hlower : platform.LowersCase) {httpError : JsValue}
    {credential : Json} {url : String}
    (hissuer : credentialIssuerId credential = some did.text)
    (hurl : requestUrl httpError = .str url) :
    ReportsOnly (httpProblems platform httpError (some credential))
      (if did.MentionedIn platform url then ProblemTypes.didWebUnresolved else ProblemTypes.httpError) := by
  unfold httpProblems
  simp only [issuerDid_eq hissuer, DidWeb.isDidWeb_text hlower, hurl, if_true]
  by_cases hmentioned : did.MentionedIn platform url
  · rw [if_pos hmentioned, if_pos (show includes _ _ = true from hmentioned)]
    exact ⟨_, rfl, rfl⟩
  · rw [if_neg hmentioned, if_neg (show ¬includes _ _ = true from hmentioned)]
    exact ⟨_, rfl, rfl⟩

/-- A URL that is no text is not classified. -/
theorem httpProblems_of_not_text (hlower : platform.LowersCase) {httpError : JsValue}
    {credential : Json}
    (hissuer : credentialIssuerId credential = some did.text)
    (hurl : ∀ url, requestUrl httpError ≠ .str url) :
    httpProblems platform httpError (some credential) = .error notTextError := by
  unfold httpProblems
  simp only [issuerDid_eq hissuer, DidWeb.isDidWeb_text hlower, if_true]

/-- Problems of one type are of no other. -/
theorem ReportsOnly.type_unique {verdict : Except Thrown (List ProblemDetail)} {type type' : String}
    (h : ReportsOnly verdict type) : ReportsOnly verdict type' ↔ type' = type := by
  rcases h with ⟨problem, rfl, rfl⟩
  rw [reportsOnly_singleton_iff, eq_comm]

/-- What the first HTTP error requested is recognized for what it is.  Where all of them
are wrapped, a resolver says that the requested document is unresolved. -/
def DidWeb.RightlyClassified (platform : Platform) (did : DidWeb) (error : JsValue)
    (url : String) : Prop :=
  match firstRequestUrl error with
  | some (.str first) =>
      if url = did.documentUrl then did.Recognizes platform first
      else ¬did.Recognizes platform first
  | some _ => False
  | none => url = did.documentUrl ∧ isDidUnresolved (extractErrors error) = true

/-- Of an error that is no date rejection, the problems are classified. -/
theorem classifiedByDocument_of_not_dated {error : JsValue} {credential : Json} {now : ℚ}
    {url : String} (hlower : platform.LowersCase)
    (hdate : classifyDateRejection platform error = .ok none)
    (hjsonld : (extractErrors error).any (isOfKind jsonldValidationError) = false)
    (hissuer : credentialIssuerId credential = some did.text) :
    ClassifiedByDocument platform error (some credential) now did url ↔
      did.RightlyClassified platform error url := by
  have hclassified : classifySignatureError platform error (some credential) now =
      signatureProblems platform error (some credential) := by
    rw [classifySignatureError, hdate]
    rfl
  have hne := didWebUnresolved_ne_httpError
  rw [ClassifiedByDocument, hclassified, DidWeb.RightlyClassified, firstRequestUrl]
  rcases (signatureVerdict platform error (some credential)).type_cases with
    ⟨hfound, _⟩ | ⟨first, hfirst, hverdict⟩ |
      ⟨hnone, ⟨hunresolved, detail, hverdict⟩ | ⟨hresolved, problems, hverdict, hfaults⟩⟩
  · rw [hjsonld] at hfound
    cases hfound
  · rw [hverdict, hfirst, Option.map_some]
    cases hfirstUrl : requestUrl first with
    | str firstUrl =>
        rw [(reportsOnly_httpProblems hlower hissuer hfirstUrl).type_unique]
        dsimp only
        rw [← DidWeb.mentionedIn_iff_recognizes hlower]
        by_cases hurl : url = did.documentUrl
        · by_cases hmentioned : did.MentionedIn platform firstUrl
          · simp [hurl, hmentioned]
          · simp [hurl, hmentioned, hne]
        · by_cases hmentioned : did.MentionedIn platform firstUrl
          · simp [hurl, hmentioned, hne.symm]
          · simp [hurl, hmentioned]
    | undefined | null | bool | num | bigint | symbol | arr | obj =>
        rw [httpProblems_of_not_text hlower hissuer (by simp [hfirstUrl])]
        simp [ReportsOnly]
  · rw [hverdict, hnone, didUnresolvedProblems, reportsOnly_singleton_iff]
    by_cases hurl : url = did.documentUrl
    · simp [hurl, hunresolved]
    · simp [hurl, hne]
  · rw [hverdict, hnone, hresolved]
    simp only [Option.map_none, Bool.false_eq_true, and_false, iff_false]
    rintro ⟨problem, hproblems, htype⟩
    have hfault := hfaults.2 problem (by simp [Except.ok.inj hproblems])
    rw [htype] at hfault
    split_ifs at hfault
    · exact didWebUnresolved_notMem hfault
    · exact httpError_notMem hfault

/-- HTTP errors are classified by whether the document was requested exactly if the
error's message can be read and what the first of them requested is recognized for what
it is. -/
theorem classifiedByDocument_iff {error httpError : JsValue}
    {credential : Json} {now : ℚ} {url : String} (hlower : platform.LowersCase)
    (hdate : ¬IsDateRejection platform error)
    (hjsonld : (extractErrors error).any (isOfKind jsonldValidationError) = false)
    (hissuer : credentialIssuerId credential = some did.text)
    (_hhttp : HttpSubError error httpError url) :
    ClassifiedByDocument platform error (some credential) now did url ↔
      (classifyDateRejection platform error).isOk = true ∧
        did.RightlyClassified platform error url := by
  cases hclassified : classifyDateRejection platform error with
  | error thrown =>
      refine iff_of_false ?_ (fun h => Bool.false_ne_true h.1)
      rintro ⟨problem, hverdict, _⟩
      rw [classifySignatureError, hclassified] at hverdict
      cases hverdict
  | ok kind =>
      cases kind with
      | some kind => exact absurd ⟨kind, hclassified⟩ hdate
      | none =>
          rw [classifiedByDocument_of_not_dated hlower hclassified hjsonld hissuer]
          exact (and_iff_right rfl).symm

end

/-! ### A status list on the issuer's host -/

/-- A DID with a host only. -/
def exampleDid : DidWeb where
  host := "example.com"
  port := none
  path := []
  host_plain := by decide
  path_plain := by simp

/-- The error of a request of the URL. -/
def failedRequest (url : String) : JsValue :=
  .obj true [("name", .str "HTTPError"), ("message", .str "Request failed"),
    ("requestUrl", .str url)] (.ok "HTTPError: Request failed")

/-- A proof set that failed at one request. -/
def requestRejection (url : String) : JsValue :=
  .obj true [("name", .str "VerificationError"), ("message", .str "Verification error(s)."),
    ("errors", .arr [failedRequest url])] (.ok "VerificationError: Verification error(s).")

/-- A credential of the DID. -/
def exampleCredential : Json :=
  .obj [("issuer", .str "did:web:example.com")]

/-- The rejection has the request for its sub-error. -/
theorem httpSubError_requestRejection {url : String} (hurl : url ≠ "") :
    HttpSubError (requestRejection url) (failedRequest url) url := by
  have htruthy : ((failedRequest url).get "requestUrl").truthy = true := decide_eq_true hurl
  exact ⟨rfl, if_pos htruthy, failedRequest url, List.mem_singleton_self _, .inl rfl⟩

/-- A proof set's error is no date rejection. -/
theorem classifyDateRejection_requestRejection (platform : Platform) (url : String) :
    classifyDateRejection platform (requestRejection url) = .ok none :=
  rfl

/-- A failed request is no date rejection. -/
theorem not_isDateRejection_requestRejection (platform : Platform) (url : String) :
    ¬IsDateRejection platform (requestRejection url) := by
  rintro ⟨kind, hkind⟩
  rw [classifyDateRejection_requestRejection] at hkind
  cases hkind

/-- The issuer's document could not be fetched, and that is what is reported. -/
theorem classifiedByDocument_iff_example :
    ClassifiedByDocument (PlatformTable.platform {})
        (requestRejection "https://example.com/.well-known/did.json") (some exampleCredential) 0
        exampleDid "https://example.com/.well-known/did.json" ↔
      (classifyDateRejection (PlatformTable.platform {})
          (requestRejection "https://example.com/.well-known/did.json")).isOk = true ∧
        exampleDid.RightlyClassified (PlatformTable.platform {})
          (requestRejection "https://example.com/.well-known/did.json")
          "https://example.com/.well-known/did.json" :=
  classifiedByDocument_iff (PlatformTable.lowersCase {})
    (not_isDateRejection_requestRejection _ _) (by decide +kernel) (by decide +kernel)
    (httpSubError_requestRejection (by decide))

/-- A status list on the host of the issuer is taken for the issuer's document. -/
theorem not_classifiedByDocument_statusList :
    ¬∀ (platform : Platform) (error httpError : JsValue) (credential : Json) (now : ℚ)
      (did : DidWeb) (url : String), platform.LowersCase → ¬IsDateRejection platform error →
      (extractErrors error).any (isOfKind jsonldValidationError) = false →
      credentialIssuerId credential = some did.text → HttpSubError error httpError url →
      ClassifiedByDocument platform error (some credential) now did url := by
  intro hall
  have hlower := PlatformTable.lowersCase {}
  have hissuer : credentialIssuerId exampleCredential = some exampleDid.text := by decide +kernel
  have hother : "https://example.com/status/1" ≠ exampleDid.documentUrl := by decide +kernel
  have hhttp : HttpSubError (requestRejection "https://example.com/status/1")
      (failedRequest "https://example.com/status/1") "https://example.com/status/1" :=
    httpSubError_requestRejection (by decide)
  have hreports := hall (PlatformTable.platform {}) _ _ exampleCredential 0 exampleDid _
    hlower (not_isDateRejection_requestRejection _ _) (by decide +kernel) hissuer hhttp
  have hmentioned : exampleDid.MentionedIn (PlatformTable.platform {})
      "https://example.com/status/1" := by decide +kernel
  have hdocument : ReportsOnly (httpProblems (PlatformTable.platform {})
      (failedRequest "https://example.com/status/1") (some exampleCredential))
      ProblemTypes.didWebUnresolved := by
    have hmistaken := reportsOnly_httpProblems hlower hissuer hhttp.2.1
    rwa [if_pos hmentioned] at hmistaken
  rw [ClassifiedByDocument, if_neg hother] at hreports
  exact didWebUnresolved_ne_httpError (hdocument.type_unique.mp hreports).symm

end VerifierCore
