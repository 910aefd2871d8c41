import VerifierCore.Platform
import VerifierCore.Text

/-!
# Compact JWS verification

Decoding and verifying a compact JWS against a JSON web key set.  Whether one key
verifies a signature is the platform's to say; which keys are tried, and what the
header must carry, is decided here.

Main results:

- Theorem {lit}`verifyJws_valid_iff`: the signed statements that verify.
- Theorem {lit}`jwtDecodePayload_of_verifyJws`: a verified payload is the one the
  token shows to anybody.
-/

namespace VerifierCore

/-! ## Decoding -/

/-- Decode one unpadded base64url segment as UTF-8 JSON. -/
def decodeBase64UrlJson (platform : Platform) (segment : String) : Option Json :=
  (platform.base64UrlDecode segment).bind fun bytes =>
    (platform.utf8Decode bytes).bind platform.parseJson

/-- The payload of a JWT, whoever signed it. -/
def jwtDecodePayload (platform : Platform) (jwt : String) : Option Json :=
  match split jwt '.' with
  | _ :: payload :: _ => decodeBase64UrlJson platform payload
  | _ => none

/-- The decoded segments of a compact JWS, with the two that are signed. -/
structure JwsParts where
  encodedHeader : String
  encodedPayload : String
  header : Json
  payload : Json
  signature : List UInt8
deriving DecidableEq

/-- Three non-empty segments that decode, the first two to objects. -/
def decodeJws (platform : Platform) (jws : String) : Option JwsParts :=
  match split jws '.' with
  | [encodedHeader, encodedPayload, encodedSignature] =>
      if encodedHeader = "" ∨ encodedPayload = "" ∨ encodedSignature = "" then none
      else
        match decodeBase64UrlJson platform encodedHeader,
            decodeBase64UrlJson platform encodedPayload,
            platform.base64UrlDecode encodedSignature with
        | some (.obj header), some (.obj payload), some signature =>
            some
              { encodedHeader := encodedHeader
                encodedPayload := encodedPayload
                header := .obj header
                payload := .obj payload
                signature := signature }
        | _, _, _ => none
  | _ => none

/-! ## Keys -/

/-- `a === b`.  Two objects are never the same one. -/
def strictEquals : Option Json → Option Json → Bool
  | some (.arr _), _ => false
  | some (.obj _), _ => false
  | a, b => a = b

/-- The keys of a JWK set. -/
def jwkSetKeys (jwks : Option Json) : Option (List Json) :=
  match jwks with
  | some (.obj members) =>
      match (Json.obj members).get? "keys" with
      | some (.arr keys) => some (keys.filter fun key => isPlainObject (some key))
      | _ => none
  | _ => none

/-- A key is of the kind that the algorithm takes. -/
def isCompatible (jwk : Json) : SupportedAlg → Bool
  | .ES256 => jwk.get? "kty" = some (.str "EC") && jwk.get? "crv" = some (.str "P-256")
  | .EdDSA => jwk.get? "kty" = some (.str "OKP") && jwk.get? "crv" = some (.str "Ed25519")

/-- The public members a key is imported with.  An `x` that cannot be coerced to
a string throws. -/
def publicMembers (platform : Platform) (jwk : Json) : SupportedAlg → Except Thrown Json
  | .ES256 =>
      .ok (.obj ((["kty", "crv", "x", "y"].filterMap fun name =>
        (jwk.get? name).map fun value => (name, value)) ++ [("key_ops", .arr [.str "verify"])]))
  | .EdDSA => do
      let x ← platform.coerceValue (jwk.get? "x")
      .ok (.obj [("kty", .str "OKP"), ("crv", .str "Ed25519"), ("x", .str x)])

/-- Whether one key verifies the signature; a key that cannot be imported does
not. -/
def verifyWithJwk (platform : Platform) (alg : SupportedAlg) (jwk : Json) (data : String)
    (signature : List UInt8) : Bool :=
  match publicMembers platform jwk alg with
  | .error _ => false
  | .ok key => platform.verifyWithJwk alg key data signature = some true

/-- The keys that are tried: those the header's `kid` names, or else every
compatible one. -/
def candidateKeys (keys : List Json) (alg : SupportedAlg) (header : Json) : List Json :=
  let compatible := keys.filter fun key => isCompatible key alg
  let byKid := compatible.filter fun key => strictEquals (key.get? "kid") (header.get? "kid")
  if byKid.length > 0 then byKid else compatible

/-! ## Verification -/

/-- Outcome of `verifyJws`: the verified payload, or why it failed. -/
inductive JwsResult where
  | valid (payload : Json)
  | invalid (reason : String)
deriving DecidableEq

/-- The supported algorithm a header names. -/
def supportedAlg (header : Json) : Option SupportedAlg :=
  match header.get? "alg" with
  | some (.str "ES256") => some .ES256
  | some (.str "EdDSA") => some .EdDSA
  | _ => none

/-- The text the signature is over. -/
def JwsParts.signedText (parts : JwsParts) : String :=
  parts.encodedHeader ++ "." ++ parts.encodedPayload

/-- Verify a compact JWS against a JWK set.  Without a `typ` the header's is not
checked. -/
def verifyJws (platform : Platform) (jws : String) (jwks : Option Json) (typ : Option String) :
    JwsResult :=
  match decodeJws platform jws with
  | none => .invalid "malformed JWS"
  | some parts =>
      if (parts.header.get? "crit").isSome then .invalid "unsupported crit"
      else if typ.isSome ∧ parts.header.get? "typ" ≠ typ.map Json.str then
        .invalid "unexpected typ"
      else
        match supportedAlg parts.header with
        | none => .invalid "unsupported alg"
        | some alg =>
            match jwkSetKeys jwks with
            | none => .invalid "no JWK Set"
            | some keys =>
                if (candidateKeys keys alg parts.header).any fun jwk =>
                    verifyWithJwk platform alg jwk parts.signedText parts.signature then
                  .valid parts.payload
                else .invalid "signature did not verify"

/-! ## What verifies -/

/-- The token is a statement signed under a key of the set: its header has no
critical extension and the required `typ`, and the signature verifies under one
of the keys to be tried. -/
def SignedUnder (platform : Platform) (jwks : Option Json) (typ : Option String) (jws : String)
    (payload : Json) : Prop :=
  ∃ parts alg keys key, decodeJws platform jws = some parts ∧ parts.payload = payload ∧
    parts.header.get? "crit" = none ∧
    (∀ required, typ = some required → parts.header.get? "typ" = some (.str required)) ∧
    supportedAlg parts.header = some alg ∧ jwkSetKeys jwks = some keys ∧
    key ∈ candidateKeys keys alg parts.header ∧
    verifyWithJwk platform alg key parts.signedText parts.signature = true

/-- Verification succeeds exactly on the statements signed under the set. -/
theorem verifyJws_valid_iff {platform : Platform} {jws : String} {jwks : Option Json}
    {typ : Option String} {payload : Json} :
    verifyJws platform jws jwks typ = .valid payload ↔
      SignedUnder platform jwks typ jws payload := by
  unfold verifyJws SignedUnder
  cases hparts : decodeJws platform jws with
  | none => simp
  | some parts =>
      have htyp : (¬(typ.isSome ∧ parts.header.get? "typ" ≠ typ.map Json.str)) ↔
          ∀ required, typ = some required →
            parts.header.get? "typ" = some (.str required) := by
        cases typ <;> simp
      dsimp only
      cases hcrit : parts.header.get? "crit" with
      | some value =>
          simp only [Option.isSome_some, if_true, reduceCtorEq, false_iff]
          intro h
          rcases h with ⟨parts', alg, keys, key, hparts', _, hnone, _⟩
          cases hparts'
          rw [hcrit] at hnone
          cases hnone
      | none =>
          rw [Option.isSome_none, if_neg (by simp)]
          split
          · rename_i hbad
            simp only [reduceCtorEq, false_iff]
            intro h
            rcases h with ⟨parts', alg, keys, key, hparts', _, _, hrequired, _⟩
            cases hparts'
            exact htyp.mpr hrequired hbad
          · rename_i hgood
            cases halg : supportedAlg parts.header with
            | none => simp [halg]
            | some alg =>
                cases hkeys : jwkSetKeys jwks with
                | none => simp
                | some keys =>
                    dsimp only
                    split
                    · rename_i hany
                      rcases List.any_eq_true.mp hany with ⟨key, hkey, hverified⟩
                      simp only [JwsResult.valid.injEq]
                      constructor
                      · intro hpayload
                        exact ⟨parts, alg, keys, key, rfl, hpayload, hcrit, htyp.mp hgood, halg,
                          rfl, hkey, hverified⟩
                      · intro h
                        rcases h with ⟨parts', _, _, _, hparts', hpayload, _⟩
                        cases hparts'
                        exact hpayload
                    · rename_i hnone
                      simp only [reduceCtorEq, false_iff]
                      intro h
                      rcases h with
                        ⟨parts', alg', keys', key, hparts', _, _, _, halg', hkeys', hkey, hverified⟩
                      cases hparts'
                      rw [halg] at halg'
                      cases halg'
                      cases hkeys'
                      exact hnone (List.any_eq_true.mpr ⟨key, hkey, hverified⟩)

theorem jwtDecodePayload_of_decodeJws {platform : Platform} {jws : String} {parts : JwsParts}
    (h : decodeJws platform jws = some parts) :
    jwtDecodePayload platform jws = some parts.payload := by
  unfold decodeJws at h
  split at h
  · rename_i encodedHeader encodedPayload encodedSignature hsplit
    split at h
    · cases h
    · split at h
      · rename_i header payload signature _ hpayload _
        cases h
        simp [jwtDecodePayload, hsplit, hpayload]
      · cases h
  · cases h

/-- The payload of a verified token is the one it decodes to unverified. -/
theorem jwtDecodePayload_of_verifyJws {platform : Platform} {jws : String} {jwks : Option Json}
    {typ : Option String} {payload : Json}
    (h : verifyJws platform jws jwks typ = .valid payload) :
    jwtDecodePayload platform jws = some payload := by
  rcases verifyJws_valid_iff.mp h with ⟨parts, _, _, _, hparts, rfl, _⟩
  exact jwtDecodePayload_of_decodeJws hparts

/-! ## Keys that name a `kid` and keys that do not -/

/-- A compatible key of the set. -/
def CompatibleKey (keys : List Json) (alg : SupportedAlg) (key : Json) : Prop :=
  key ∈ keys ∧ isCompatible key alg = true

/-- The key has the `kid` that the header carries. -/
def NamedBy (header key : Json) : Prop :=
  (header.get? "kid").isSome ∧ strictEquals (key.get? "kid") (header.get? "kid") = true

/-- The keys a token is to be tried under: the compatible keys with the header's
`kid` where the header carries one that some compatible key has, and otherwise
every compatible key. -/
def IsCandidate (keys : List Json) (alg : SupportedAlg) (header key : Json) : Prop :=
  CompatibleKey keys alg key ∧
    ((∃ named, CompatibleKey keys alg named ∧ NamedBy header named) → NamedBy header key)

/-- What a token passes before any key is tried: three non-empty segments that
decode, a header and a payload that are objects, no critical extension, the
required `typ`, a supported algorithm, and a set of keys. -/
structure ReadyForKeys (platform : Platform) (jws : String) (jwks : Option Json)
    (typ : Option String) (parts : JwsParts) (alg : SupportedAlg) (keys : List Json) : Prop where
  decoded : ∃ encodedSignature header payload,
    split jws '.' = [parts.encodedHeader, parts.encodedPayload, encodedSignature] ∧
    parts.encodedHeader ≠ "" ∧ parts.encodedPayload ≠ "" ∧ encodedSignature ≠ "" ∧
    decodeBase64UrlJson platform parts.encodedHeader = some (.obj header) ∧
    decodeBase64UrlJson platform parts.encodedPayload = some (.obj payload) ∧
    platform.base64UrlDecode encodedSignature = some parts.signature ∧
    parts.header = .obj header ∧ parts.payload = .obj payload
  uncritical : parts.header.get? "crit" = none
  typed : ∀ required, typ = some required → parts.header.get? "typ" = some (.str required)
  supported : supportedAlg parts.header = some alg
  keySet : jwkSetKeys jwks = some keys

/-- The token is ready for its keys, and its signature verifies under one of the
keys it is to be tried under. -/
def VerifiesUnderCandidate (platform : Platform) (jws : String) (jwks : Option Json)
    (typ : Option String) (payload : Json) : Prop :=
  ∃ parts alg keys key, ReadyForKeys platform jws jwks typ parts alg keys ∧
    parts.payload = payload ∧ IsCandidate keys alg parts.header key ∧
    verifyWithJwk platform alg key parts.signedText parts.signature = true

/-- The header names no key, and the keys without a `kid` stand in front of the
key that signed: there are some, and the signature verifies under none of them,
but it does under a key that has a `kid`. -/
def UnnamedKeysShadow (platform : Platform) (jws : String) (jwks : Option Json)
    (typ : Option String) : Prop :=
  ∃ parts alg keys, ReadyForKeys platform jws jwks typ parts alg keys ∧
    parts.header.get? "kid" = none ∧
    (∃ unnamed, CompatibleKey keys alg unnamed ∧ unnamed.get? "kid" = none) ∧
    (∀ unnamed, CompatibleKey keys alg unnamed → unnamed.get? "kid" = none →
      verifyWithJwk platform alg unnamed parts.signedText parts.signature = false) ∧
    ∃ key, CompatibleKey keys alg key ∧
      verifyWithJwk platform alg key parts.signedText parts.signature = true

theorem decodeJws_eq_some_iff {platform : Platform} {jws : String} {parts : JwsParts} :
    decodeJws platform jws = some parts ↔ ∃ encodedSignature header payload,
      split jws '.' = [parts.encodedHeader, parts.encodedPayload, encodedSignature] ∧
      parts.encodedHeader ≠ "" ∧ parts.encodedPayload ≠ "" ∧ encodedSignature ≠ "" ∧
      decodeBase64UrlJson platform parts.encodedHeader = some (.obj header) ∧
      decodeBase64UrlJson platform parts.encodedPayload = some (.obj payload) ∧
      platform.base64UrlDecode encodedSignature = some parts.signature ∧
      parts.header = .obj header ∧ parts.payload = .obj payload := by
  constructor
  · intro h
    unfold decodeJws at h
    split at h
    · rename_i encodedHeader encodedPayload encodedSignature hsplit
      split at h
      · cases h
      · rename_i hempty
        push Not at hempty
        split at h
        · rename_i header payload signature hheader hpayload hsignature
          cases h
          exact ⟨encodedSignature, header, payload, hsplit, hempty.1, hempty.2.1, hempty.2.2,
            hheader, hpayload, hsignature, rfl, rfl⟩
        · cases h
    · cases h
  · intro h
    obtain ⟨encodedHeader, encodedPayload, header', payload', signature⟩ := parts
    rcases h with ⟨encodedSignature, header, payload, hsplit, hheader, hpayload, hsignature,
      hdecodedHeader, hdecodedPayload, hdecoded, rfl, rfl⟩
    dsimp only at hsplit hheader hpayload hdecodedHeader hdecodedPayload hdecoded
    simp [decodeJws, hsplit, hheader, hpayload, hsignature, hdecodedHeader, hdecodedPayload,
      hdecoded]

/-- A token verifies exactly when it is ready for its keys and one that is tried
verifies its signature. -/
theorem verifyJws_valid_iff_ready {platform : Platform} {jws : String} {jwks : Option Json}
    {typ : Option String} {payload : Json} :
    verifyJws platform jws jwks typ = .valid payload ↔ ∃ parts alg keys key,
      ReadyForKeys platform jws jwks typ parts alg keys ∧ parts.payload = payload ∧
      key ∈ candidateKeys keys alg parts.header ∧
      verifyWithJwk platform alg key parts.signedText parts.signature = true := by
  rw [verifyJws_valid_iff]
  constructor
  · rintro ⟨parts, alg, keys, key, hparts, hpayload, hcrit, htyp, halg, hkeys, hkey, hverified⟩
    exact ⟨parts, alg, keys, key, ⟨decodeJws_eq_some_iff.mp hparts, hcrit, htyp, halg, hkeys⟩,
      hpayload, hkey, hverified⟩
  · rintro ⟨parts, alg, keys, key, hready, hpayload, hkey, hverified⟩
    exact ⟨parts, alg, keys, key, decodeJws_eq_some_iff.mpr hready.decoded, hpayload,
      hready.uncritical, hready.typed, hready.supported, hready.keySet, hkey, hverified⟩

/-- A token is ready for its keys in one way only. -/
theorem ReadyForKeys.unique {platform : Platform} {jws : String} {jwks : Option Json}
    {typ : Option String} {parts parts' : JwsParts} {alg alg' : SupportedAlg}
    {keys keys' : List Json} (h : ReadyForKeys platform jws jwks typ parts alg keys)
    (h' : ReadyForKeys platform jws jwks typ parts' alg' keys') :
    parts = parts' ∧ alg = alg' ∧ keys = keys' := by
  have hparts : parts = parts' := Option.some.inj
    ((decodeJws_eq_some_iff.mpr h.decoded).symm.trans (decodeJws_eq_some_iff.mpr h'.decoded))
  subst hparts
  exact ⟨rfl, Option.some.inj (h.supported.symm.trans h'.supported),
    Option.some.inj (h.keySet.symm.trans h'.keySet)⟩

/-- The keys tried: those whose `kid` is strictly the header's, two missing ones
included, where there are any. -/
theorem mem_candidateKeys_iff {keys : List Json} {alg : SupportedAlg} {header key : Json} :
    key ∈ candidateKeys keys alg header ↔ CompatibleKey keys alg key ∧
      ((∃ named, CompatibleKey keys alg named ∧
          strictEquals (named.get? "kid") (header.get? "kid") = true) →
        strictEquals (key.get? "kid") (header.get? "kid") = true) := by
  unfold candidateKeys CompatibleKey
  dsimp only
  split
  · rename_i hlength
    rcases List.exists_mem_of_length_pos hlength with ⟨named, hnamed⟩
    simp only [List.mem_filter] at hnamed ⊢
    constructor
    · rintro ⟨hcompatible, hkid⟩
      exact ⟨hcompatible, fun _ => hkid⟩
    · rintro ⟨hcompatible, hkid⟩
      exact ⟨hcompatible, hkid ⟨named, hnamed⟩⟩
  · rename_i hlength
    have hnil := List.eq_nil_of_length_eq_zero (Nat.eq_zero_of_not_pos hlength)
    simp only [List.filter_eq_nil_iff, List.mem_filter] at hnil ⊢
    constructor
    · intro hcompatible
      refine ⟨hcompatible, ?_⟩
      rintro ⟨named, hnamed, hkid⟩
      exact absurd hkid (hnil named hnamed)
    · exact fun h => h.1

/-- With a `kid` in the header the keys tried are the candidates. -/
theorem mem_candidateKeys_iff_of_kid {keys : List Json} {alg : SupportedAlg} {header key : Json}
    (hkid : (header.get? "kid").isSome) :
    key ∈ candidateKeys keys alg header ↔ IsCandidate keys alg header key := by
  rw [mem_candidateKeys_iff]
  simp [IsCandidate, NamedBy, hkid]

theorem strictEquals_none_right {value : Option Json} :
    strictEquals value none = true ↔ value = none := by
  unfold strictEquals
  split <;> simp_all

/-- Without one every compatible key is a candidate. -/
theorem isCandidate_iff_of_no_kid {keys : List Json} {alg : SupportedAlg} {header key : Json}
    (hkid : header.get? "kid" = none) :
    IsCandidate keys alg header key ↔ CompatibleKey keys alg key := by
  simp [IsCandidate, NamedBy, hkid]

/-- Without one the keys tried are those that have none either, where there are
any. -/
theorem mem_candidateKeys_iff_of_no_kid {keys : List Json} {alg : SupportedAlg}
    {header key : Json} (hkid : header.get? "kid" = none) :
    key ∈ candidateKeys keys alg header ↔ CompatibleKey keys alg key ∧
      ((∃ unnamed, CompatibleKey keys alg unnamed ∧ unnamed.get? "kid" = none) →
        key.get? "kid" = none) := by
  rw [mem_candidateKeys_iff, hkid]
  simp only [strictEquals_none_right]

/-- A key that is tried is a candidate, whatever the header carries. -/
theorem isCandidate_of_mem_candidateKeys {keys : List Json} {alg : SupportedAlg}
    {header key : Json} (h : key ∈ candidateKeys keys alg header) :
    IsCandidate keys alg header key := by
  cases hkid : header.get? "kid" with
  | none =>
      rw [isCandidate_iff_of_no_kid hkid]
      exact (mem_candidateKeys_iff_of_no_kid hkid |>.mp h).1
  | some kid => exact (mem_candidateKeys_iff_of_kid (by simp [hkid])).mp h

/-- A token verifies under its candidates, and under no other key, exactly where
the keys without a `kid` do not shadow the one that signed it. -/
theorem verifyJws_valid_iff_candidate (platform : Platform) (jws : String) (jwks : Option Json)
    (typ : Option String) :
    (∀ payload, verifyJws platform jws jwks typ = .valid payload ↔
        VerifiesUnderCandidate platform jws jwks typ payload) ↔
      ¬UnnamedKeysShadow platform jws jwks typ := by
  constructor
  · rintro hiff ⟨parts, alg, keys, hready, hkid, hunnamed, hfails, key, hkey, hverified⟩
    have hcandidate : VerifiesUnderCandidate platform jws jwks typ parts.payload :=
      ⟨parts, alg, keys, key, hready, rfl, (isCandidate_iff_of_no_kid hkid).mpr hkey, hverified⟩
    have hvalid := verifyJws_valid_iff_ready.mp ((hiff parts.payload).mpr hcandidate)
    rcases hvalid with ⟨parts', alg', keys', key', hready', _, htried, hverified'⟩
    obtain ⟨rfl, rfl, rfl⟩ := hready.unique hready'
    rw [mem_candidateKeys_iff_of_no_kid hkid] at htried
    -- The key that verified has no `kid`, and none of those verifies.
    rw [hfails key' htried.1 (htried.2 hunnamed)] at hverified'
    cases hverified'
  · intro hshadow payload
    rw [verifyJws_valid_iff_ready]
    constructor
    · rintro ⟨parts, alg, keys, key, hready, hpayload, htried, hverified⟩
      exact ⟨parts, alg, keys, key, hready, hpayload,
        isCandidate_of_mem_candidateKeys htried, hverified⟩
    · rintro ⟨parts, alg, keys, key, hready, hpayload, hcandidate, hverified⟩
      cases hkid : parts.header.get? "kid" with
      | some kid =>
          exact ⟨parts, alg, keys, key, hready, hpayload,
            (mem_candidateKeys_iff_of_kid (by simp [hkid])).mpr hcandidate, hverified⟩
      | none =>
          -- Either a key without a `kid` verifies, or there is no such key to stand in front.
          rw [isCandidate_iff_of_no_kid hkid] at hcandidate
          by_cases hsome : ∃ unnamed, CompatibleKey keys alg unnamed ∧
              unnamed.get? "kid" = none ∧
              verifyWithJwk platform alg unnamed parts.signedText parts.signature = true
          · rcases hsome with ⟨unnamed, hunnamed, hnone, hunnamedVerified⟩
            exact ⟨parts, alg, keys, unnamed, hready, hpayload,
              (mem_candidateKeys_iff_of_no_kid hkid).mpr ⟨hunnamed, fun _ => hnone⟩,
              hunnamedVerified⟩
          · refine ⟨parts, alg, keys, key, hready, hpayload,
              (mem_candidateKeys_iff_of_no_kid hkid).mpr ⟨hcandidate, fun hunnamed => ?_⟩,
              hverified⟩
            refine absurd ⟨parts, alg, keys, hready, hkid, hunnamed, ?_, key, hcandidate,
              hverified⟩ hshadow
            intro unnamed hunnamed hnone
            by_contra hverifies
            exact hsome ⟨unnamed, hunnamed, hnone, by simpa using hverifies⟩

/-! ### A token without a `kid` -/

namespace UnnamedKey

/-- A P-256 key, with the `kid` if one is given. -/
def key (x : String) (kid : Option String) : Json :=
  .obj ([("kty", .str "EC"), ("crv", .str "P-256"), ("x", .str x), ("y", .str "AQ")] ++
    kid.toList.map fun kid => ("kid", .str kid))

/-- A set whose first key has no `kid`. -/
def keys : Json :=
  .obj [("keys", .arr [key "AA" none, key "AQ" (some "current")])]

/-- The header is `a`, the payload `b`, and the second key signed them. -/
def platform : Platform :=
  PlatformTable.platform
    { segments := [("a", [0]), ("b", [1]), ("c", [2])]
      texts := [([0], "header"), ([1], "payload")]
      documents := [("header", .obj [("alg", .str "ES256")]), ("payload", .obj [])]
      signatures := [(.ES256, .obj [("kty", .str "EC"), ("crv", .str "P-256"), ("x", .str "AQ"),
        ("y", .str "AQ"), ("key_ops", .arr [.str "verify"])], "a.b", [2])] }

end UnnamedKey

/-- Without a `kid` in its header, a token signed with a key that has one is
refused as soon as some other key of the set has none. -/
theorem unnamedKey_refuses_candidate :
    ¬∀ (platform : Platform) (jws : String) (jwks : Option Json) (typ : Option String)
      (payload : Json), verifyJws platform jws jwks typ = .valid payload ↔
        VerifiesUnderCandidate platform jws jwks typ payload := by
  intro hall
  have hrefused : verifyJws UnnamedKey.platform "a.b.c" (some UnnamedKey.keys) none =
      .invalid "signature did not verify" := by
    decide
  have hcandidate : VerifiesUnderCandidate UnnamedKey.platform "a.b.c" (some UnnamedKey.keys)
      none (.obj []) := by
    refine ⟨⟨"a", "b", .obj [("alg", .str "ES256")], .obj [], [2]⟩, .ES256,
      [UnnamedKey.key "AA" none, UnnamedKey.key "AQ" (some "current")],
      UnnamedKey.key "AQ" (some "current"), ?_, rfl, ?_, by decide⟩
    · exact
        { decoded := ⟨"c", _, _, by decide, by decide, by decide, by decide, by decide,
            by decide, by decide, rfl, rfl⟩
          uncritical := by decide
          typed := by simp
          supported := by decide
          keySet := by decide }
    · rw [isCandidate_iff_of_no_kid (by decide)]
      exact ⟨by decide, by decide⟩
  have hvalid := (hall _ _ _ _ _).mpr hcandidate
  rw [hrefused] at hvalid
  cases hvalid

end VerifierCore
