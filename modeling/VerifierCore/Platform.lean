import VerifierCore.Text

/-!
# The runtime platform

The parts of the JavaScript runtime and of third-party packages that the
verifier calls as pure functions: URL and date parsing, decoding, and the
verification of a signature under one key.  They are a parameter of the model,
so a theorem that assumes nothing about them holds for the real ones.

The one conversion that the runtime defines on JSON values themselves, string
coercion, is given here in full, because it can throw.

Main results:

- Theorem {lit}`coerceToString_isOk`: the values that can be coerced.
-/

namespace VerifierCore

/-- The signature algorithms the JWS verifier accepts. -/
inductive SupportedAlg where
  | ES256
  | EdDSA
deriving DecidableEq

/-- Pure functions of the runtime and of third-party packages. -/
structure Platform where
  /-- `new URL(value)` accepts the string. -/
  urlAccepts : String → Bool
  /-- `href` of the URL with the `sub` query parameter set; `none` if the URL
  does not parse. -/
  urlWithSub : String → String → Option String
  /-- The `dateRegex` of `@interop/vc` matches. -/
  dateRegexTest : String → Bool
  /-- The time value of a date string in milliseconds; `none` for `NaN`. -/
  parseDate : String → Option ℚ
  /-- `new Date(ms).toISOString()`. -/
  toISOString : ℚ → String
  /-- `String` of a number. -/
  numberToString : Num → String
  /-- `toLowerCase` of a text. -/
  toLowerCase : String → String
  /-- Unpadded base64url decoding; `none` when it throws. -/
  base64UrlDecode : String → Option (List UInt8)
  /-- Fatal UTF-8 decoding; `none` when it throws. -/
  utf8Decode : List UInt8 → Option String
  /-- `JSON.parse`; `none` when it throws. -/
  parseJson : String → Option Json
  /-- Whether a signature over a text verifies under one JSON web key; `none`
  when the key cannot be imported or verification throws. -/
  verifyWithJwk : SupportedAlg → Json → String → List UInt8 → Option Bool

/-- The error thrown when an object cannot be coerced to a primitive. -/
def coercionError : Thrown :=
  .obj [("message", .str "Cannot convert object to primitive value")]

namespace Platform

/-! ## Lower case -/

/-- What the default case conversion of Unicode says of some characters.  It is relied on
where a URL is compared without regard to case. -/
structure LowersCase (platform : Platform) : Prop where
  /-- A slash has no case and ends what a letter's context is made of, so the texts on
  either side of it are converted by themselves. -/
  slash : ∀ front rest, platform.toLowerCase (front ++ "/" ++ rest) =
    platform.toLowerCase front ++ "/" ++ platform.toLowerCase rest
  /-- ASCII text is converted letter by letter, whatever is behind it. -/
  ascii : ∀ front rest : String, front.toList.all (fun c => c.toNat < 128) = true →
    front.toList.map Char.toLower <+: (platform.toLowerCase (front ++ rest)).toList
  /-- A percent sign is the lower case of itself only. -/
  percent : ∀ text, (platform.toLowerCase text).toList.count '%' = text.toList.count '%'

/-! ## String coercion -/

mutual

/-- `String(value)`.  An object with an own `toString` member, which JSON can
only make a non-function, cannot be coerced. -/
def coerceToString (platform : Platform) : Json → Except Thrown String
  | .null => .ok "null"
  | .bool b => .ok (if b then "true" else "false")
  | .num n => .ok (platform.numberToString n)
  | .str s => .ok s
  | .arr items => platform.joinItems items
  | .obj members =>
      if (members.lookup "toString").isSome then .error coercionError
      else .ok "[object Object]"

/-- The items of an array joined by commas, `null` items left empty. -/
def joinItems (platform : Platform) : List Json → Except Thrown String
  | [] => .ok ""
  | item :: rest =>
      match platform.coerceItem item, platform.joinTail rest with
      | .ok first, .ok tail => .ok (first ++ tail)
      | .error e, _ => .error e
      | _, .error e => .error e

/-- The items after the first, each behind its comma. -/
def joinTail (platform : Platform) : List Json → Except Thrown String
  | [] => .ok ""
  | item :: rest =>
      match platform.coerceItem item, platform.joinTail rest with
      | .ok first, .ok tail => .ok ("," ++ first ++ tail)
      | .error e, _ => .error e
      | _, .error e => .error e

/-- One joined item. -/
def coerceItem (platform : Platform) : Json → Except Thrown String
  | .null => .ok ""
  | .bool b => .ok (if b then "true" else "false")
  | .num n => .ok (platform.numberToString n)
  | .str s => .ok s
  | .arr items => platform.joinItems items
  | .obj members =>
      if (members.lookup "toString").isSome then .error coercionError
      else .ok "[object Object]"

end

/-- `String(value)` of a value that may be missing. -/
def coerceValue (platform : Platform) : Option Json → Except Thrown String
  | none => .ok "undefined"
  | some value => platform.coerceToString value

mutual

/-- An object with a `toString` member of its own, where coercing the value would
ask for it: the value itself, or an item of an array. -/
def shadowsToString : Json → Bool
  | .arr items => anyShadowsToString items
  | .obj members => (members.lookup "toString").isSome
  | _ => false

/-- Such an object among the items of an array. -/
def anyShadowsToString : List Json → Bool
  | [] => false
  | item :: rest => shadowsToString item || anyShadowsToString rest

end

mutual

/-- A value can be coerced unless an object in it has a `toString` of its own. -/
theorem coerceToString_isOk (platform : Platform) : (value : Json) →
    (platform.coerceToString value).isOk = !shadowsToString value
  | .null | .bool _ | .num _ | .str _ => rfl
  | .arr items => by
      rw [coerceToString, shadowsToString]
      exact joinItems_isOk platform items
  | .obj members => by
      rw [coerceToString, shadowsToString]
      cases members.lookup "toString" <;> rfl

theorem joinItems_isOk (platform : Platform) : (items : List Json) →
    (platform.joinItems items).isOk = !anyShadowsToString items
  | [] => rfl
  | item :: rest => by
      have hitem := coerceItem_isOk platform item
      have hrest := joinTail_isOk platform rest
      rw [joinItems, anyShadowsToString, Bool.not_or, ← hitem, ← hrest]
      cases platform.coerceItem item <;> cases platform.joinTail rest <;> rfl

theorem joinTail_isOk (platform : Platform) : (items : List Json) →
    (platform.joinTail items).isOk = !anyShadowsToString items
  | [] => rfl
  | item :: rest => by
      have hitem := coerceItem_isOk platform item
      have hrest := joinTail_isOk platform rest
      rw [joinTail, anyShadowsToString, Bool.not_or, ← hitem, ← hrest]
      cases platform.coerceItem item <;> cases platform.joinTail rest <;> rfl

theorem coerceItem_isOk (platform : Platform) : (item : Json) →
    (platform.coerceItem item).isOk = !shadowsToString item
  | .null | .bool _ | .num _ | .str _ => rfl
  | .arr items => by
      rw [coerceItem, shadowsToString]
      exact joinItems_isOk platform items
  | .obj members => by
      rw [coerceItem, shadowsToString]
      cases members.lookup "toString" <;> rfl

end

/-- A string that `new URL()` accepts. -/
def isUrl (platform : Platform) : Option Json → Bool
  | some (.str s) => platform.urlAccepts s
  | _ => false

end Platform

/-! ## Platforms that know finitely many answers -/

/-- Finitely many answers of a runtime, to evaluate the model on concrete
inputs.  Everything not listed is rejected. -/
structure PlatformTable where
  urls : List String := []
  urlsWithSub : List ((String × String) × String) := []
  dates : List (String × ℚ) := []
  instants : List (ℚ × String) := []
  numbers : List (Num × String) := []
  segments : List (String × List UInt8) := []
  texts : List (List UInt8 × String) := []
  documents : List (String × Json) := []
  signatures : List (SupportedAlg × Json × String × List UInt8) := []

/-- The platform that answers as the table lists. -/
def PlatformTable.platform (table : PlatformTable) : Platform where
  urlAccepts value := value ∈ table.urls
  urlWithSub url sub := table.urlsWithSub.lookup (url, sub)
  dateRegexTest value := (table.dates.lookup value).isSome
  parseDate value := table.dates.lookup value
  toISOString ms := (table.instants.lookup ms).getD ""
  numberToString n := (table.numbers.lookup n).getD ""
  toLowerCase := lowerAscii
  base64UrlDecode segment := table.segments.lookup segment
  utf8Decode bytes := table.texts.lookup bytes
  parseJson text := table.documents.lookup text
  verifyWithJwk alg jwk text signature := some ((alg, jwk, text, signature) ∈ table.signatures)

/-- No other character than the percent sign is lowered to it. -/
theorem toLower_eq_percent_iff {c : Char} : c.toLower = '%' ↔ c = '%' := by
  constructor
  · intro h
    have hletter : c.isAlpha = false := by
      rw [← Char.isAlpha_toLower_eq_isAlpha, h]
      rfl
    have hupper : ¬c.isUpper = true := by
      intro hupper
      rw [Char.isAlpha, hupper, Bool.true_or] at hletter
      cases hletter
    rwa [Char.toLower_eq_of_not_isUpper hupper] at h
  · rintro rfl
    rfl

/-- On ASCII letters the table's platform converts as documented. -/
theorem PlatformTable.lowersCase (table : PlatformTable) : table.platform.LowersCase where
  slash front rest := by
    rw [← String.toList_inj]
    simp [PlatformTable.platform, toList_lowerAscii, String.toList_append]
  ascii front rest _ := by
    simp [PlatformTable.platform, toList_lowerAscii, String.toList_append]
  percent text := by
    simp only [PlatformTable.platform, toList_lowerAscii]
    induction text.toList with
    | nil => rfl
    | cons c rest ih =>
        rw [List.map_cons, List.count_cons, List.count_cons, ih]
        simp [toLower_eq_percent_iff]

end VerifierCore
