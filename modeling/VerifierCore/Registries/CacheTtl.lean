import VerifierCore.Platform
import VerifierCore.Text

/-!
# Cache lifetimes

How long fetched data may be cached: the `max-age` of its response, the validity
of a credential, or the default of an hour.

Main results:

- Theorem {lit}`resolveTtl_pos`: a resolved lifetime is positive.
- Theorem {lit}`resolveTtl_maxAge`: the lifetime that response headers resolve to.
- Theorem {lit}`findMaxAge_isSome`: a `max-age` at a word boundary is found, unless
  another one is in front of it.
-/

namespace VerifierCore

/-- The lifetime when no `Cache-Control` or credential validity applies: one hour. -/
def defaultTtlMs : ℚ :=
  60 * 60 * 1000

/-! ## Numbers of milliseconds -/

/-- Seconds as milliseconds. -/
def thousandfold (seconds : Num) : Num :=
  match seconds with
  | none => ⊥
  | some none => ⊤
  | some (some q) => numberOf (q * 1000)

/-- A number's value unless it is infinite. -/
def finite? (n : Num) : Option ℚ :=
  match n with
  | some (some q) => some q
  | _ => none

/-! ## Sources of a lifetime -/

/-- The digits of `max-age\s*=\s*(\d+)\b` matched at the front of a text, in
either case. -/
def matchMaxAge (text : List Char) : Option (List Char) :=
  if (text.take 7).map Char.toLower = "max-age".toList then
    match (text.drop 7).dropWhile isSpace with
    | '=' :: rest =>
        let value := rest.dropWhile isSpace
        let digits := value.takeWhile isDigit
        if digits ≠ [] ∧ ¬((value.dropWhile isDigit).head?.any isWordChar) then some digits
        else none
    | _ => none
  else none

/-- The digits of the first match that starts at a word boundary. -/
def findMaxAge (previous : Option Char) : List Char → Option (List Char)
  | [] => none
  | c :: rest =>
      match if previous.any isWordChar then none else matchMaxAge (c :: rest) with
      | some digits => some digits
      | none => findMaxAge (some c) rest

/-- The `max-age` of the response headers, in milliseconds. -/
def parseCacheControlMaxAge (headers : List (String × String)) : Option Num :=
  match headers.lookup "cache-control" with
  | none => none
  | some raw =>
      match findMaxAge none raw.toList with
      | none => none
      | some digits =>
          let seconds := numberOf (digitsValue digits)
          if (finite? seconds).isNone then none else some (thousandfold seconds)

example : parseCacheControlMaxAge [("cache-control", "public, Max-Age = 60")] =
    some (((60000 : ℚ) : WithTop ℚ) : Num) := by decide +kernel

/-- Milliseconds from `nowMs` until `validUntil`, if that is a date ahead. -/
def ttlFromValidUntil (platform : Platform) (validUntil : Option Json) (nowMs : ℚ) :
    Option Num :=
  match asString validUntil with
  | none => none
  | some text =>
      match platform.parseDate text with
      | none => none
      | some stop =>
          let delta := stop - nowMs
          if delta ≤ 0 then none else some ((delta : WithTop ℚ) : Num)

/-- The first positive finite lifetime among the sources, otherwise the default. -/
def resolveTtl : List (Option Num) → ℚ
  | [] => defaultTtlMs
  | source :: sources =>
      match source.bind finite? with
      | some ms => if 0 < ms then ms else resolveTtl sources
      | none => resolveTtl sources

theorem defaultTtlMs_pos : 0 < defaultTtlMs := by
  norm_num [defaultTtlMs]

theorem resolveTtl_pos (sources : List (Option Num)) : 0 < resolveTtl sources := by
  induction sources with
  | nil => exact defaultTtlMs_pos
  | cons source sources ih =>
      unfold resolveTtl
      split
      · split
        · assumption
        · exact ih
      · exact ih

theorem resolveTtl_cons_coe (ms : ℚ) (sources : List (Option Num)) :
    resolveTtl (some ((ms : WithTop ℚ) : Num) :: sources) =
      if 0 < ms then ms else resolveTtl sources :=
  rfl

/-! ## The first `max-age` of a response -/

/-- The seconds of the first `max-age` in the `Cache-Control` of the headers. -/
def firstMaxAge (headers : List (String × String)) : Option Nat :=
  (headers.lookup "cache-control").bind fun raw => (findMaxAge none raw.toList).map digitsValue

/-- As milliseconds, the number is positive and no overflow. -/
def UsableMaxAge (seconds : Nat) : Prop :=
  0 < seconds ∧ (seconds : ℚ) * 1000 < infinityThreshold

instance (seconds : Nat) : Decidable (UsableMaxAge seconds) :=
  inferInstanceAs (Decidable (_ ∧ _))

theorem parseCacheControlMaxAge_eq (headers : List (String × String)) :
    parseCacheControlMaxAge headers = (firstMaxAge headers).bind fun seconds =>
      if (seconds : ℚ) < infinityThreshold then some (numberOf (seconds * 1000)) else none := by
  unfold parseCacheControlMaxAge firstMaxAge
  cases headers.lookup "cache-control" with
  | none => rfl
  | some raw =>
      dsimp only [Option.bind_some]
      cases findMaxAge none raw.toList with
      | none => rfl
      | some digits =>
          have hnonneg : (0 : ℚ) ≤ digitsValue digits := Nat.cast_nonneg _
          by_cases hseconds : (digitsValue digits : ℚ) < infinityThreshold
          · simp [numberOf_of_lt hnonneg hseconds, hseconds, finite?, thousandfold]
          · simp [numberOf_of_le (not_lt.mp hseconds), hseconds, finite?]

/-- The headers resolve to their first `max-age` if that is usable, otherwise to the
default. -/
theorem resolveTtl_maxAge (headers : List (String × String)) :
    resolveTtl [parseCacheControlMaxAge headers] =
      match firstMaxAge headers with
      | some seconds => if UsableMaxAge seconds then seconds * 1000 else defaultTtlMs
      | none => defaultTtlMs := by
  rw [parseCacheControlMaxAge_eq]
  cases firstMaxAge headers with
  | none => rfl
  | some seconds =>
      have hnonneg : (0 : ℚ) ≤ seconds := Nat.cast_nonneg seconds
      dsimp only [Option.bind_some]
      by_cases hms : (seconds : ℚ) * 1000 < infinityThreshold
      · have hseconds : (seconds : ℚ) < infinityThreshold := by linarith
        rw [if_pos hseconds, numberOf_of_lt (by linarith) hms, resolveTtl_cons_coe]
        simp [UsableMaxAge, hms, resolveTtl]
      · rw [if_neg fun husable : UsableMaxAge seconds => hms husable.2]
        split_ifs
        · rw [numberOf_of_le (not_lt.mp hms)]
          rfl
        · rfl

/-! ## A `max-age` that is found -/

/-- The directive's name, an equals sign and digits match in front of anything that is
no word character and no digit. -/
theorem matchMaxAge_append {name digits back : List Char}
    (hname : name.map Char.toLower = "max-age".toList) (hne : digits ≠ [])
    (hdigits : digits.all isDigit = true) (hback : ∀ c ∈ back.head?, isWordChar c = false) :
    matchMaxAge (name ++ '=' :: digits ++ back) = some digits := by
  have hlength : name.length = 7 := by
    rw [← List.length_map Char.toLower, hname]
    rfl
  have hnotDigit : ∀ c ∈ back.head?, isDigit c = false := by
    intro c hc
    have hword := hback c hc
    simp only [isWordChar, Bool.or_eq_false_iff] at hword
    exact hword.1.1.1
  have hback_take : back.takeWhile isDigit = [] := by
    cases back with
    | nil => rfl
    | cons c back => simp [hnotDigit c rfl]
  have hback_drop : back.dropWhile isDigit = back := by
    cases back with
    | nil => rfl
    | cons c back => simp [hnotDigit c rfl]
  have hvalue : (digits ++ back).dropWhile isSpace = digits ++ back := by
    cases digits with
    | nil => exact absurd rfl hne
    | cons d digits =>
        rw [List.all_cons, Bool.and_eq_true] at hdigits
        rw [List.cons_append, List.dropWhile_cons, if_neg (by simp [isSpace_of_isDigit hdigits.1])]
  have hall : ∀ c ∈ digits, isDigit c = true := List.all_eq_true.mp hdigits
  have htake : (digits ++ back).takeWhile isDigit = digits := by
    rw [List.takeWhile_append_of_pos hall, hback_take, List.append_nil]
  have hdrop : (digits ++ back).dropWhile isDigit = back := by
    rw [List.dropWhile_append_of_pos hall, hback_drop]
  have hequals : isSpace '=' = false := by decide
  rw [List.append_assoc, List.cons_append, matchMaxAge, ← hlength, List.take_left, List.drop_left,
    if_pos hname, List.dropWhile_cons, hequals]
  simp only [Bool.false_eq_true, if_false, hvalue, htake, hdrop]
  rw [if_pos]
  refine ⟨hne, ?_⟩
  cases back with
  | nil => simp
  | cons c back => simp [hback c rfl]

/-- A text that matches at a word boundary is found, unless a match in front of it is. -/
theorem findMaxAge_isSome {previous : Option Char} {front text : List Char}
    (hboundary : (front.getLast?.or previous).any isWordChar = false)
    (hmatch : (matchMaxAge text).isSome = true) :
    (findMaxAge previous (front ++ text)).isSome = true := by
  induction front generalizing previous with
  | nil =>
      cases text with
      | nil => simp [matchMaxAge] at hmatch
      | cons c text =>
          rcases Option.isSome_iff_exists.mp hmatch with ⟨digits, hdigits⟩
          have hprevious : previous.any isWordChar = false := by simpa using hboundary
          simp [findMaxAge, hprevious, hdigits]
  | cons c front ih =>
      have hnext : (findMaxAge (some c) (front ++ text)).isSome = true := by
        apply ih
        cases hlast : front.getLast? with
        | none => simpa [List.getLast?_cons, hlast] using hboundary
        | some last => simpa [List.getLast?_cons, hlast] using hboundary
      rw [List.cons_append, findMaxAge]
      split
      · rfl
      · exact hnext

end VerifierCore
