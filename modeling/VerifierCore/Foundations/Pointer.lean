import Mathlib.Data.List.Basic

/-!
# Pointers into a document

The pointer syntax of RFC 6901 on characters, and what a pointer refers to in any kind of
document whose values have named children.

Main results:

- Theorem {lit}`decodePointer_encodePointer`: a pointer is read back as its tokens.
- Theorem {lit}`resolve_append`: a pointer is followed token by token.
-/

namespace Foundations

/-! ## Syntax -/

/-- A token with `~` and `/` escaped. -/
def escapeToken (token : List Char) : List Char :=
  token.flatMap fun c => if c = '~' then ['~', '0'] else if c = '/' then ['~', '1'] else [c]

/-- The token behind its escapes; a `~` without `0` or `1` behind it is malformed. -/
def unescapeToken : List Char → Option (List Char)
  | [] => some []
  | '~' :: '0' :: rest => (unescapeToken rest).map ('~' :: ·)
  | '~' :: '1' :: rest => (unescapeToken rest).map ('/' :: ·)
  | '~' :: _ => none
  | c :: rest => (unescapeToken rest).map (c :: ·)

/-- Every token stands behind a slash. -/
def encodePointer (tokens : List (List Char)) : List Char :=
  tokens.flatMap fun token => '/' :: escapeToken token

/-- The tokens of a pointer.  The empty pointer is the whole document. -/
def decodePointer : List Char → Option (List (List Char))
  | [] => some []
  | '/' :: rest => (rest.splitOn '/').mapM unescapeToken
  | _ => none

theorem unescapeToken_cons {c : Char} (hc : c ≠ '~') (rest : List Char) :
    unescapeToken (c :: rest) = (unescapeToken rest).map (c :: ·) := by
  rw [unescapeToken]
  · intro back heq
    exact absurd heq hc
  · intro back heq
    exact absurd heq hc
  · exact hc

/-- An escaped token unescapes to itself. -/
theorem unescapeToken_escapeToken (token : List Char) :
    unescapeToken (escapeToken token) = some token := by
  induction token with
  | nil => rfl
  | cons c token ih =>
      by_cases htilde : c = '~'
      · subst htilde
        exact congrArg (Option.map ('~' :: ·)) ih
      · by_cases hslash : c = '/'
        · subst hslash
          exact congrArg (Option.map ('/' :: ·)) ih
        · have hplain : escapeToken (c :: token) = c :: escapeToken token := by
            simp [escapeToken, htilde, hslash]
          rw [hplain, unescapeToken_cons htilde, ih]
          rfl

/-- Escaped tokens unescape to themselves. -/
theorem mapM_unescapeToken (tokens : List (List Char)) :
    (tokens.map escapeToken).mapM unescapeToken = some tokens := by
  induction tokens with
  | nil => rfl
  | cons token rest ih =>
      rw [List.map_cons, List.mapM_cons, unescapeToken_escapeToken, ih]
      rfl

/-- No slash is left in an escaped token. -/
theorem slash_notMem_escapeToken (token : List Char) : '/' ∉ escapeToken token := by
  intro h
  rcases List.mem_flatMap.mp h with ⟨c, _, hmem⟩
  split_ifs at hmem with htilde hslash
  · simp at hmem
  · simp at hmem
  · exact hslash (List.mem_singleton.mp hmem).symm

/-- The tokens of a pointer that is not empty are separated by slashes. -/
theorem encodePointer_eq {tokens : List (List Char)} (h : tokens ≠ []) :
    encodePointer tokens = '/' :: ['/'].intercalate (tokens.map escapeToken) := by
  induction tokens with
  | nil => exact absurd rfl h
  | cons token rest ih =>
      cases rest with
      | nil => simp [encodePointer]
      | cons next rest =>
          have hcons : encodePointer (token :: next :: rest) =
              '/' :: escapeToken token ++ encodePointer (next :: rest) := rfl
          rw [hcons, ih (by simp)]
          simp

/-- A pointer is read back as its tokens. -/
theorem decodePointer_encodePointer (tokens : List (List Char)) :
    decodePointer (encodePointer tokens) = some tokens := by
  by_cases hempty : tokens = []
  · rw [hempty]
    rfl
  · have hsplit : (['/'].intercalate (tokens.map escapeToken)).splitOn '/' =
        tokens.map escapeToken := by
      apply List.splitOn_intercalate
      · intro piece hpiece
        rcases List.mem_map.mp hpiece with ⟨token, _, rfl⟩
        exact slash_notMem_escapeToken token
      · simpa using hempty
    rw [encodePointer_eq hempty, decodePointer, hsplit, mapM_unescapeToken]

/-! ## Reference -/

section Reference

variable {Value Token : Type}

/-- Follow tokens from a value down to one of its descendants. -/
def resolve (child : Value → Token → Option Value) : Value → List Token → Option Value
  | value, [] => some value
  | value, token :: rest => (child value token).bind fun next => resolve child next rest

/-- A pointer resolves piece by piece. -/
theorem resolve_append (child : Value → Token → Option Value) (value : Value)
    (front back : List Token) :
    resolve child value (front ++ back) =
      (resolve child value front).bind fun next => resolve child next back := by
  induction front generalizing value with
  | nil => rfl
  | cons token front ih =>
      rw [List.cons_append, resolve, resolve, Option.bind_assoc]
      congr 1
      funext next
      exact ih next

end Reference

end Foundations
