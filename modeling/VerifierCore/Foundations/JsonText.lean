import Mathlib.Data.List.Basic
import Mathlib.Tactic.IntervalCases

/-!
# JSON text of nested string arrays

The compact JSON encoding of strings and arrays of strings, nested to any
depth.  Texts of this kind are used as canonical keys, so what matters is that
a text can be read back, also when it is only the front of a longer text.

Main results:

- Theorem {lit}`encode_append_inj`: an encoding at the front of a text
  determines both the encoded value and the rest of the text.
- Theorem {lit}`eq_of_append_colon_encode`: behind an arbitrary, unescaped
  string and a colon, the encoding of a list of arrays can still be split off
  in one way only.
-/

namespace Foundations

/-- Strings and nested arrays of them. -/
inductive JsonText where
  | string (s : String)
  | array (items : List JsonText)

namespace JsonText

/-! ## Encoding -/

/-- The lower-case hexadecimal digit of a value below sixteen. -/
def hexDigit (n : Nat) : Char :=
  if n < 10 then Char.ofNat (48 + n) else Char.ofNat (87 + n)

/-- The value of a hexadecimal digit. -/
def hexValue (c : Char) : Nat :=
  if c.toNat < 58 then c.toNat - 48 else c.toNat - 87

/-- One character inside a JSON string literal.  The quote, the backslash and
the control characters are escaped. -/
def escapeChar (c : Char) : List Char :=
  if c = '"' then ['\\', '"']
  else if c = '\\' then ['\\', '\\']
  else if 0x20 ≤ c.toNat then [c]
  else if c.toNat = 0x08 then ['\\', 'b']
  else if c.toNat = 0x09 then ['\\', 't']
  else if c.toNat = 0x0A then ['\\', 'n']
  else if c.toNat = 0x0C then ['\\', 'f']
  else if c.toNat = 0x0D then ['\\', 'r']
  else ['\\', 'u', '0', '0', hexDigit (c.toNat / 16), hexDigit (c.toNat % 16)]

/-- Read one character back from inside a string literal. -/
def unescapeChar : List Char → Option (Char × List Char)
  | '\\' :: 'b' :: rest => some (Char.ofNat 0x08, rest)
  | '\\' :: 't' :: rest => some (Char.ofNat 0x09, rest)
  | '\\' :: 'n' :: rest => some (Char.ofNat 0x0A, rest)
  | '\\' :: 'f' :: rest => some (Char.ofNat 0x0C, rest)
  | '\\' :: 'r' :: rest => some (Char.ofNat 0x0D, rest)
  | '\\' :: 'u' :: '0' :: '0' :: hi :: lo :: rest =>
      some (Char.ofNat (16 * hexValue hi + hexValue lo), rest)
  | '\\' :: c :: rest => some (c, rest)
  | c :: rest => some (c, rest)
  | [] => none

/-- The characters of a string literal, without its quotes. -/
def escape (s : List Char) : List Char :=
  s.flatMap escapeChar

mutual

/-- The compact JSON text of a value. -/
def encode : JsonText → List Char
  | .string s => '"' :: (escape s.toList ++ ['"'])
  | .array items => '[' :: (encodeItems items ++ [']'])

/-- The comma-separated texts of an array's items. -/
def encodeItems : List JsonText → List Char
  | [] => []
  | item :: rest => encode item ++ encodeTail rest

/-- The items after the first, each behind its comma. -/
def encodeTail : List JsonText → List Char
  | [] => []
  | item :: rest => ',' :: (encode item ++ encodeTail rest)

end

/-- The text as a string. -/
def stringify (t : JsonText) : String :=
  String.ofList t.encode

/-- The text of a value is its encoding. -/
@[simp]
theorem toList_stringify (t : JsonText) : t.stringify.toList = t.encode := by
  simp [stringify]

/-! ## Reading a string literal back -/

/-- A control character is read back from its escape. -/
theorem unescapeChar_control {n : Nat} (hn : n < 0x20) (rest : List Char) :
    unescapeChar (escapeChar (Char.ofNat n) ++ rest) = some (Char.ofNat n, rest) := by
  interval_cases n <;> rfl

/-- Unescaping reads back the escaped character and leaves the rest. -/
theorem unescapeChar_escapeChar (c : Char) (rest : List Char) :
    unescapeChar (escapeChar c ++ rest) = some (c, rest) := by
  by_cases hquote : c = '"'
  · subst hquote
    rfl
  by_cases hback : c = '\\'
  · subst hback
    rfl
  by_cases hprint : 0x20 ≤ c.toNat
  · have hplain : escapeChar c = [c] := by
      simp [escapeChar, hquote, hback, hprint]
    rw [hplain, List.singleton_append]
    unfold unescapeChar
    split <;> simp_all
  · have hcontrol := unescapeChar_control (n := c.toNat) (by omega) rest
    rwa [Char.ofNat_toNat] at hcontrol

/-- One escaped character at the front of a text can be read in one way. -/
theorem escapeChar_append_inj {c d : Char} {u v : List Char}
    (h : escapeChar c ++ u = escapeChar d ++ v) : c = d ∧ u = v := by
  have hread := congrArg unescapeChar h
  simpa [unescapeChar_escapeChar] using hread

/-- An escaped character is not empty and does not begin with a quote. -/
theorem escapeChar_eq_cons (c : Char) : ∃ d rest, escapeChar c = d :: rest ∧ d ≠ '"' := by
  unfold escapeChar
  split_ifs with hquote
  all_goals first
    | exact ⟨_, _, rfl, hquote⟩
    | exact ⟨_, _, rfl, by decide⟩

/-- The closing quote of a literal marks where its content ends. -/
theorem escape_append_quote_inj {s t : List Char} {u v : List Char}
    (h : escape s ++ '"' :: u = escape t ++ '"' :: v) : s = t ∧ u = v := by
  induction s generalizing t with
  | nil =>
      cases t with
      | nil => simpa [escape] using h
      | cons d t =>
          obtain ⟨e, rest, heq, hne⟩ := escapeChar_eq_cons d
          simp only [escape, List.flatMap_nil, List.nil_append, List.flatMap_cons, heq,
            List.cons_append, List.cons.injEq] at h
          exact absurd h.1.symm hne
  | cons c s ih =>
      cases t with
      | nil =>
          obtain ⟨e, rest, heq, hne⟩ := escapeChar_eq_cons c
          simp only [escape, List.flatMap_nil, List.nil_append, List.flatMap_cons, heq,
            List.cons_append, List.cons.injEq] at h
          exact absurd h.1 hne
      | cons d t =>
          simp only [escape, List.flatMap_cons, List.append_assoc] at h
          obtain ⟨rfl, hrest⟩ := escapeChar_append_inj h
          obtain ⟨rfl, rfl⟩ := ih hrest
          exact ⟨rfl, rfl⟩

/-! ## Reading a value back -/

mutual

/-- A value's text at the front of a longer text determines the value and the
rest. -/
theorem encode_append_inj : ∀ (t t' : JsonText) {r r' : List Char},
    t.encode ++ r = t'.encode ++ r' → t = t' ∧ r = r'
  | .string s, .string s', r, r', h => by
      simp only [encode, List.cons_append, List.append_assoc, List.cons.injEq, true_and,
        List.nil_append] at h
      obtain ⟨hs, rfl⟩ := escape_append_quote_inj h
      exact ⟨congrArg string (String.toList_inj.mp hs), rfl⟩
  | .array items, .array items', r, r', h => by
      simp only [encode, List.cons_append, List.append_assoc, List.cons.injEq, true_and,
        List.nil_append] at h
      obtain ⟨rfl, rfl⟩ := encodeItems_append_inj items items' h
      exact ⟨rfl, rfl⟩
  | .string s, .array items', r, r', h => by
      simp [encode] at h
  | .array items, .string s', r, r', h => by
      simp [encode] at h

/-- The items in front of a closing bracket can be read back. -/
theorem encodeItems_append_inj : ∀ (items items' : List JsonText) {r r' : List Char},
    encodeItems items ++ ']' :: r = encodeItems items' ++ ']' :: r' → items = items' ∧ r = r'
  | [], [], r, r', h => by
      simpa [encodeItems] using h
  | [], .string s :: rest', r, r', h => by
      simp [encodeItems, encode] at h
  | [], .array items' :: rest', r, r', h => by
      simp [encodeItems, encode] at h
  | .string s :: rest, [], r, r', h => by
      simp [encodeItems, encode] at h
  | .array items :: rest, [], r, r', h => by
      simp [encodeItems, encode] at h
  | item :: rest, item' :: rest', r, r', h => by
      simp only [encodeItems, List.append_assoc] at h
      obtain ⟨rfl, htail⟩ := encode_append_inj item item' h
      obtain ⟨rfl, rfl⟩ := encodeTail_append_inj rest rest' htail
      exact ⟨rfl, rfl⟩

/-- The items behind the first one can be read back. -/
theorem encodeTail_append_inj : ∀ (items items' : List JsonText) {r r' : List Char},
    encodeTail items ++ ']' :: r = encodeTail items' ++ ']' :: r' → items = items' ∧ r = r'
  | [], [], r, r', h => by
      simpa [encodeTail] using h
  | [], item' :: rest', r, r', h => by
      simp [encodeTail] at h
  | item :: rest, [], r, r', h => by
      simp [encodeTail] at h
  | item :: rest, item' :: rest', r, r', h => by
      simp only [encodeTail, List.cons_append, List.append_assoc, List.cons.injEq,
        true_and] at h
      obtain ⟨rfl, htail⟩ := encode_append_inj item item' h
      obtain ⟨rfl, rfl⟩ := encodeTail_append_inj rest rest' htail
      exact ⟨rfl, rfl⟩

end

/-- A value can be read back from its encoding. -/
theorem encode_injective : Function.Injective encode := by
  intro t t' h
  have happend : t.encode ++ [] = t'.encode ++ [] := by rw [h]
  exact (encode_append_inj t t' happend).1

/-- A value can be read back from its text. -/
theorem stringify_injective : Function.Injective stringify := by
  intro t t' h
  apply encode_injective
  rw [← toList_stringify, ← toList_stringify, h]

/-! ## Splitting a text off behind a colon -/

/-- Where a reader of a flat array of string literals stands. -/
inductive Scan where
  | start
  | outside
  | inside
  | escaped
  | dead
deriving DecidableEq

/-- One character read.  Outside its literals a flat array has no characters
but brackets, commas and quotes, and a bracket opens it only at the start. -/
def Scan.next : Scan → Char → Scan
  | .start, c => if c = '[' then .outside else .dead
  | .outside, c => if c = '"' then .inside else if c = ',' ∨ c = ']' then .outside else .dead
  | .inside, c => if c = '"' then .outside else if c = '\\' then .escaped else .inside
  | .escaped, _ => .inside
  | .dead, _ => .dead

/-- Where the reader stands behind a text. -/
def Scan.run (state : Scan) (text : List Char) : Scan :=
  text.foldl Scan.next state

@[simp]
theorem Scan.run_nil (state : Scan) : state.run [] = state :=
  rfl

@[simp]
theorem Scan.run_cons (state : Scan) (c : Char) (text : List Char) :
    state.run (c :: text) = (state.next c).run text :=
  rfl

/-- A text is scanned piece by piece. -/
@[simp]
theorem Scan.run_append (state : Scan) (first second : List Char) :
    state.run (first ++ second) = (state.run first).run second := by
  simp [Scan.run]

/-- A scan that died stays dead. -/
@[simp]
theorem Scan.run_dead (text : List Char) : Scan.dead.run text = .dead := by
  induction text with
  | nil => rfl
  | cons c text ih => exact ih

/-- A hexadecimal digit is neither a quote nor a backslash. -/
theorem hexDigit_plain {n : Nat} (hn : n < 0x10) :
    hexDigit n ≠ '"' ∧ hexDigit n ≠ '\\' := by
  interval_cases n <;> decide

/-- An escaped character leaves the reader inside the literal. -/
theorem Scan.run_escapeChar (c : Char) : Scan.inside.run (escapeChar c) = .inside := by
  unfold escapeChar
  split_ifs with hquote hback hprint
  all_goals try simp [Scan.next]
  · simp [hquote, hback]
  · have hhi := hexDigit_plain (n := c.toNat / 16) (by omega)
    have hlo := hexDigit_plain (n := c.toNat % 16) (by omega)
    simp [hhi, hlo]

/-- An escaped text stays inside its string. -/
theorem Scan.run_escape (s : List Char) : Scan.inside.run (escape s) = .inside := by
  induction s with
  | nil => rfl
  | cons c s ih =>
      simp only [escape, List.flatMap_cons] at ih ⊢
      rw [Scan.run_append, Scan.run_escapeChar, ih]

/-- A quoted text is scanned through its closing quote. -/
theorem Scan.run_string (s : String) : Scan.outside.run (encode (.string s)) = .outside := by
  simp [encode, Scan.next, Scan.run_escape]

/-- The array of the texts of some arrays. -/
def nested (ids : List (List JsonText)) : JsonText :=
  .array (ids.map fun items => .string (stringify (.array items)))

/-- Quoted texts behind commas are scanned through. -/
theorem Scan.run_tail (strings : List String) :
    Scan.outside.run (encodeTail (strings.map .string)) = .outside := by
  induction strings with
  | nil => rfl
  | cons s strings ih =>
      simp only [List.map_cons, encodeTail, Scan.run_cons, Scan.run_append]
      rw [show Scan.outside.next ',' = .outside from rfl, Scan.run_string, ih]

/-- A flat array read from its start is read to its end. -/
theorem Scan.run_nested (ids : List (List JsonText)) :
    Scan.start.run (nested ids).encode = .outside := by
  rw [nested, encode, Scan.run_cons, Scan.run_append,
    show Scan.start.next '[' = .outside from rfl]
  cases ids with
  | nil => rfl
  | cons items ids =>
      have htail := Scan.run_tail (ids.map fun items => stringify (.array items))
      rw [List.map_map] at htail
      rw [List.map_cons, encodeItems, Scan.run_append, Scan.run_string]
      simp only [Function.comp_def] at htail
      rw [htail]
      rfl

/-- Read from inside a literal, the same text goes wrong: the quote opening its
first literal closes the one the reader is in, and no bracket may follow. -/
theorem Scan.run_inside_nested_ne (ids : List (List JsonText)) :
    Scan.inside.run (nested ids).encode ≠ .outside := by
  cases ids with
  | nil => decide
  | cons items ids =>
      have hfront : ∃ rest, (nested (items :: ids)).encode = '[' :: '"' :: '[' :: rest := by
        simp only [nested, List.map_cons, encode, encodeItems, toList_stringify]
        exact ⟨_, rfl⟩
      obtain ⟨rest, hrest⟩ := hfront
      rw [hrest]
      simp [Scan.next]

/-- No text of this kind hides inside another one behind a colon. -/
theorem eq_nil_of_colon_encode {front : List Char} {ids ids' : List (List JsonText)}
    (h : ':' :: (nested ids).encode = front ++ ':' :: (nested ids').encode) : front = [] := by
  cases front with
  | nil => rfl
  | cons c front =>
      rw [List.cons_append, List.cons.injEq] at h
      have htext := h.2
      have hscan := congrArg Scan.start.run htext
      rw [Scan.run_nested, Scan.run_append, Scan.run_cons] at hscan
      have hne := Scan.run_inside_nested_ne ids'
      cases hfront : Scan.start.run front <;> rw [hfront] at hscan
      case inside => exact absurd hscan.symm hne
      case escaped => exact absurd hscan.symm hne
      all_goals simp [Scan.next] at hscan

/-- Behind an arbitrary string and a colon, the text of a list of arrays can be
split off in one way only. -/
theorem eq_of_append_colon_encode {front front' : List Char} {ids ids' : List (List JsonText)}
    (h : front ++ ':' :: (nested ids).encode = front' ++ ':' :: (nested ids').encode) :
    front = front' ∧ ids = ids' := by
  have hfront : front = front' := by
    rcases List.append_eq_append_iff.mp h with ⟨extra, rfl, hextra⟩ | ⟨extra, rfl, hextra⟩
    · simp [eq_nil_of_colon_encode hextra]
    · simp [eq_nil_of_colon_encode hextra]
  subst hfront
  refine ⟨rfl, ?_⟩
  have htexts := encode_injective (List.cons.inj (List.append_cancel_left h)).2
  simp only [nested, array.injEq] at htexts
  have hinjective : Function.Injective fun items => string (stringify (.array items)) := by
    intro items items' heq
    exact array.inj (stringify_injective (string.inj heq))
  exact hinjective.list_map htexts

end JsonText

end Foundations
