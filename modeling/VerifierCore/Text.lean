import Mathlib.Data.List.Sort
import Mathlib.Data.List.Lex
import VerifierCore.Json

/-!
# JavaScript strings

The string operations of the source with the behaviour the language gives them:
order by UTF-16 code units, splitting, trimming, and numbers read from digits.
All of them recurse on the characters, so they run in the kernel.

Main results:

- Theorem {lit}`sortStrings_eq_iff_perm`: a sorted list depends on nothing but
  which strings it holds.
-/

namespace VerifierCore

/-! ## Order -/

/-- The UTF-16 code units of one character. -/
def utf16Units (c : Char) : List Nat :=
  if c.toNat < 0x10000 then [c.toNat]
  else [0xD800 + (c.toNat - 0x10000) / 0x400, 0xDC00 + (c.toNat - 0x10000) % 0x400]

/-- The UTF-16 code units of a string. -/
def codeUnits (s : String) : List Nat :=
  s.toList.flatMap utf16Units

/-- `a < b` on strings. -/
def stringLt (a b : String) : Bool :=
  codeUnits a < codeUnits b

/-- `Array.prototype.sort` on strings. -/
def sortStrings (strings : List String) : List String :=
  strings.insertionSort fun a b => stringLt b a = false

/-! ### The order is canonical -/

/-- A character is no surrogate, so its units tell where the next one starts. -/
theorem utf16Units_append_inj {c d : Char} {u v : List Nat}
    (h : utf16Units c ++ u = utf16Units d ++ v) : c = d ∧ u = v := by
  have hc : c.toNat < 0xD800 ∨ 0xDFFF < c.toNat ∧ c.toNat < 0x110000 := c.valid
  have hd : d.toNat < 0xD800 ∨ 0xDFFF < d.toNat ∧ d.toNat < 0x110000 := d.valid
  unfold utf16Units at h
  split_ifs at h with hcSmall hdSmall hdSmall
  · simp only [List.cons_append, List.nil_append, List.cons.injEq] at h
    exact ⟨Char.toNat_inj.mp h.1, h.2⟩
  · simp only [List.cons_append, List.nil_append, List.cons.injEq] at h
    omega
  · simp only [List.cons_append, List.nil_append, List.cons.injEq] at h
    omega
  · simp only [List.cons_append, List.nil_append, List.cons.injEq] at h
    have hnat : c.toNat = d.toNat := by omega
    exact ⟨Char.toNat_inj.mp hnat, h.2.2⟩

/-- Every character has a unit. -/
theorem utf16Units_ne_nil (c : Char) : utf16Units c ≠ [] := by
  unfold utf16Units
  split_ifs <;> simp

/-- A string can be read back from its code units. -/
theorem codeUnits_injective : Function.Injective codeUnits := by
  have hlists : ∀ s t : List Char, s.flatMap utf16Units = t.flatMap utf16Units → s = t := by
    intro s
    induction s with
    | nil =>
        intro t h
        cases t with
        | nil => rfl
        | cons d t => simp [utf16Units_ne_nil] at h
    | cons c s ih =>
        intro t h
        cases t with
        | nil => simp [utf16Units_ne_nil] at h
        | cons d t =>
            rw [List.flatMap_cons, List.flatMap_cons] at h
            rcases utf16Units_append_inj h with ⟨rfl, hrest⟩
            rw [ih t hrest]
  intro s t h
  exact String.toList_inj.mp (hlists s.toList t.toList h)

/-- `b < a` is false where the units of `a` are not behind those of `b`. -/
theorem stringLt_eq_false_iff {a b : String} :
    stringLt b a = false ↔ codeUnits a ≤ codeUnits b := by
  simp [stringLt]

/-- Strings sort alike exactly when they are the same up to their order. -/
theorem sortStrings_eq_iff_perm {strings strings' : List String} :
    sortStrings strings = sortStrings strings' ↔ strings.Perm strings' := by
  have hperm (strings : List String) : (sortStrings strings).Perm strings :=
    List.perm_insertionSort _ strings
  constructor
  · intro h
    exact (hperm strings).symm.trans (h ▸ hperm strings')
  · intro h
    have : Std.Total fun a b : String => stringLt b a = false :=
      ⟨fun a b => by simpa only [stringLt_eq_false_iff] using le_total _ _⟩
    have : IsTrans String fun a b => stringLt b a = false :=
      ⟨fun a b c => by simpa only [stringLt_eq_false_iff] using le_trans⟩
    have : Std.Antisymm fun a b : String => stringLt b a = false :=
      ⟨fun a b hab hba => codeUnits_injective
        (le_antisymm (stringLt_eq_false_iff.mp hab) (stringLt_eq_false_iff.mp hba))⟩
    exact List.Perm.eq_of_pairwise' (List.pairwise_insertionSort _ strings)
      (List.pairwise_insertionSort _ strings')
      ((hperm strings).trans (h.trans (hperm strings').symm))

/-! ## Parts of a string -/

/-- `text.startsWith(start)`. -/
def startsWith (text start : String) : Bool :=
  start.toList.isPrefixOf text.toList

/-- `text` without its first characters, as many as `start` has. -/
def sliceAfter (text start : String) : String :=
  String.ofList (text.toList.drop start.toList.length)

/-- The pieces between the separators. -/
def splitChars (separator : Char) : List Char → List (List Char)
  | [] => [[]]
  | c :: rest =>
      if c = separator then [] :: splitChars separator rest
      else
        match splitChars separator rest with
        | [] => [[c]]
        | piece :: pieces => (c :: piece) :: pieces

/-- `text.split(separator)` for a separator of one character. -/
def split (text : String) (separator : Char) : List String :=
  (splitChars separator text.toList).map String.ofList

/-- A text without the separator is one piece. -/
theorem splitChars_of_notMem {separator : Char} {text : List Char} (h : separator ∉ text) :
    splitChars separator text = [text] := by
  induction text with
  | nil => rfl
  | cons c text ih =>
      rw [List.mem_cons, not_or] at h
      rw [splitChars, if_neg (Ne.symm h.1), ih h.2]

/-- The first piece ends at the first separator. -/
theorem splitChars_append_cons {separator : Char} {piece : List Char} (h : separator ∉ piece)
    (rest : List Char) :
    splitChars separator (piece ++ separator :: rest) = piece :: splitChars separator rest := by
  induction piece with
  | nil => simp [splitChars]
  | cons c piece ih =>
      rw [List.mem_cons, not_or] at h
      rw [List.cons_append, splitChars, if_neg (Ne.symm h.1), ih h.2]

/-- The first piece is the front of the text, every other one stands behind a separator;
behind a piece, the text ends or goes on with a separator. -/
theorem exists_splitChars_eq_cons (separator : Char) (text : List Char) :
    ∃ piece pieces back, splitChars separator text = piece :: pieces ∧ text = piece ++ back ∧
      (∀ c ∈ back.head?, c = separator) ∧
      ∀ other ∈ pieces, ∃ front back, text = front ++ other ++ back ∧
        front.getLast? = some separator ∧ ∀ c ∈ back.head?, c = separator := by
  induction text with
  | nil => exact ⟨[], [], [], rfl, rfl, by simp, by simp⟩
  | cons c text ih =>
      rcases ih with ⟨piece, pieces, back, hsplit, htext, hback, hpieces⟩
      have hothers : ∀ other ∈ pieces, ∃ front back, c :: text = front ++ other ++ back ∧
          front.getLast? = some separator ∧ ∀ c ∈ back.head?, c = separator := by
        intro other hother
        rcases hpieces other hother with ⟨front, after, rfl, hlast, hafter⟩
        refine ⟨c :: front, after, rfl, ?_, hafter⟩
        rw [List.getLast?_cons, hlast]
        rfl
      by_cases hc : c = separator
      · refine ⟨[], piece :: pieces, c :: text, by simp [splitChars, hc, hsplit], rfl,
          by simp [hc], ?_⟩
        intro other hother
        rcases List.mem_cons.mp hother with rfl | hother
        · exact ⟨[c], back, by simp [htext], by simp [hc], hback⟩
        · exact hothers other hother
      · exact ⟨c :: piece, pieces, back, by simp [splitChars, hc, hsplit], by simp [htext],
          hback, hothers⟩

/-- A piece stands between separators or the ends of the text. -/
theorem exists_of_mem_splitChars {separator : Char} {text piece : List Char}
    (h : piece ∈ splitChars separator text) :
    ∃ front back, text = front ++ piece ++ back ∧ (∀ c ∈ front.getLast?, c = separator) ∧
      ∀ c ∈ back.head?, c = separator := by
  rcases exists_splitChars_eq_cons separator text with
    ⟨first, pieces, back, hsplit, htext, hback, hpieces⟩
  rw [hsplit] at h
  rcases List.mem_cons.mp h with rfl | hmem
  · exact ⟨[], back, by simpa using htext, by simp, hback⟩
  · rcases hpieces piece hmem with ⟨front, after, htext, hlast, hafter⟩
    exact ⟨front, after, htext, by simp [hlast], hafter⟩

/-- `strings.join(separator)`. -/
def join (separator : String) : List String → String
  | [] => ""
  | [s] => s
  | s :: rest => s ++ separator ++ join separator rest

/-- Joined texts are their characters with the separator between them. -/
theorem toList_join (separator : Char) (strings : List String) :
    (join (String.singleton separator) strings).toList =
      [separator].intercalate (strings.map String.toList) := by
  induction strings with
  | nil => rfl
  | cons s rest ih =>
      cases rest with
      | nil => simp [join]
      | cons next rest =>
          have hjoin : join (String.singleton separator) (s :: next :: rest) =
              s ++ String.singleton separator ++ join (String.singleton separator) (next :: rest) :=
            rfl
          rw [hjoin, String.toList_append, String.toList_append, ih, String.toList_singleton,
            List.map_cons, List.map_cons, List.map_cons, List.intercalate_cons_cons]

/-! ### Joined pieces -/

/-- A character of joined texts is the separator or one of theirs. -/
theorem eq_or_mem_of_mem_intercalate {separator c : Char} {pieces : List (List Char)}
    (h : c ∈ [separator].intercalate pieces) : c = separator ∨ ∃ piece ∈ pieces, c ∈ piece := by
  induction pieces with
  | nil => simp at h
  | cons piece rest ih =>
      cases rest with
      | nil => exact .inr ⟨piece, List.mem_cons_self, by simpa using h⟩
      | cons next rest =>
          rw [List.intercalate_cons_cons, List.mem_append, List.mem_append,
            List.mem_singleton] at h
          rcases h with (hpiece | rfl) | hrest
          · exact .inr ⟨piece, List.mem_cons_self, hpiece⟩
          · exact .inl rfl
          · rcases ih hrest with hseparator | ⟨other, hother, hmem⟩
            · exact .inl hseparator
            · exact .inr ⟨other, List.mem_cons_of_mem _ hother, hmem⟩

/-- Splitting undoes joining, unless there is nothing to join. -/
theorem splitChars_intercalate {separator : Char} {pieces : List (List Char)} (hne : pieces ≠ [])
    (h : ∀ piece ∈ pieces, separator ∉ piece) :
    splitChars separator ([separator].intercalate pieces) = pieces := by
  induction pieces with
  | nil => exact absurd rfl hne
  | cons piece rest ih =>
      rw [List.forall_mem_cons] at h
      cases rest with
      | nil => simpa using splitChars_of_notMem h.1
      | cons next rest =>
          rw [List.intercalate_cons_cons, List.append_assoc, List.singleton_append,
            splitChars_append_cons h.1, ih (by simp) h.2]

/-- Joined pieces without the separator do not end with it, unless the last is empty. -/
theorem getLast?_intercalate_ne {separator : Char} {pieces : List (List Char)}
    (h : ∀ piece ∈ pieces, piece ≠ [] ∧ separator ∉ piece) :
    ([separator].intercalate pieces).getLast? ≠ some separator := by
  induction pieces with
  | nil => simp
  | cons piece rest ih =>
      rw [List.forall_mem_cons] at h
      cases rest with
      | nil =>
          intro hlast
          exact h.1.2 (List.mem_of_getLast? (by simpa using hlast))
      | cons next rest =>
          have hrest : [separator].intercalate (next :: rest) ≠ [] := by
            cases rest with
            | nil => simpa using (h.2 next List.mem_cons_self).1
            | cons last rest => simp [List.intercalate_cons_cons]
          rw [List.intercalate_cons_cons, List.getLast?_append_of_ne_nil _ hrest]
          exact ih h.2

/-- The characters `trim` removes and `\s` matches: white space and line
terminators. -/
def isSpace (c : Char) : Bool :=
  c.toNat ∈ [0x9, 0xA, 0xB, 0xC, 0xD, 0x20, 0xA0, 0x1680, 0x2028, 0x2029, 0x202F, 0x205F,
    0x3000, 0xFEFF] || (0x2000 ≤ c.toNat && c.toNat ≤ 0x200A)

/-- `text.trim()`. -/
def trim (text : String) : String :=
  String.ofList ((text.toList.dropWhile isSpace).reverse.dropWhile isSpace).reverse

/-- `trim` takes white space from both ends. -/
theorem exists_of_trim_eq {text trimmed : String} (h : trim text = trimmed) :
    ∃ front back, text.toList = front ++ trimmed.toList ++ back ∧
      front.all isSpace = true ∧ back.all isSpace = true := by
  refine ⟨text.toList.takeWhile isSpace,
    ((text.toList.dropWhile isSpace).reverse.takeWhile isSpace).reverse, ?_, ?_, ?_⟩
  · rw [← h, trim, String.toList_ofList, List.append_assoc, ← List.reverse_append,
      List.takeWhile_append_dropWhile, List.reverse_reverse, List.takeWhile_append_dropWhile]
  · exact List.all_takeWhile
  · rw [List.all_reverse]
    exact List.all_takeWhile

/-- Nothing is taken from a text that has no white space. -/
theorem trim_eq_self {text : String} (h : ∀ c ∈ text.toList, isSpace c = false) :
    trim text = text := by
  have hnone (chars : List Char) (hchars : ∀ c ∈ chars, isSpace c = false) :
      chars.dropWhile isSpace = chars := by
    cases chars with
    | nil => rfl
    | cons c chars => rw [List.dropWhile_cons_of_neg (by simp [hchars])]
  rw [trim, hnone _ h, hnone, List.reverse_reverse, String.ofList_toList]
  simpa using h

/-- `text.replaceAll(c, replacement)` for a pattern of one character. -/
def replaceAll (text : String) (c : Char) (replacement : String) : String :=
  String.ofList (text.toList.flatMap fun d => if d = c then replacement.toList else [d])

/-- `toLowerCase` of ASCII text. -/
def lowerAscii (text : String) : String :=
  String.ofList (text.toList.map Char.toLower)

/-- ASCII letters are converted one by one. -/
theorem toList_lowerAscii (text : String) :
    (lowerAscii text).toList = text.toList.map Char.toLower :=
  String.toList_ofList

/-- `text.includes(part)`. -/
def includes (text part : String) : Bool :=
  text.toList.tails.any fun rest => part.toList.isPrefixOf rest

/-- A text includes another exactly if it is a part of it. -/
theorem includes_iff {text part : String} :
    includes text part = true ↔ part.toList <:+: text.toList := by
  rw [List.infix_iff_prefix_suffix]
  simp [includes, List.isPrefixOf_iff_prefix, and_comm]

/-! ## Regular expressions -/

/-- The characters `.` does not match. -/
def isLineTerminator (c : Char) : Bool :=
  c.toNat ∈ [0xA, 0xD, 0x2028, 0x2029]

/-- The text is made of the pieces, with one or more characters between them. -/
def matchesPieces : List (List Char) → List Char → Bool
  | [], text => text.isEmpty
  | [piece], text => piece = text
  | piece :: pieces, text =>
      piece.isPrefixOf text && (text.drop piece.length).tails.tail.any (matchesPieces pieces)

/-- `/^p.+q.+r$/`, for pieces without line terminators. -/
def matchesPattern (pieces : List String) (text : String) : Bool :=
  !text.toList.any isLineTerminator && matchesPieces (pieces.map String.toList) text.toList

/-! ## Numbers from digits -/

/-- The decimal digits `\d` matches. -/
def isDigit (c : Char) : Bool :=
  '0' ≤ c && c ≤ '9'

/-- The word characters of `\b`. -/
def isWordChar (c : Char) : Bool :=
  isDigit c || ('a' ≤ c && c ≤ 'z') || ('A' ≤ c && c ≤ 'Z') || c = '_'

/-- White space is not a word character. -/
theorem isWordChar_of_isSpace {c : Char} (h : isSpace c = true) : isWordChar c = false := by
  have hval : c.val.toNat = c.toNat := rfl
  have hunderscore : c = '_' ↔ c.toNat = 95 := Char.toNat_inj.symm
  have h0 : '0'.val.toNat = 48 := rfl
  have h9 : '9'.val.toNat = 57 := rfl
  have ha : 'a'.val.toNat = 97 := rfl
  have hz : 'z'.val.toNat = 122 := rfl
  have hA : 'A'.val.toNat = 65 := rfl
  have hZ : 'Z'.val.toNat = 90 := rfl
  simp only [isSpace, Bool.or_eq_true, decide_eq_true_eq, Bool.and_eq_true, List.mem_cons,
    List.not_mem_nil, or_false] at h
  simp only [isWordChar, isDigit, Bool.or_eq_false_iff, Bool.and_eq_false_iff,
    decide_eq_false_iff_not, Char.le_def, UInt32.le_iff_toNat_le, hval, hunderscore]
  omega

/-- A digit is no white space. -/
theorem isSpace_of_isDigit {c : Char} (h : isDigit c = true) : isSpace c = false := by
  by_contra hspace
  have hword := isWordChar_of_isSpace (Bool.not_eq_false _ ▸ hspace)
  simp [isWordChar, h] at hword

/-- The number a digit string denotes. -/
def digitsValue (digits : List Char) : Nat :=
  digits.foldl (fun value c => 10 * value + (c.toNat - '0'.toNat)) 0

/-- From here on a decimal is read as `Infinity`. -/
def infinityThreshold : ℚ :=
  2 ^ 1024 - 2 ^ 970

/-- A rational as a number.  Magnitudes past the largest double overflow;
rounding below that is not modelled. -/
def numberOf (q : ℚ) : Num :=
  if infinityThreshold ≤ q then ⊤ else if q ≤ -infinityThreshold then ⊥ else q

/-- The threshold past which decimals overflow is positive. -/
theorem infinityThreshold_pos : 0 < infinityThreshold := by
  have hpow : (2 : ℚ) ^ 970 < 2 ^ 1024 := pow_lt_pow_right₀ (by norm_num) (by norm_num)
  exact sub_pos.mpr hpow

/-- A decimal below the threshold denotes itself. -/
theorem numberOf_of_lt {q : ℚ} (hnonneg : 0 ≤ q) (h : q < infinityThreshold) :
    numberOf q = ((q : WithTop ℚ) : Num) := by
  have hthreshold := infinityThreshold_pos
  rw [numberOf, if_neg (not_le.mpr h), if_neg (by linarith)]
  rfl

/-- A decimal from the threshold on denotes infinity. -/
theorem numberOf_of_le {q : ℚ} (h : infinityThreshold ≤ q) : numberOf q = ⊤ := by
  rw [numberOf, if_pos h]

/-- `Number(text)` of a string of decimal digits; `none` for any other string,
as decided by `/^\d+$/`. -/
def digitString? (text : String) : Option Num :=
  if text.toList ≠ [] ∧ text.toList.all isDigit then
    some (numberOf (digitsValue text.toList))
  else none

end VerifierCore
