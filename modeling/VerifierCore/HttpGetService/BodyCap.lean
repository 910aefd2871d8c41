import VerifierCore.Foundations.Utf8
import VerifierCore.HttpGetService.Builtin

/-!
# The cap on a body

A body is read as text, up to so many bytes.  Three counts stand for its size: the one
the response declares, the bytes of a stream as they arrive, and the UTF-8 length of a
text that is read at once, which its UTF-16 length bounds.

Main results:

- Theorem {lit}`countByHand_eq_length_textEncode`: counting by hand is encoding.
- Theorem {lit}`readStream_ofChunks`: a stream is read as if it came in one piece.
- Theorem {lit}`readCapped_agree`: both ways of reading accept the bodies within the
  cap, and read the same text.
-/

namespace VerifierCore

open Foundations

/-! ## Strings as code units -/

/-- The UTF-16 code units of a text. -/
def unitsOf (text : String) : List UInt16 :=
  (codeUnits text).map UInt16.ofNat

/-- The first half of a pair. -/
def isLeadSurrogate (unit : Nat) : Bool :=
  0xD800 ≤ unit && unit ≤ 0xDBFF

/-- The second half of a pair. -/
def isTrailSurrogate (unit : Nat) : Bool :=
  0xDC00 ≤ unit && unit ≤ 0xDFFF

/-- The units that lead a pair are those from 0xD800 to 0xDBFF. -/
theorem isLeadSurrogate_iff {unit : Nat} :
    isLeadSurrogate unit = true ↔ 0xD800 ≤ unit ∧ unit ≤ 0xDBFF := by
  simp [isLeadSurrogate]

/-- The units that trail a pair are those from 0xDC00 to 0xDFFF. -/
theorem isTrailSurrogate_iff {unit : Nat} :
    isTrailSurrogate unit = true ↔ 0xDC00 ≤ unit ∧ unit ≤ 0xDFFF := by
  simp [isTrailSurrogate]

/-- The code point of a pair of surrogates. -/
def pairCodePoint (lead trail : Nat) : Nat :=
  0x10000 + (lead - 0xD800) * 0x400 + (trail - 0xDC00)

/-- What `for (const char of text)` goes through: the code points of the text, where a
surrogate without its partner is its own. -/
def codePoints : List UInt16 → List Nat
  | [] => []
  | [unit] => [unit.toNat]
  | unit :: next :: units =>
      if isLeadSurrogate unit.toNat && isTrailSurrogate next.toNat then
        pairCodePoint unit.toNat next.toNat :: codePoints units
      else unit.toNat :: codePoints (next :: units)

/-- The character that is encoded for a code point: a surrogate has none. -/
def scalarOf (codePoint : Nat) : Char :=
  if 0xD800 ≤ codePoint ∧ codePoint ≤ 0xDFFF then Utf8Decoder.replacement
  else Char.ofNat codePoint

/-- `new TextEncoder().encode(text)`. -/
def textEncode (units : List UInt16) : List UInt8 :=
  (codePoints units).flatMap fun codePoint => String.utf8EncodeChar (scalarOf codePoint)

/-- The bytes of one code point. -/
def codePointBytes (codePoint : Nat) : Nat :=
  if codePoint < 0x80 then 1
  else if codePoint < 0x800 then 2
  else if codePoint < 0x10000 then 3
  else 4

/-- The loop of `byteLength`. -/
def countByHand (units : List UInt16) : Nat :=
  (codePoints units).foldl (fun bytes codePoint => bytes + codePointBytes codePoint) 0

/-- UTF-8 length of a text, counted by hand where `TextEncoder` is absent. -/
def byteLength (hasTextEncoder : Bool) (units : List UInt16) : Nat :=
  if hasTextEncoder then (textEncode units).length else countByHand units

/-! ## Numbers from text -/

/-- The value of digits in a base, if they are some. -/
def radixNumber (base : Nat) (digits : List Char) : Option Num :=
  match digits.mapM hexDigit? with
  | none => none
  | some values =>
      if values ≠ [] ∧ values.all (· < base) then
        some (numberOf (values.foldl (fun value digit => base * value + digit) 0 : Nat))
      else none

/-- The power of ten at the end of a decimal. -/
def exponentPart : List Char → Option Int
  | [] => some 0
  | e :: rest =>
      let digits := if rest.head? = some '-' ∨ rest.head? = some '+' then rest.tail else rest
      if (e = 'e' ∨ e = 'E') ∧ digits ≠ [] ∧ digits.all isDigit then
        some (if rest.head? = some '-' then -(digitsValue digits : Int) else digitsValue digits)
      else none

/-- A decimal without a sign. -/
def unsignedDecimal (chars : List Char) : Option ℚ :=
  let whole := chars.takeWhile isDigit
  let behind := chars.dropWhile isDigit
  let fraction := if behind.head? = some '.' then behind.tail.takeWhile isDigit else []
  let rest := if behind.head? = some '.' then behind.tail.dropWhile isDigit else behind
  if whole = [] ∧ fraction = [] then none
  else
    (exponentPart rest).map fun exponent =>
      (digitsValue (whole ++ fraction) : ℚ) * 10 ^ (exponent - (fraction.length : Int))

/-- The number that a decimal literal with a sign denotes. -/
def decimalNumber (chars : List Char) : Option Num :=
  let digits := if chars.head? = some '-' ∨ chars.head? = some '+' then chars.tail else chars
  let negative := chars.head? = some '-'
  if digits = "Infinity".toList then some (if negative then ⊥ else ⊤)
  else (unsignedDecimal digits).map fun q => numberOf (if negative then -q else q)

/-- `Number(text)`; `none` is `NaN`. -/
def toNumber (text : String) : Option Num :=
  match (trim text).toList with
  | [] => some ((0 : ℚ) : WithTop ℚ)
  | '0' :: c :: digits =>
      if c = 'x' ∨ c = 'X' then radixNumber 16 digits
      else if c = 'o' ∨ c = 'O' then radixNumber 8 digits
      else if c = 'b' ∨ c = 'B' then radixNumber 2 digits
      else decimalNumber ('0' :: c :: digits)
  | chars => decimalNumber chars

/-! ## Reading a body -/

/-- The rest of a stream: it ends, breaks, or goes on with a chunk. -/
inductive BodyStream where
  | done
  | failed (error : Thrown)
  | chunk (value : List UInt8) (rest : BodyStream)

/-- A stream of chunks that does not break. -/
def BodyStream.ofChunks : List (List UInt8) → BodyStream
  | [] => .done
  | value :: chunks => .chunk value (ofChunks chunks)

/-- The body of a response, where the runtime offers a stream and where it offers the
text only. -/
inductive Body where
  | stream (stream : BodyStream)
  | text (text : Except Thrown String)

/-- A number of bytes or units. -/
def count (n : Nat) : Num :=
  ((n : ℚ) : WithTop ℚ)

/-- The error of a body that exceeds the cap. -/
def tooLarge (platform : Platform) (url : String) (maxBytes : Num) : Thrown :=
  let shown := platform.numberToString maxBytes
  errorWith s!"Request to {url} exceeded {shown} bytes"

/-- `Number(response.headers.get('content-length'))`. -/
def declaredLength (headers : List (String × String)) : Option Num :=
  match headers.lookup "content-length" with
  | none => some ((0 : ℚ) : WithTop ℚ)
  | some text => toNumber text

/-- The response declares more than the cap. -/
def declaresTooMuch (headers : List (String × String)) (maxBytes : Num) : Bool :=
  (declaredLength headers).any fun declared =>
    declared ≠ ⊤ && declared ≠ ⊥ && maxBytes < declared

/-- The loop over a stream: what was decoded of the bytes so far, and how many they
were. -/
structure StreamReading where
  decoder : TextDecoder := {}
  total : Nat := 0
  text : String := ""

/-- Read a stream chunk by chunk, and stop as soon as the cap is exceeded. -/
def readStream (platform : Platform) (url : String) (maxBytes : Num) (reading : StreamReading) :
    BodyStream → Except Thrown String
  | .done => .ok (reading.text ++ String.ofList reading.decoder.finish)
  | .failed error => .error error
  | .chunk value rest =>
      let total := reading.total + value.length
      if maxBytes < count total then .error (tooLarge platform url maxBytes)
      else
        let decoded := reading.decoder.decode value
        readStream platform url maxBytes
          { decoder := decoded.1
            total := total
            text := reading.text ++ String.ofList decoded.2 } rest

/-- A text that was read at once.  It has between one and three bytes for each of its
units. -/
def capText (platform : Platform) (hasTextEncoder : Bool) (url : String) (maxBytes : Num)
    (text : String) : Except Thrown String :=
  let units := unitsOf text
  if maxBytes < count units.length then .error (tooLarge platform url maxBytes)
  else if maxBytes < count (units.length * 3) ∧
      maxBytes < count (byteLength hasTextEncoder units) then
    .error (tooLarge platform url maxBytes)
  else .ok text

/-- Read the body as text, refusing more than `maxBytes`. -/
def readCapped (platform : Platform) (hasTextEncoder : Bool) (response : Response) (body : Body)
    (url : String) (maxBytes : Num) : Except Thrown String :=
  if declaresTooMuch response.headers maxBytes then .error (tooLarge platform url maxBytes)
  else
    match body with
    | .text text => text.bind (capText platform hasTextEncoder url maxBytes)
    | .stream stream => readStream platform url maxBytes {} stream

/-! ## Counting by hand -/

/-- A code point that is no surrogate is that of its character. -/
theorem toNat_ofNat_of_valid {n : Nat} (h : n < 0xD800 ∨ 0xDFFF < n ∧ n < 0x110000) :
    (Char.ofNat n).toNat = n := by
  rw [Char.ofNat, dif_pos h]
  rfl

/-- A character is encoded in as many bytes as its code point needs. -/
theorem length_utf8EncodeChar (c : Char) :
    (String.utf8EncodeChar c).length = codePointBytes c.toNat := by
  have hnat : c.val.toNat = c.toNat := rfl
  unfold String.utf8EncodeChar codePointBytes
  dsimp only
  rw [hnat]
  split_ifs <;> first | rfl | omega

/-- The replacement of a surrogate has as many bytes as are counted for it. -/
theorem length_encode_scalarOf {codePoint : Nat} (h : codePoint < 0x110000) :
    (String.utf8EncodeChar (scalarOf codePoint)).length = codePointBytes codePoint := by
  rw [length_utf8EncodeChar, scalarOf]
  split_ifs with hsurrogate
  · have hreplacement : Utf8Decoder.replacement.toNat = 0xFFFD := by decide
    rw [hreplacement]
    unfold codePointBytes
    split_ifs <;> omega
  · rw [toNat_ofNat_of_valid (by omega)]

/-- Code points end below the last plane's end. -/
theorem lt_of_mem_codePoints {units : List UInt16} {codePoint : Nat}
    (h : codePoint ∈ codePoints units) : codePoint < 0x110000 := by
  fun_induction codePoints units with
  | case1 => cases h
  | case2 unit =>
      rw [List.mem_singleton.mp h]
      have hunit := unit.toNat_lt
      omega
  | case3 unit next units hpair ih =>
      rcases List.mem_cons.mp h with hpoint | hrest
      · rw [Bool.and_eq_true, isLeadSurrogate_iff, isTrailSurrogate_iff] at hpair
        unfold pairCodePoint at hpoint
        omega
      · exact ih hrest
  | case4 unit next units _ ih =>
      rcases List.mem_cons.mp h with hpoint | hrest
      · rw [hpoint]
        exact lt_trans unit.toNat_lt (by norm_num)
      · exact ih hrest

/-- The loop counts what the encoder writes, lone surrogates included. -/
theorem countByHand_eq_length_textEncode (units : List UInt16) :
    countByHand units = (textEncode units).length := by
  have hloop (points : List Nat) (hpoints : ∀ codePoint ∈ points, codePoint < 0x110000)
      (bytes : Nat) :
      points.foldl (fun bytes codePoint => bytes + codePointBytes codePoint) bytes =
        bytes + (points.flatMap fun codePoint =>
          String.utf8EncodeChar (scalarOf codePoint)).length := by
    induction points generalizing bytes with
    | nil => rfl
    | cons codePoint points ih =>
        rw [List.forall_mem_cons] at hpoints
        rw [List.foldl_cons, ih hpoints.2, List.flatMap_cons, List.length_append,
          length_encode_scalarOf hpoints.1, Nat.add_assoc]
  rw [countByHand, textEncode, hloop _ (fun _ => lt_of_mem_codePoints), Nat.zero_add]

/-- Both ways to count a text's bytes give the length of its encoding. -/
theorem byteLength_eq (hasTextEncoder : Bool) (units : List UInt16) :
    byteLength hasTextEncoder units = (textEncode units).length := by
  rw [byteLength]
  split_ifs
  · rfl
  · exact countByHand_eq_length_textEncode units

/-! ## The units of a text -/

/-- The UTF-8 encoding of a text. -/
def utf8 (text : String) : List UInt8 :=
  text.toList.flatMap String.utf8EncodeChar

/-- A unit that starts no pair is a code point. -/
theorem codePoints_cons {unit : UInt16} {units : List UInt16}
    (h : isLeadSurrogate unit.toNat = false) :
    codePoints (unit :: units) = unit.toNat :: codePoints units := by
  cases units with
  | nil => rfl
  | cons next units => rw [codePoints, h, Bool.false_and, if_neg Bool.false_ne_true]

/-- A pair of units is one code point. -/
theorem codePoints_pair {lead trail : UInt16} {units : List UInt16}
    (hlead : isLeadSurrogate lead.toNat = true) (htrail : isTrailSurrogate trail.toNat = true) :
    codePoints (lead :: trail :: units) =
      pairCodePoint lead.toNat trail.toNat :: codePoints units := by
  rw [codePoints, hlead, htrail, Bool.true_and, if_pos rfl]

/-- A character is read back from its units, whatever follows. -/
theorem codePoints_utf16Units (c : Char) (units : List UInt16) :
    codePoints ((utf16Units c).map UInt16.ofNat ++ units) = c.toNat :: codePoints units := by
  have hvalid : c.toNat < 0xD800 ∨ 0xDFFF < c.toNat ∧ c.toNat < 0x110000 := c.valid
  have hunit {n : Nat} (h : n < 0x10000) : (UInt16.ofNat n).toNat = n := by
    rw [UInt16.toNat_ofNat']
    exact Nat.mod_eq_of_lt h
  rw [utf16Units]
  split_ifs with hsmall
  · have hlead : isLeadSurrogate (UInt16.ofNat c.toNat).toNat = false := by
      rw [hunit hsmall, Bool.eq_false_iff, ne_eq, isLeadSurrogate_iff]
      omega
    rw [List.map_singleton, List.singleton_append, codePoints_cons hlead, hunit hsmall]
  · have hlead : 0xD800 + (c.toNat - 0x10000) / 0x400 < 0x10000 := by omega
    have htrail : 0xDC00 + (c.toNat - 0x10000) % 0x400 < 0x10000 := by omega
    have hpair : pairCodePoint (0xD800 + (c.toNat - 0x10000) / 0x400)
        (0xDC00 + (c.toNat - 0x10000) % 0x400) = c.toNat := by
      unfold pairCodePoint
      omega
    rw [List.map_cons, List.map_singleton, List.cons_append, List.singleton_append,
      codePoints_pair, hunit hlead, hunit htrail, hpair]
    · rw [hunit hlead, isLeadSurrogate_iff]
      omega
    · rw [hunit htrail, isTrailSurrogate_iff]
      omega

/-- The code points of a text are those of its characters. -/
theorem codePoints_unitsOf (text : String) :
    codePoints (unitsOf text) = text.toList.map Char.toNat := by
  rw [unitsOf, codeUnits]
  induction text.toList with
  | nil => rfl
  | cons c chars ih =>
      rw [List.flatMap_cons, List.map_append, codePoints_utf16Units, ih, List.map_cons]

/-- The character of a code point is the character it came from. -/
theorem scalarOf_toNat (c : Char) : scalarOf c.toNat = c := by
  have hvalid : c.toNat < 0xD800 ∨ 0xDFFF < c.toNat ∧ c.toNat < 0x110000 := c.valid
  rw [scalarOf, if_neg (by omega), Char.ofNat_toNat]

/-- Encoding the units of a text is encoding the text. -/
theorem textEncode_unitsOf (text : String) : textEncode (unitsOf text) = utf8 text := by
  rw [textEncode, codePoints_unitsOf, List.flatMap_map, utf8]
  simp only [scalarOf_toNat]

/-- A character has no more units than bytes, and no more than three bytes for each unit. -/
theorem length_utf16Units_le (c : Char) :
    (utf16Units c).length ≤ codePointBytes c.toNat ∧
      codePointBytes c.toNat ≤ (utf16Units c).length * 3 := by
  unfold utf16Units codePointBytes
  split_ifs <;> simp only [List.length_cons, List.length_nil] <;> omega

/-- UTF-8 takes between one and three bytes per UTF-16 unit. -/
theorem length_unitsOf_le (text : String) :
    (unitsOf text).length ≤ (utf8 text).length ∧
      (utf8 text).length ≤ (unitsOf text).length * 3 := by
  rw [unitsOf, codeUnits, List.length_map, utf8]
  induction text.toList with
  | nil => exact ⟨le_rfl, le_rfl⟩
  | cons c chars ih =>
      have hc := length_utf16Units_le c
      rw [← length_utf8EncodeChar] at hc
      rw [List.flatMap_cons, List.flatMap_cons, List.length_append, List.length_append]
      omega

/-! ## Both ways of reading -/

@[simp]
theorem count_le_count {m n : Nat} : count m ≤ count n ↔ m ≤ n := by
  simp [count]

theorem count_lt_count {m n : Nat} : count m < count n ↔ m < n := by
  simp [count]

/-- The units of a text bound its bytes, so the cap is on the bytes. -/
theorem capText_eq (platform : Platform) (hasTextEncoder : Bool) (url : String) (maxBytes : Num)
    (text : String) :
    capText platform hasTextEncoder url maxBytes text =
      if count (utf8 text).length ≤ maxBytes then .ok text
      else .error (tooLarge platform url maxBytes) := by
  obtain ⟨hlower, hupper⟩ := length_unitsOf_le text
  have hlower := count_le_count.mpr hlower
  have hupper := count_le_count.mpr hupper
  dsimp only [capText]
  rw [byteLength_eq, textEncode_unitsOf]
  by_cases hfits : count (utf8 text).length ≤ maxBytes
  · rw [if_pos hfits, if_neg (not_lt.mpr (hlower.trans hfits)),
      if_neg fun h => absurd hfits (not_le.mpr h.2)]
  · have hover := not_le.mp hfits
    have hboth : maxBytes < count ((unitsOf text).length * 3) ∧
        maxBytes < count (utf8 text).length :=
      ⟨hover.trans_le hupper, hover⟩
    rw [if_neg hfits, if_pos hboth, ite_self]

/-- A stream is read as if it came in one piece. -/
theorem readStream_ofChunks (platform : Platform) (url : String) {maxBytes : Num}
    {reading : StreamReading} (hfits : count reading.total ≤ maxBytes)
    (chunks : List (List UInt8)) :
    readStream platform url maxBytes reading (.ofChunks chunks) =
      if count (reading.total + chunks.flatten.length) ≤ maxBytes then
        .ok (reading.text ++ String.ofList ((reading.decoder.decode chunks.flatten).2 ++
          (reading.decoder.decode chunks.flatten).1.finish))
      else .error (tooLarge platform url maxBytes) := by
  induction chunks generalizing reading with
  | nil => simp [BodyStream.ofChunks, readStream, TextDecoder.decode_nil, hfits]
  | cons value chunks ih =>
      rw [BodyStream.ofChunks, readStream, List.flatten_cons, List.length_append, ← Nat.add_assoc,
        TextDecoder.decode_append]
      dsimp only
      by_cases hvalue : count (reading.total + value.length) ≤ maxBytes
      · rw [if_neg (not_lt.mpr hvalue), ih hvalue]
        simp [String.append_assoc]
      · have hover := not_le.mp hvalue
        have hrest : maxBytes < count (reading.total + value.length + chunks.flatten.length) :=
          hover.trans_le (count_le_count.mpr (Nat.le_add_right _ _))
        rw [if_pos hover, if_neg (not_le.mpr hrest)]

/-! ## The declared length -/

/-- Digits alone denote their value. -/
theorem unsignedDecimal_digits {digits : List Char} (hne : digits ≠ [])
    (hdigits : ∀ c ∈ digits, isDigit c = true) :
    unsignedDecimal digits = some (digitsValue digits : ℚ) := by
  have hwhole : digits.takeWhile isDigit = digits := List.takeWhile_eq_self_iff.mpr hdigits
  have hbehind : digits.dropWhile isDigit = [] := List.dropWhile_eq_nil_iff.mpr hdigits
  simp [unsignedDecimal, hwhole, hbehind, hne, exponentPart]

/-- A digit is neither a sign nor a letter of a number. -/
theorem ne_of_isDigit {c d : Char} (hc : isDigit c = true) (hd : isDigit d = false) : c ≠ d :=
  fun h => absurd (h ▸ hc) (Bool.eq_false_iff.mp hd)

/-- Digits read as a decimal literal with an optional sign are their number. -/
theorem decimalNumber_digits {digits : List Char} (hne : digits ≠ [])
    (hdigits : ∀ c ∈ digits, isDigit c = true) :
    decimalNumber digits = some (numberOf (digitsValue digits)) := by
  cases digits with
  | nil => exact absurd rfl hne
  | cons c digits =>
      have hc : isDigit c = true := hdigits c List.mem_cons_self
      have hminus : c ≠ '-' := ne_of_isDigit hc (by decide)
      have hplus : c ≠ '+' := ne_of_isDigit hc (by decide)
      have hinfinity : c :: digits ≠ "Infinity".toList := fun h =>
        ne_of_isDigit hc (by decide) (List.cons.inj h).1
      simp only [decimalNumber, List.head?_cons, Option.some.injEq, hminus, hplus, or_self,
        if_false, hinfinity, unsignedDecimal_digits hne hdigits, Option.map_some]

/-- Decimal digits are read as their value. -/
theorem toNumber_digits {text : String} (hne : text.toList ≠ [])
    (hdigits : ∀ c ∈ text.toList, isDigit c = true) :
    toNumber text = some (numberOf (digitsValue text.toList)) := by
  have htrim : trim text = text := trim_eq_self fun c hc => isSpace_of_isDigit (hdigits c hc)
  rw [toNumber, htrim]
  split
  · contradiction
  · next c digits hchars =>
      rw [hchars] at hdigits hne ⊢
      have hc : isDigit c = true := hdigits c (by simp)
      have hletter (letter : Char) (hletter : isDigit letter = false) : c ≠ letter :=
        ne_of_isDigit hc hletter
      rw [if_neg, if_neg, if_neg]
      · exact decimalNumber_digits hne hdigits
      · exact not_or.mpr ⟨hletter _ (by decide), hletter _ (by decide)⟩
      · exact not_or.mpr ⟨hletter _ (by decide), hletter _ (by decide)⟩
      · exact not_or.mpr ⟨hletter _ (by decide), hletter _ (by decide)⟩
  · exact decimalNumber_digits hne hdigits

/-- The response declares no length, or the one of a body of so many bytes. -/
def TruthfulLength (headers : List (String × String)) (bytes : Nat) : Prop :=
  ∀ header ∈ headers.lookup "content-length",
    header.toList ≠ [] ∧ (∀ c ∈ header.toList, isDigit c = true) ∧
      digitsValue header.toList = bytes

/-- A body within the cap is not declared to be more. -/
theorem declaresTooMuch_of_truthful {headers : List (String × String)} {bytes : Nat}
    {maxBytes : Num} (hlength : TruthfulLength headers bytes)
    (hpositive : ((0 : ℚ) : Num) < maxBytes) (hfits : count bytes ≤ maxBytes) :
    declaresTooMuch headers maxBytes = false := by
  have hwithin {declared : Num} (h : declared = ⊤ ∨ declared ≤ maxBytes) :
      (declared ≠ ⊤ && declared ≠ ⊥ && maxBytes < declared) = false := by
    rcases h with rfl | h
    · simp
    · simp [h]
  rw [declaresTooMuch, declaredLength]
  cases hheader : headers.lookup "content-length" with
  | none => exact hwithin (.inr (le_of_lt hpositive))
  | some header =>
      obtain ⟨hne, hdigits, hvalue⟩ := hlength header hheader
      dsimp only
      rw [toNumber_digits hne hdigits, hvalue, Option.any_some]
      -- A number of bytes that no double reaches is read as infinite, and declares nothing.
      by_cases hbytes : (bytes : ℚ) < infinityThreshold
      · rw [numberOf_of_lt (Nat.cast_nonneg bytes) hbytes]
        exact hwithin (.inr hfits)
      · rw [numberOf_of_le (not_lt.mp hbytes)]
        exact hwithin (.inl rfl)

/-- Where a body that was declared truthfully is read within the cap, the declared
length makes no difference. -/
theorem readCapped_eq {headers : List (String × String)} {bytes : Nat} {maxBytes : Num}
    (hlength : TruthfulLength headers bytes) (hpositive : ((0 : ℚ) : Num) < maxBytes)
    {error : Thrown} {text : String} {reading : Except Thrown String}
    (hreading : reading = if count bytes ≤ maxBytes then .ok text else .error error) :
    (if declaresTooMuch headers maxBytes then .error error else reading) =
      if count bytes ≤ maxBytes then .ok text else .error error := by
  by_cases hfits : count bytes ≤ maxBytes
  · rw [declaresTooMuch_of_truthful hlength hpositive hfits, if_neg Bool.false_ne_true, hreading]
  · rw [hreading, if_neg hfits, ite_self]

/-- A body that encodes a text is accepted if it has no more bytes than the cap, however
it is cut into chunks and also where the runtime hands the text over at once; it is read
as the text.  Counting the bytes by hand is encoding, for lone surrogates too. -/
theorem readCapped_agree (platform : Platform) (hasTextEncoder : Bool) (response : Response)
    (url : String) {maxBytes : Num} (hpositive : ((0 : ℚ) : Num) < maxBytes) {text : String}
    (hmark : text.toList.head? ≠ some TextDecoder.byteOrderMark)
    {chunks : List (List UInt8)} (hchunks : chunks.flatten = utf8 text)
    (hlength : TruthfulLength response.headers (utf8 text).length) :
    readCapped platform hasTextEncoder response (.stream (.ofChunks chunks)) url maxBytes =
        (if count (utf8 text).length ≤ maxBytes then .ok text
          else .error (tooLarge platform url maxBytes)) ∧
      readCapped platform hasTextEncoder response
          (.text (.ok (String.ofList (TextDecoder.decodeAll chunks.flatten)))) url maxBytes =
        (if count (utf8 text).length ≤ maxBytes then .ok text
          else .error (tooLarge platform url maxBytes)) ∧
      ∀ units, countByHand units = (textEncode units).length := by
  have hdecoded : TextDecoder.decodeAll chunks.flatten = text.toList := by
    rw [hchunks, utf8, TextDecoder.decodeAll_encode hmark]
  have hstream : readStream platform url maxBytes {} (.ofChunks chunks) =
      if count (utf8 text).length ≤ maxBytes then .ok text
      else .error (tooLarge platform url maxBytes) := by
    have hempty : count 0 ≤ maxBytes := le_of_lt hpositive
    rw [readStream_ofChunks platform url hempty]
    dsimp only
    rw [← TextDecoder.decodeAll, hdecoded, String.ofList_toList, String.empty_append,
      Nat.zero_add, hchunks]
  refine ⟨readCapped_eq hlength hpositive hstream, ?_, countByHand_eq_length_textEncode⟩
  rw [hdecoded, String.ofList_toList]
  exact readCapped_eq hlength hpositive (capText_eq platform hasTextEncoder url maxBytes text)

/-- Four bytes, cut within a character, at a cap of four. -/
theorem readCapped_agree_euro :
    let platform := PlatformTable.platform {}
    let response : Response :=
      { type := "basic"
        status := 200
        url := "https://a.example/x"
        headers := [("content-length", "4")] }
    let chunks : List (List UInt8) := [[0x31, 0xE2], [0x82, 0xAC]]
    readCapped platform false response (.stream (.ofChunks chunks)) response.url (count 4) =
        .ok "1€" ∧
      readCapped platform false response
          (.text (.ok (String.ofList (TextDecoder.decodeAll chunks.flatten)))) response.url
          (count 4) =
        .ok "1€" ∧
      countByHand (unitsOf "1€") = 4 := by
  intro platform response chunks
  have hbytes : utf8 "1€" = [0x31, 0xE2, 0x82, 0xAC] := by decide
  have hfits : count (utf8 "1€").length ≤ count 4 := by
    rw [hbytes, count_le_count]
    exact le_rfl
  have hpositive : count 0 < count 4 := count_lt_count.mpr (by omega)
  have hmark : "1€".toList.head? ≠ some TextDecoder.byteOrderMark := by decide
  have hchunks : chunks.flatten = utf8 "1€" := hbytes.symm
  have hlength : TruthfulLength response.headers (utf8 "1€").length := by
    intro header hheader
    have hfour : header = "4" := (Option.some.inj hheader).symm
    have hdigits : "4".toList = ['4'] := rfl
    rw [hfour, hdigits, hbytes]
    simp [isDigit, digitsValue]
  obtain ⟨hstream, htext, hcount⟩ :=
    readCapped_agree platform false response response.url hpositive hmark hchunks hlength
  rw [if_pos hfits] at hstream htext
  refine ⟨hstream, htext, ?_⟩
  rw [hcount, textEncode_unitsOf, hbytes]
  rfl

end VerifierCore
