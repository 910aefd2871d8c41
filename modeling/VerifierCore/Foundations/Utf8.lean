import Mathlib.Data.List.Basic
import Mathlib.Tactic.SplitIfs

/-!
# Decoding UTF-8 piece by piece

A decoder that is fed bytes and emits characters, with a replacement character for
every sequence that is no encoding.  It keeps what it has read of a character between
two pieces, so it does not matter where a text is cut.  The front of a stream may be a
byte-order mark, which is dropped.

Main results:

- Theorem {lit}`Utf8Decoder.feed_encode`: the decoder reads encoded characters back.
- Theorem {lit}`TextDecoder.decode_append`: two pieces are decoded like one.
- Theorem {lit}`TextDecoder.decodeAll_encode`: encoded text is read back, unless it starts
  with a byte-order mark.
-/

namespace Foundations

/-! ## One character after the other -/

/-- The decoder between two bytes: the bits of the character it is in, how many bytes
that still needs, and the bounds of the next one. -/
structure Utf8Decoder where
  codePoint : Nat := 0
  needed : Nat := 0
  lower : Nat := 0x80
  upper : Nat := 0xBF
deriving DecidableEq

namespace Utf8Decoder

/-- What is emitted for bytes that encode nothing. -/
def replacement : Char :=
  Char.ofNat 0xFFFD

/-- A byte between two characters. -/
def start (byte : Nat) : Utf8Decoder × List Char :=
  if byte ≤ 0x7F then ({}, [Char.ofNat byte])
  else if 0xC2 ≤ byte ∧ byte ≤ 0xDF then ({ codePoint := byte % 0x20, needed := 1 }, [])
  else if 0xE0 ≤ byte ∧ byte ≤ 0xEF then
    ({ codePoint := byte % 0x10
       needed := 2
       lower := if byte = 0xE0 then 0xA0 else 0x80
       upper := if byte = 0xED then 0x9F else 0xBF }, [])
  else if 0xF0 ≤ byte ∧ byte ≤ 0xF4 then
    ({ codePoint := byte % 0x8
       needed := 3
       lower := if byte = 0xF0 then 0x90 else 0x80
       upper := if byte = 0xF4 then 0x8F else 0xBF }, [])
  else ({}, [replacement])

/-- One byte.  A byte that cannot go on with the character ends it, and is read again
as one between two characters. -/
def step (decoder : Utf8Decoder) (byte : Nat) : Utf8Decoder × List Char :=
  if decoder.needed = 0 then start byte
  else if byte < decoder.lower ∨ decoder.upper < byte then
    ((start byte).1, replacement :: (start byte).2)
  else
    let codePoint := decoder.codePoint * 0x40 + byte % 0x40
    if decoder.needed = 1 then ({}, [Char.ofNat codePoint])
    else ({ codePoint := codePoint, needed := decoder.needed - 1 }, [])

/-- A piece of bytes, with the characters that end in it. -/
def feed (decoder : Utf8Decoder) : List UInt8 → Utf8Decoder × List Char
  | [] => (decoder, [])
  | byte :: bytes =>
      let stepped := decoder.step byte.toNat
      let rest := feed stepped.1 bytes
      (rest.1, stepped.2 ++ rest.2)

/-- The end of the bytes: a character that still needs some is replaced. -/
def finish (decoder : Utf8Decoder) : List Char :=
  if decoder.needed = 0 then [] else [replacement]

/-- No bytes decode to no characters. -/
@[simp]
theorem feed_nil (decoder : Utf8Decoder) : decoder.feed [] = (decoder, []) :=
  rfl

/-- A byte is fed before the ones behind it. -/
theorem feed_cons (decoder : Utf8Decoder) (byte : UInt8) (bytes : List UInt8) :
    decoder.feed (byte :: bytes) =
      (((decoder.step byte.toNat).1.feed bytes).1,
        (decoder.step byte.toNat).2 ++ ((decoder.step byte.toNat).1.feed bytes).2) :=
  rfl

/-- Bytes decode to the same characters wherever they are cut. -/
theorem feed_append (decoder : Utf8Decoder) (front back : List UInt8) :
    decoder.feed (front ++ back) =
      (((decoder.feed front).1.feed back).1,
        (decoder.feed front).2 ++ ((decoder.feed front).1.feed back).2) := by
  induction front generalizing decoder with
  | nil => simp
  | cons byte front ih => simp only [List.cons_append, feed_cons, ih, List.append_assoc]

/-! ## Encoded characters -/

/-- A decoder with nothing pending starts anew. -/
theorem step_start (byte : Nat) : ({} : Utf8Decoder).step byte = start byte :=
  rfl

/-- The decoder within a character, between its plain bytes. -/
def within (codePoint needed : Nat) : Utf8Decoder :=
  { codePoint := codePoint, needed := needed }

/-- A byte within the bounds goes on with the character: it holds six bits. -/
theorem step_of_needed {decoder : Utf8Decoder} {needed bits : Nat}
    (hneeded : decoder.needed = needed + 1) (hbits : bits < 0x40)
    (hlower : decoder.lower ≤ bits + 0x80) (hupper : bits + 0x80 ≤ decoder.upper) :
    decoder.step (bits + 0x80) =
      if needed = 0 then ({}, [Char.ofNat (decoder.codePoint * 0x40 + bits)])
      else (within (decoder.codePoint * 0x40 + bits) needed, []) := by
  have hbyte : (bits + 0x80) % 0x40 = bits := by omega
  rw [step, if_neg (by omega), if_neg (by omega), hbyte, hneeded]
  simp [within]

/-- Behind the second byte the bounds are those of any byte that goes on. -/
theorem step_within {codePoint needed bits : Nat} (hbits : bits < 0x40) :
    (within codePoint (needed + 1)).step (bits + 0x80) =
      if needed = 0 then ({}, [Char.ofNat (codePoint * 0x40 + bits)])
      else (within (codePoint * 0x40 + bits) needed, []) :=
  step_of_needed rfl hbits (Nat.le_add_left _ _) (by simp only [within]; omega)

/-- A number below 256 is kept as a byte. -/
theorem toNat_ofNat_lt {n : Nat} (h : n < 0x100) : (UInt8.ofNat n).toNat = n := by
  rw [UInt8.toNat_ofNat']
  exact Nat.mod_eq_of_lt h

/-- A character of one byte is decoded from its encoding. -/
theorem feed_utf8EncodeChar_one {c : Char} (h : c.toNat ≤ 0x7F) :
    ({} : Utf8Decoder).feed [UInt8.ofNat c.toNat] = ({}, [c]) := by
  rw [feed_cons, toNat_ofNat_lt (by omega), step_start, start, if_pos h, feed_nil,
    Char.ofNat_toNat]
  rfl

/-- A character of two bytes is decoded from its encoding. -/
theorem feed_utf8EncodeChar_two {c : Char} (hlower : 0x7F < c.toNat) (hupper : c.toNat ≤ 0x7FF) :
    ({} : Utf8Decoder).feed
        [UInt8.ofNat (c.toNat / 64 % 0x20 + 0xC0), UInt8.ofNat (c.toNat % 0x40 + 0x80)] =
      ({}, [c]) := by
  have hstart : start (c.toNat / 64 % 0x20 + 0xC0) = (within (c.toNat / 64) 1, []) := by
    have hbits : (c.toNat / 64 % 0x20 + 0xC0) % 0x20 = c.toNat / 64 := by omega
    rw [start, if_neg (by omega), if_pos (by omega), hbits]
    rfl
  have hvalue : c.toNat / 64 * 0x40 + c.toNat % 0x40 = c.toNat := by omega
  rw [feed_cons, toNat_ofNat_lt (by omega), step_start, hstart, feed_cons,
    toNat_ofNat_lt (by omega), step_within (by omega), if_pos rfl, hvalue, Char.ofNat_toNat]
  rfl

/-- A character of three bytes is decoded from its encoding. -/
theorem feed_utf8EncodeChar_three {c : Char} (hlower : 0x7FF < c.toNat)
    (hupper : c.toNat ≤ 0xFFFF) :
    ({} : Utf8Decoder).feed
        [UInt8.ofNat (c.toNat / 4096 % 0x10 + 0xE0), UInt8.ofNat (c.toNat / 64 % 0x40 + 0x80),
          UInt8.ofNat (c.toNat % 0x40 + 0x80)] =
      ({}, [c]) := by
  have hvalid : c.toNat < 0xD800 ∨ 0xDFFF < c.toNat ∧ c.toNat < 0x110000 := c.valid
  generalize hfirst : c.toNat / 4096 % 0x10 + 0xE0 = first
  have hstart : start first =
      ({ codePoint := c.toNat / 4096
         needed := 2
         lower := if first = 0xE0 then 0xA0 else 0x80
         upper := if first = 0xED then 0x9F else 0xBF }, []) := by
    have hbits : first % 0x10 = c.toNat / 4096 := by omega
    rw [start, if_neg (by omega), if_neg (by omega), if_pos (by omega), hbits]
  -- The bounds exclude longer encodings than needed, and surrogates.
  have hsecond : Utf8Decoder.step
      { codePoint := c.toNat / 4096
        needed := 2
        lower := if first = 0xE0 then 0xA0 else 0x80
        upper := if first = 0xED then 0x9F else 0xBF } (c.toNat / 64 % 0x40 + 0x80) =
      (within (c.toNat / 64) 1, []) := by
    have hvalue : c.toNat / 4096 * 0x40 + c.toNat / 64 % 0x40 = c.toNat / 64 := by omega
    rw [step_of_needed rfl (by omega) (by dsimp only; split_ifs <;> omega)
      (by dsimp only; split_ifs <;> omega), if_neg Nat.one_ne_zero, hvalue]
  have hvalue : c.toNat / 64 * 0x40 + c.toNat % 0x40 = c.toNat := by omega
  rw [feed_cons, toNat_ofNat_lt (by omega), step_start, hstart, feed_cons,
    toNat_ofNat_lt (by omega), hsecond, feed_cons, toNat_ofNat_lt (by omega),
    step_within (by omega), if_pos rfl, hvalue, Char.ofNat_toNat]
  rfl

/-- A character of four bytes is decoded from its encoding. -/
theorem feed_utf8EncodeChar_four {c : Char} (hlower : 0xFFFF < c.toNat) :
    ({} : Utf8Decoder).feed
        [UInt8.ofNat (c.toNat / 262144 % 0x08 + 0xF0), UInt8.ofNat (c.toNat / 4096 % 0x40 + 0x80),
          UInt8.ofNat (c.toNat / 64 % 0x40 + 0x80), UInt8.ofNat (c.toNat % 0x40 + 0x80)] =
      ({}, [c]) := by
  have hvalid : c.toNat < 0xD800 ∨ 0xDFFF < c.toNat ∧ c.toNat < 0x110000 := c.valid
  generalize hfirst : c.toNat / 262144 % 0x08 + 0xF0 = first
  have hstart : start first =
      ({ codePoint := c.toNat / 262144
         needed := 3
         lower := if first = 0xF0 then 0x90 else 0x80
         upper := if first = 0xF4 then 0x8F else 0xBF }, []) := by
    have hbits : first % 0x8 = c.toNat / 262144 := by omega
    rw [start, if_neg (by omega), if_neg (by omega), if_neg (by omega), if_pos (by omega), hbits]
  -- The bounds exclude longer encodings than needed, and numbers past the last character.
  have hsecond : Utf8Decoder.step
      { codePoint := c.toNat / 262144
        needed := 3
        lower := if first = 0xF0 then 0x90 else 0x80
        upper := if first = 0xF4 then 0x8F else 0xBF } (c.toNat / 4096 % 0x40 + 0x80) =
      (within (c.toNat / 4096) 2, []) := by
    have hvalue : c.toNat / 262144 * 0x40 + c.toNat / 4096 % 0x40 = c.toNat / 4096 := by omega
    rw [step_of_needed rfl (by omega) (by dsimp only; split_ifs <;> omega)
      (by dsimp only; split_ifs <;> omega), if_neg (by omega), hvalue]
  have hthird : c.toNat / 4096 * 0x40 + c.toNat / 64 % 0x40 = c.toNat / 64 := by omega
  have hvalue : c.toNat / 64 * 0x40 + c.toNat % 0x40 = c.toNat := by omega
  rw [feed_cons, toNat_ofNat_lt (by omega), step_start, hstart, feed_cons,
    toNat_ofNat_lt (by omega), hsecond, feed_cons, toNat_ofNat_lt (by omega),
    step_within (by omega), if_neg Nat.one_ne_zero, hthird, feed_cons, toNat_ofNat_lt (by omega),
    step_within (by omega), if_pos rfl, hvalue, Char.ofNat_toNat]
  rfl

/-- Between two characters, the decoder reads the encoding of one back. -/
theorem feed_utf8EncodeChar (c : Char) :
    ({} : Utf8Decoder).feed (String.utf8EncodeChar c) = ({}, [c]) := by
  have hnat : c.val.toNat = c.toNat := rfl
  unfold String.utf8EncodeChar
  dsimp only
  rw [hnat]
  split_ifs with hone htwo hthree
  · exact feed_utf8EncodeChar_one hone
  · exact feed_utf8EncodeChar_two (by omega) htwo
  · exact feed_utf8EncodeChar_three (by omega) hthree
  · exact feed_utf8EncodeChar_four (by omega)

/-- The decoder reads encoded characters back. -/
theorem feed_encode (chars : List Char) :
    ({} : Utf8Decoder).feed (chars.flatMap String.utf8EncodeChar) = ({}, chars) := by
  induction chars with
  | nil => rfl
  | cons c chars ih => rw [List.flatMap_cons, feed_append, feed_utf8EncodeChar, ih]; rfl

end Utf8Decoder

/-! ## Byte-order marks -/

/-- A decoder of a text, which drops a byte-order mark in front. -/
structure TextDecoder where
  decoder : Utf8Decoder := {}
  bomSeen : Bool := false
deriving DecidableEq

namespace TextDecoder

/-- The mark that may stand in front of a text. -/
def byteOrderMark : Char :=
  Char.ofNat 0xFEFF

/-- The characters without a byte-order mark that is the first of all. -/
def emit (bomSeen : Bool) : List Char → Bool × List Char
  | [] => (bomSeen, [])
  | c :: chars => (true, if bomSeen = false ∧ c = byteOrderMark then chars else c :: chars)

/-- A piece of bytes. -/
def decode (decoder : TextDecoder) (bytes : List UInt8) : TextDecoder × List Char :=
  let fed := decoder.decoder.feed bytes
  let emitted := emit decoder.bomSeen fed.2
  ({ decoder := fed.1, bomSeen := emitted.1 }, emitted.2)

/-- The end of the bytes. -/
def finish (decoder : TextDecoder) : List Char :=
  (emit decoder.bomSeen decoder.decoder.finish).2

/-- All bytes at once. -/
def decodeAll (bytes : List UInt8) : List Char :=
  (({} : TextDecoder).decode bytes).2 ++ (({} : TextDecoder).decode bytes).1.finish

/-- Characters are emitted piece by piece. -/
theorem emit_append (bomSeen : Bool) (front back : List Char) :
    emit bomSeen (front ++ back) =
      ((emit (emit bomSeen front).1 back).1,
        (emit bomSeen front).2 ++ (emit (emit bomSeen front).1 back).2) := by
  cases front with
  | nil => rfl
  | cons c front =>
      cases back with
      | nil => simp [emit]
      | cons d back =>
          simp only [List.cons_append, emit, Bool.true_eq_false, false_and, if_false]
          split_ifs
          · rfl
          · rfl

@[simp]
theorem decode_nil (decoder : TextDecoder) : decoder.decode [] = (decoder, []) :=
  rfl

/-- Two pieces are decoded like one. -/
theorem decode_append (decoder : TextDecoder) (front back : List UInt8) :
    decoder.decode (front ++ back) =
      (((decoder.decode front).1.decode back).1,
        (decoder.decode front).2 ++ ((decoder.decode front).1.decode back).2) := by
  simp only [decode, Utf8Decoder.feed_append, emit_append]

/-- Encoded text is read back, unless it starts with a byte-order mark. -/
theorem decodeAll_encode {chars : List Char} (h : chars.head? ≠ some byteOrderMark) :
    decodeAll (chars.flatMap String.utf8EncodeChar) = chars := by
  have hemit : (emit false chars).2 = chars := by
    cases chars with
    | nil => rfl
    | cons c chars =>
        have hc : ¬c = byteOrderMark := by simpa using h
        simp [emit, hc]
  simp only [decodeAll, decode, finish, Utf8Decoder.feed_encode, Utf8Decoder.finish, hemit]
  simp [emit]

end TextDecoder

end Foundations
