import Mathlib.Data.Nat.Digits.Lemmas

/-!
# Numerals

The shortest numeral of a number in a base, most significant digit first, and reading
it back by the usual fold.

Main results:

- Theorem {lit}`foldl_positional`: the digits of a number, folded, give the number.
-/

namespace Foundations

/-- The digits of a number, most significant first; zero has one digit. -/
def positional (base n : Nat) : List Nat :=
  if n = 0 then [0] else (Nat.digits base n).reverse

/-- The digits of a number fold back to it. -/
theorem foldl_positional (base n : Nat) :
    (positional base n).foldl (fun value digit => base * value + digit) 0 = n := by
  unfold positional
  split_ifs with hzero
  · simp [hzero]
  · rw [List.foldl_reverse]
    have hdigits := Nat.ofDigits_digits base n
    rw [Nat.ofDigits_eq_foldr] at hdigits
    simpa [Nat.add_comm] using hdigits

theorem positional_ne_nil (base n : Nat) : positional base n ≠ [] := by
  unfold positional
  split_ifs with hzero
  · simp
  · rw [ne_eq, List.reverse_eq_nil_iff]
    exact Nat.digits_ne_nil_iff_ne_zero.mpr hzero

/-- A digit is below the base. -/
theorem lt_of_mem_positional {base n digit : Nat} (hbase : 1 < base)
    (h : digit ∈ positional base n) : digit < base := by
  unfold positional at h
  split_ifs at h with hzero
  · rw [List.mem_singleton] at h
    omega
  · exact Nat.digits_lt_base hbase (List.mem_reverse.mp h)

/-- A number below a power of the base has no more digits than the exponent. -/
theorem length_positional_le {base n count : Nat} (hbase : 1 < base) (hcount : 0 < count)
    (h : n < base ^ count) : (positional base n).length ≤ count := by
  unfold positional
  split_ifs with hzero
  · exact hcount
  · rw [List.length_reverse]
    exact (Nat.digits_length_le_iff hbase n).mpr h

/-- The numeral of a number, with lower-case letters behind the digits. -/
def numeral (base n : Nat) : List Char :=
  (positional base n).map Nat.digitChar

theorem numeral_ne_nil (base n : Nat) : numeral base n ≠ [] := by
  simp [numeral, positional_ne_nil]

/-- A number below a power of the base is written with no more characters than the exponent. -/
theorem length_numeral_le {base n count : Nat} (hbase : 1 < base) (hcount : 0 < count)
    (h : n < base ^ count) : (numeral base n).length ≤ count := by
  rw [numeral, List.length_map]
  exact length_positional_le hbase hcount h

/-- The characters of a numeral are the digits of its base. -/
theorem exists_digit_of_mem_numeral {base n : Nat} {c : Char} (hbase : 1 < base)
    (h : c ∈ numeral base n) : ∃ digit, digit < base ∧ c = Nat.digitChar digit := by
  rcases List.mem_map.mp h with ⟨digit, hdigit, rfl⟩
  exact ⟨digit, lt_of_mem_positional hbase hdigit, rfl⟩

/-- A function that reads the digits of a base back turns a numeral into its digits. -/
theorem map_numeral {α : Type} {base n : Nat} {read : Char → α} {value : Nat → α}
    (hbase : 1 < base) (hread : ∀ digit < base, read (Nat.digitChar digit) = value digit) :
    (numeral base n).map read = (positional base n).map value := by
  rw [numeral, List.map_map]
  apply List.map_congr_left
  intro digit hdigit
  exact hread digit (lt_of_mem_positional hbase hdigit)

end Foundations
