import Mathlib.Data.Nat.Bitwise

/-!
# Prefix blocks of numbers

A block of numbers of fixed width is given by a network and the length of its prefix.  A
bit mask decides whether a number lies in it; here the blocks are intervals, and the mask
is shown to decide just that.

Main results:

- Theorem {lit}`and_highMask`: what a mask of leading ones leaves of a number.
- Theorem {lit}`Block.and_mask_eq_iff`: the numbers a mask leaves the network of are those
  of its interval.
-/

namespace Foundations

/-- The mask of `width` bits whose last `free` ones are zero. -/
def highMask (width free : Nat) : Nat :=
  (2 ^ (width - free) - 1) <<< free

/-- The mask clears the free bits. -/
theorem and_highMask {width free n : Nat} (hfree : free ≤ width) (h : n < 2 ^ width) :
    n &&& highMask width free = 2 ^ free * (n / 2 ^ free) := by
  have hquotient : n / 2 ^ free < 2 ^ (width - free) := by
    rw [Nat.div_lt_iff_lt_mul (Nat.two_pow_pos free), ← pow_add, Nat.sub_add_cancel hfree]
    exact h
  apply Nat.eq_of_testBit_eq
  intro i
  rw [highMask, Nat.testBit_and, Nat.testBit_shiftLeft, Nat.testBit_two_pow_sub_one,
    Nat.testBit_two_pow_mul, Nat.testBit_div_two_pow]
  by_cases hi : free ≤ i
  · by_cases hhigh : i - free < width - free
    · simp [hi, hhigh]
    · have hlarge : n < 2 ^ i := lt_of_lt_of_le h (Nat.pow_le_pow_right (by omega) (by omega))
      simp [hi, hhigh, Nat.testBit_lt_two_pow hlarge]
  · simp [hi]

/-- A network of numbers of `width` bits: those that begin with the same bits as the
network, as many as the prefix is long.  The bits behind the prefix are zero. -/
structure Block (width : Nat) where
  network : Nat
  length : Nat
  aligned : 2 ^ (width - length) ∣ network := by decide

namespace Block

variable {width : Nat}

/-- As many numbers from the network on as the bits behind the prefix allow. -/
def Contains (block : Block width) (n : Nat) : Prop :=
  block.network ≤ n ∧ n < block.network + 2 ^ (width - block.length)

instance (block : Block width) (n : Nat) : Decidable (block.Contains n) :=
  inferInstanceAs (Decidable (_ ∧ _))

/-- The mask of the prefix. -/
def mask (block : Block width) : Nat :=
  highMask width (width - block.length)

/-- What is left of a number under the mask is the network exactly if the number lies in
the block. -/
theorem and_mask_eq_iff (block : Block width) {n : Nat} (h : n < 2 ^ width) :
    n &&& block.mask = block.network ↔ block.Contains n := by
  rcases block with ⟨network, length, aligned⟩
  rcases aligned with ⟨bits, rfl⟩
  have hpositive := Nat.two_pow_pos (width - length)
  dsimp only [Contains, mask]
  rw [and_highMask (Nat.sub_le width length) h, Nat.mul_right_inj (by omega), ← Nat.mul_succ]
  constructor
  · intro heq
    rw [← heq]
    exact ⟨Nat.mul_div_le n _, Nat.lt_mul_div_succ n hpositive⟩
  · intro hblock
    apply Nat.div_eq_of_lt_le
    · rw [Nat.mul_comm]
      exact hblock.1
    · rw [Nat.mul_comm]
      exact hblock.2

end Block

end Foundations
