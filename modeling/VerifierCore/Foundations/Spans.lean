import Mathlib.Algebra.Order.BigOperators.Group.List
import Mathlib.Algebra.Order.Group.Defs
import Mathlib.Tactic.Abel

/-!
# Spans of readings

A list of clock readings spans what lies between its first and its last.  Of readings
that never go back, consecutive pieces span no more together than the whole.

Main results:

- Theorem {lit}`span_add_le`: two consecutive pieces.
- Theorem {lit}`sum_span_le`: any number of them.
- Theorem {lit}`span_part_le`: a piece and the whole.
-/

namespace Foundations

/-! ## Readings that never go back -/

section

variable {α : Type} [Preorder α]

/-- No reading is below an earlier one. -/
def NeverBack (readings : List α) : Prop :=
  readings.Pairwise (· ≤ ·)

variable {readings : List α}

/-- A part of readings that never go back does not go back. -/
theorem NeverBack.of_sublist (h : NeverBack readings) {others : List α}
    (hsub : others.Sublist readings) : NeverBack others :=
  List.Pairwise.sublist hsub h

theorem NeverBack.of_infix (h : NeverBack readings) {piece : List α}
    (hinside : piece <:+: readings) : NeverBack piece :=
  h.of_sublist hinside.sublist

/-- The first reading is the least. -/
theorem NeverBack.head_le (h : NeverBack readings) {first reading : α}
    (hfirst : readings.head? = some first) (hmem : reading ∈ readings) : first ≤ reading := by
  cases readings with
  | nil => cases hmem
  | cons a later =>
      rw [List.head?_cons, Option.some.injEq] at hfirst
      subst hfirst
      rcases List.mem_cons.mp hmem with rfl | hlater
      · exact le_refl reading
      · exact List.rel_of_pairwise_cons h hlater

/-- The last reading is the greatest. -/
theorem NeverBack.le_getLast (h : NeverBack readings) {last reading : α}
    (hlast : readings.getLast? = some last) (hmem : reading ∈ readings) : reading ≤ last := by
  rcases List.getLast?_eq_some_iff.mp hlast with ⟨earlier, rfl⟩
  rcases List.mem_append.mp hmem with hearlier | hself
  · exact (List.pairwise_append.mp h).2.2 reading hearlier last List.mem_cons_self
  · rw [List.mem_singleton.mp hself]

end

/-! ## Spans -/

variable {α : Type} [AddCommGroup α] [LinearOrder α] [IsOrderedAddMonoid α]

/-- What lies between the first reading and the last. -/
def span : List α → α
  | [] => 0
  | first :: later => (first :: later).getLast (List.cons_ne_nil first later) - first

/-- Readings that never go back span no negative time. -/
theorem span_nonneg {readings : List α} (h : NeverBack readings) : 0 ≤ span readings := by
  cases readings with
  | nil => exact le_refl 0
  | cons first later =>
      rw [span, sub_nonneg]
      exact h.head_le rfl (List.getLast_mem _)

/-- Two consecutive pieces span no more together than the whole. -/
theorem span_add_le {front back : List α} (h : NeverBack (front ++ back)) :
    span front + span back ≤ span (front ++ back) := by
  rcases front with _ | ⟨a, front⟩
  · simp [span]
  · rcases back with _ | ⟨b, back⟩
    · simp [span]
    · have hbetween : (a :: front).getLast (List.cons_ne_nil a front) ≤ b :=
        (List.pairwise_append.mp h).2.2 _ (List.getLast_mem _) b List.mem_cons_self
      have hlast : ((a :: front) ++ b :: back).getLast (by simp) =
          (b :: back).getLast (List.cons_ne_nil b back) :=
        List.getLast_append_of_ne_nil _ _
      simp only [span, List.cons_append] at hlast ⊢
      rw [hlast]
      calc (a :: front).getLast (List.cons_ne_nil a front) - a +
            ((b :: back).getLast (List.cons_ne_nil b back) - b)
          ≤ b - a + ((b :: back).getLast (List.cons_ne_nil b back) - b) := by
            gcongr
        _ = (b :: back).getLast (List.cons_ne_nil b back) - a := by abel

/-- Pieces that follow each other span no more together than the whole. -/
theorem sum_span_le {pieces : List (List α)} (h : NeverBack pieces.flatten) :
    (pieces.map span).sum ≤ span pieces.flatten := by
  induction pieces with
  | nil => exact le_refl 0
  | cons piece pieces ih =>
      rw [List.flatten_cons] at h ⊢
      have hrest := ih (h.of_sublist (List.sublist_append_right _ _))
      calc span piece + (pieces.map span).sum
          ≤ span piece + span pieces.flatten := by gcongr
        _ ≤ span (piece ++ pieces.flatten) := span_add_le h

/-- A piece spans no more than the whole. -/
theorem span_part_le {piece readings : List α} (h : NeverBack readings)
    (hinside : piece <:+: readings) : span piece ≤ span readings := by
  rcases hinside with ⟨before, after, rfl⟩
  have hfront := h.of_sublist (List.sublist_append_left (before ++ piece) after)
  calc span piece
      ≤ span before + span piece :=
        le_add_of_nonneg_left (span_nonneg (h.of_sublist (by simp)))
    _ ≤ span (before ++ piece) := span_add_le hfront
    _ ≤ span (before ++ piece) + span after :=
        le_add_of_nonneg_right (span_nonneg (h.of_sublist (List.sublist_append_right _ _)))
    _ ≤ span (before ++ piece ++ after) := span_add_le h

end Foundations
