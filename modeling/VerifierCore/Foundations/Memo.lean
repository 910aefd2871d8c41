import Mathlib.Data.Set.Function
import Mathlib.Data.List.Nodup

/-!
# Memoized computations

A computation that may fail is looked up in a table first.  Its result is kept under a key
of its argument, and a failure is not kept.

Main results:

- Theorem {lit}`memoized_eq`: with a faithful table the result is the computed one.
- Theorems {lit}`memoized_faithful` and {lit}`memoized_wellKeyed`: the table stays faithful,
  and keeps each key once.
- Theorem {lit}`runMemoized_invariant`: many requests in a row.
-/

namespace Foundations

variable {α κ β ε : Type}

/-- The results that were kept. -/
abbrev MemoTable (κ β : Type) : Type :=
  List (κ × β)

section

variable [DecidableEq κ]

/-- Look the key of an argument up, or compute its result and keep it. -/
def memoized (compute : α → Except ε β) (key : α → κ) (a : α) (table : MemoTable κ β) :
    Except ε β × MemoTable κ β :=
  match table.lookup (key a) with
  | some b => (.ok b, table)
  | none =>
      match compute a with
      | .ok b => (.ok b, (key a, b) :: table)
      | .error e => (.error e, table)

/-- What is kept for an argument of the domain is what is computed for it. -/
def MemoTable.Faithful (compute : α → Except ε β) (key : α → κ) (domain : Set α)
    (table : MemoTable κ β) : Prop :=
  ∀ a ∈ domain, ∀ b, table.lookup (key a) = some b → compute a = .ok b

theorem MemoTable.faithful_nil (compute : α → Except ε β) (key : α → κ) (domain : Set α) :
    MemoTable.Faithful compute key domain [] := by
  intro a _ b hlookup
  cases hlookup

variable {compute : α → Except ε β} {key : α → κ} {domain : Set α} {table : MemoTable κ β}

/-- A faithful table does not show in the result. -/
theorem memoized_eq (hfaithful : table.Faithful compute key domain) {a : α} (ha : a ∈ domain) :
    (memoized compute key a table).1 = compute a := by
  unfold memoized
  cases hlookup : table.lookup (key a) with
  | some b => exact (hfaithful a ha b hlookup).symm
  | none => cases hcompute : compute a <;> rfl

/-- A table stays faithful where different arguments have different keys. -/
theorem memoized_faithful (hkey : Set.InjOn key domain)
    (hfaithful : table.Faithful compute key domain) {a : α} (ha : a ∈ domain) :
    (memoized compute key a table).2.Faithful compute key domain := by
  unfold memoized
  cases hlookup : table.lookup (key a) with
  | some b => exact hfaithful
  | none =>
      cases hcompute : compute a with
      | error e => exact hfaithful
      | ok b =>
          intro other hother b' hfound
          rw [List.lookup_cons] at hfound
          by_cases hsame : key other = key a
          · rw [beq_iff_eq.mpr hsame] at hfound
            rw [hkey hother ha hsame, hcompute, Option.some.inj hfound]
          · rw [beq_eq_false_iff_ne.mpr hsame] at hfound
            exact hfaithful other hother b' hfound

/-- The keys of a table are different, and come from the domain. -/
structure MemoTable.WellKeyed (key : α → κ) (domain : Set α) (table : MemoTable κ β) : Prop where
  nodup : (table.map Prod.fst).Nodup
  keys : ∀ k ∈ table.map Prod.fst, ∃ a ∈ domain, k = key a

/-- A lookup leaves the table well keyed. -/
theorem memoized_wellKeyed (hkeyed : table.WellKeyed key domain) {a : α} (ha : a ∈ domain) :
    (memoized compute key a table).2.WellKeyed key domain := by
  unfold memoized
  cases hlookup : table.lookup (key a) with
  | some b => exact hkeyed
  | none =>
      cases hcompute : compute a with
      | error e => exact hkeyed
      | ok b =>
          have hnew : key a ∉ table.map Prod.fst := by
            intro hmem
            rcases List.mem_map.mp hmem with ⟨entry, hentry, heq⟩
            have hne := List.lookup_eq_none_iff.mp hlookup entry hentry
            rw [heq, bne_self_eq_false] at hne
            cases hne
          constructor
          · rw [List.map_cons, List.nodup_cons]
            exact ⟨hnew, hkeyed.nodup⟩
          · intro k hk
            rw [List.map_cons, List.mem_cons] at hk
            rcases hk with rfl | hold
            · exact ⟨a, ha, rfl⟩
            · exact hkeyed.keys k hold

end

/-! ## Many requests -/

variable {ρ ω : Type}

/-- Handle requests one after the other, handing the table on. -/
def runMemoized (step : ρ → MemoTable κ β → ω × MemoTable κ β) :
    List ρ → MemoTable κ β → List ω × MemoTable κ β
  | [], table => ([], table)
  | request :: rest, table =>
      let answered := step request table
      let later := runMemoized step rest answered.2
      (answered.1 :: later.1, later.2)

/-- What every step keeps of the table, a run keeps, and each request is answered from a
table that has it. -/
theorem runMemoized_invariant {I : MemoTable κ β → Prop} {answer : ρ → ω}
    {step : ρ → MemoTable κ β → ω × MemoTable κ β}
    (hstep : ∀ request table, I table → I (step request table).2 ∧
      (step request table).1 = answer request)
    (requests : List ρ) (table : MemoTable κ β) (htable : I table) :
    (runMemoized step requests table).1 = requests.map answer ∧
      I (runMemoized step requests table).2 := by
  induction requests generalizing table with
  | nil => exact ⟨rfl, htable⟩
  | cons request rest ih =>
      have hanswered := hstep request table htable
      have hlater := ih (step request table).2 hanswered.1
      simp only [runMemoized, List.map_cons, hanswered.2, hlater.1, true_and]
      exact hlater.2

end Foundations
