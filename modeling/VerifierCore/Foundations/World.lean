import Mathlib.Data.List.Basic

/-!
# Paths through a world

A world is a transition relation whose steps carry labels.  This module follows
a world along a sequence of labels.

Main results:

- Theorem {lit}`path_append_iff`: a path along two traces splits between them.
- Theorem {lit}`Path.accumulates`: a relation between the labels so far and the
  state that every step keeps holds at the end of a path.
- Theorem {lit}`path_guarded_iff`: the paths of a deterministic world are found by
  following it.
-/

namespace Foundations

variable {σ ε : Type}

/-- The world moves from the first state to the second along the labels of a
trace. -/
inductive Path (step : σ → ε → σ → Prop) : σ → List ε → σ → Prop where
  | nil (s : σ) : Path step s [] s
  | cons {s s' s'' : σ} {label : ε} {trace : List ε} :
      step s label s' → Path step s' trace s'' → Path step s (label :: trace) s''

variable {step : σ → ε → σ → Prop}

@[simp]
theorem path_nil_iff {s s' : σ} : Path step s [] s' ↔ s' = s := by
  constructor
  · intro h
    cases h
    rfl
  · intro h
    rw [h]
    exact .nil s

/-- A path is a step and then a path. -/
theorem path_cons_iff {s s'' : σ} {label : ε} {trace : List ε} :
    Path step s (label :: trace) s'' ↔ ∃ s', step s label s' ∧ Path step s' trace s'' := by
  constructor
  · intro h
    cases h with
    | cons hstep hrest => exact ⟨_, hstep, hrest⟩
  · intro h
    rcases h with ⟨s', hstep, hrest⟩
    exact .cons hstep hrest

/-- A path along a concatenated trace passes through a middle state. -/
theorem path_append_iff {s s'' : σ} {first second : List ε} :
    Path step s (first ++ second) s'' ↔
      ∃ s', Path step s first s' ∧ Path step s' second s'' := by
  induction first generalizing s with
  | nil => simp
  | cons label first ih =>
      simp only [List.cons_append, path_cons_iff, ih]
      constructor
      · intro h
        rcases h with ⟨s₁, hstep, s₂, hfirst, hsecond⟩
        exact ⟨s₂, ⟨s₁, hstep, hfirst⟩, hsecond⟩
      · intro h
        rcases h with ⟨s₂, ⟨s₁, hstep, hfirst⟩, hsecond⟩
        exact ⟨s₁, hstep, s₂, hfirst, hsecond⟩

/-- A relation between the labels read so far and the state that every step
keeps holds at the end of the path. -/
theorem Path.accumulates {I : List ε → σ → Prop} {s s' : σ} {trace : List ε}
    (h : Path step s trace s')
    (hstep : ∀ seen label t t', I seen t → step t label t' → I (seen ++ [label]) t')
    (hs : I [] s) : I trace s' := by
  have hgeneral : ∀ seen, I seen s → I (seen ++ trace) s' := by
    clear hs
    induction h with
    | nil => simp
    | cons hlabel _ ih =>
        intro seen hseen
        have hnext := ih (seen ++ [_]) (hstep seen _ _ _ hseen hlabel)
        simpa using hnext
  exact hgeneral [] hs

/-! ## Deterministic worlds -/

/-- The world that moves to the next state when it allows the label. -/
def guarded (allows : σ → ε → Prop) (next : σ → ε → σ) (s : σ) (label : ε) (s' : σ) : Prop :=
  allows s label ∧ s' = next s label

/-- Every label is allowed where it occurs. -/
def AllAllowed (allows : σ → ε → Prop) (next : σ → ε → σ) : σ → List ε → Prop
  | _, [] => True
  | s, label :: trace => allows s label ∧ AllAllowed allows next (next s label) trace

instance decidableAllAllowed {allows : σ → ε → Prop} {next : σ → ε → σ}
    [∀ s label, Decidable (allows s label)] :
    (s : σ) → (trace : List ε) → Decidable (AllAllowed allows next s trace)
  | _, [] => isTrue trivial
  | s, label :: trace =>
      @instDecidableAnd _ _ inferInstance (decidableAllAllowed (next s label) trace)

/-- A guarded path is a sequence of allowed labels, and ends where the updates lead. -/
theorem path_guarded_iff {allows : σ → ε → Prop} {next : σ → ε → σ} {s s' : σ}
    {trace : List ε} :
    Path (guarded allows next) s trace s' ↔
      AllAllowed allows next s trace ∧ s' = trace.foldl next s := by
  induction trace generalizing s with
  | nil => simp [AllAllowed]
  | cons label trace ih =>
      rw [path_cons_iff]
      simp only [guarded, AllAllowed, List.foldl_cons]
      constructor
      · intro h
        rcases h with ⟨middle, ⟨hallows, rfl⟩, hrest⟩
        rcases ih.mp hrest with ⟨hall, hend⟩
        exact ⟨⟨hallows, hall⟩, hend⟩
      · intro h
        rcases h with ⟨⟨hallows, hall⟩, hend⟩
        exact ⟨next s label, ⟨hallows, rfl⟩, ih.mpr ⟨hall, hend⟩⟩

end Foundations
