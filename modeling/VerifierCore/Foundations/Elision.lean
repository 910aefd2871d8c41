import Mathlib.Data.List.Forall2
import VerifierCore.Foundations.Loop

/-!
# Programs that differ by silent calls

An instrumented program makes the calls of a plain one and some silent calls in
between, whose answers it only records.  Both then have the same executions, up to the
silent events and up to what was recorded.

Main results:

- Theorem {lit}`Elides.bind`: sequencing keeps the relation.
- Theorem {lit}`elides_collect` and {lit}`elides_mapM`: so do loops.
- Theorem {lit}`Executes.elide`: an execution of the instrumented program without some
  of its silent events is one of the plain program.
- Theorem {lit}`Executes.instrument`: an execution of the plain program is what is left
  of one of the instrumented program.
-/

namespace Foundations

namespace Program

variable {Op : Type} {Res : Op → Type} {silent : Op → Prop}

/-! ## Traces -/

/-- The second trace is the first without some of its silent events. -/
inductive Elided (silent : Op → Prop) : List (Event Op Res) → List (Event Op Res) → Prop where
  | nil : Elided silent [] []
  | drop {event : Event Op Res} {trace kept : List (Event Op Res)} :
      silent event.op → Elided silent trace kept → Elided silent (event :: trace) kept
  | keep {event : Event Op Res} {trace kept : List (Event Op Res)} :
      Elided silent trace kept → Elided silent (event :: trace) (event :: kept)

/-! ## Programs -/

variable {α β γ δ : Type}

/-- The first program makes the calls of the second and silent ones in between; their
results are related. -/
inductive Elides (silent : Op → Prop) (R : α → β → Prop) :
    Program Op Res α → Program Op Res β → Prop where
  | done {a : α} {b : β} : R a b → Elides silent R (.done a) (.done b)
  | silent {op : Op} {resume : Res op → Program Op Res α} {q : Program Op Res β} :
      silent op → (∀ answer, Elides silent R (resume answer) q) →
      Elides silent R (.call op resume) q
  | call {op : Op} {resume : Res op → Program Op Res α} {resume' : Res op → Program Op Res β} :
      (∀ answer, Elides silent R (resume answer) (resume' answer)) →
      Elides silent R (.call op resume) (.call op resume')

theorem elides_pure {R : α → β → Prop} {a : α} {b : β} (h : R a b) :
    Elides silent R (pure a : Program Op Res α) (pure b) :=
  .done h

/-- A program is its own plain program. -/
theorem elides_refl {R : α → α → Prop} (hR : ∀ a, R a a) (p : Program Op Res α) :
    Elides silent R p p := by
  induction p with
  | done a => exact .done (hR a)
  | call op resume ih => exact .call ih

/-- What relates the results may be weakened. -/
theorem Elides.mono {R S : α → β → Prop} {p : Program Op Res α} {q : Program Op Res β}
    (h : Elides silent R p q) (hRS : ∀ a b, R a b → S a b) : Elides silent S p q := by
  induction h with
  | done hab => exact .done (hRS _ _ hab)
  | silent hop _ ih => exact .silent hop ih
  | call _ ih => exact .call ih

/-- Sequencing keeps the relation. -/
theorem Elides.bind {R : α → β → Prop} {S : γ → δ → Prop} {p : Program Op Res α}
    {q : Program Op Res β} {f : α → Program Op Res γ} {g : β → Program Op Res δ}
    (h : Elides silent R p q) (hfg : ∀ a b, R a b → Elides silent S (f a) (g b)) :
    Elides silent S (p >>= f) (q >>= g) := by
  change Elides silent S (p.bind f) (q.bind g)
  induction h with
  | done hab => exact hfg _ _ hab
  | silent hop _ ih => exact .silent hop ih
  | call _ ih => exact .call ih

/-- A part that only makes silent calls can be left out. -/
theorem elides_bind_of_confined {S : γ → δ → Prop} {p : Program Op Res α}
    {f : α → Program Op Res γ} {q : Program Op Res δ} (hp : p.Confined silent)
    (hf : ∀ a, Elides silent S (f a) q) : Elides silent S (p >>= f) q := by
  change Elides silent S (p.bind f) q
  induction p with
  | done a => exact hf a
  | call op resume ih => exact .silent hp.1 fun answer => ih answer (hp.2 answer)

/-! ## Loops -/

/-- Loops whose rounds are related are related. -/
theorem elides_collect {ι σ τ : Type} {R : α → β → Prop} {S : σ → τ → Prop}
    {body : ι → σ → Program Op Res (List α × σ)} {body' : ι → τ → Program Op Res (List β × τ)}
    {items : List ι}
    (hbody : ∀ item ∈ items, ∀ s t, S s t →
      Elides silent (fun a b => List.Forall₂ R a.1 b.1 ∧ S a.2 b.2) (body item s) (body' item t))
    {s : σ} {t : τ} (hstart : S s t) :
    Elides silent (fun a b => List.Forall₂ R a.1 b.1 ∧ S a.2 b.2) (collect body items s)
      (collect body' items t) := by
  induction items generalizing s t with
  | nil => exact elides_pure ⟨.nil, hstart⟩
  | cons item items ih =>
      apply Elides.bind (hbody item List.mem_cons_self s t hstart)
      rintro ⟨out, s'⟩ ⟨out', t'⟩ ⟨hout, hstate⟩
      apply Elides.bind (ih (fun other hmem => hbody other (List.mem_cons_of_mem _ hmem)) hstate)
      rintro ⟨rest, s''⟩ ⟨rest', t''⟩ ⟨hrest, hstop⟩
      exact elides_pure ⟨List.rel_append hout hrest, hstop⟩

/-- Programs that elide item by item elide on whole lists. -/
theorem elides_mapM {ι : Type} {R : α → β → Prop} {f : ι → Program Op Res α}
    {g : ι → Program Op Res β} {items : List ι}
    (h : ∀ item ∈ items, Elides silent R (f item) (g item)) :
    Elides silent (List.Forall₂ R) (items.mapM f) (items.mapM g) := by
  induction items with
  | nil => exact elides_pure .nil
  | cons item items ih =>
      rw [List.mapM_cons, List.mapM_cons]
      apply Elides.bind (h item List.mem_cons_self)
      intro a b hab
      apply Elides.bind (ih fun other hmem => h other (List.mem_cons_of_mem _ hmem))
      intro as bs hrest
      exact elides_pure (.cons hab hrest)

/-! ## Executions -/

/-- An execution of the instrumented program, without some of its silent events, is one
of the plain program. -/
theorem Executes.elide {R : α → β → Prop} {p : Program Op Res α} {q : Program Op Res β}
    (h : Elides silent R p q) {trace : List (Event Op Res)} {a : α} (hrun : Executes p trace a) :
    ∃ kept b, Executes q kept b ∧ Elided silent trace kept ∧ R a b := by
  induction h generalizing trace with
  | done hab =>
      cases hrun
      exact ⟨[], _, .done _, .nil, hab⟩
  | silent hop _ ih =>
      cases hrun with
      | call hrest =>
          rcases ih _ hrest with ⟨kept, b, hkept, helided, hab⟩
          exact ⟨kept, b, hkept, .drop hop helided, hab⟩
  | call _ ih =>
      cases hrun with
      | call hrest =>
          rcases ih _ hrest with ⟨kept, b, hkept, helided, hab⟩
          exact ⟨_, b, .call hkept, .keep helided, hab⟩

/-- An execution of the plain program is what is left of one of the instrumented
program, whatever its silent calls are answered. -/
theorem Executes.instrument {R : α → β → Prop} {p : Program Op Res α} {q : Program Op Res β}
    (answer : (op : Op) → Res op) (h : Elides silent R p q) {kept : List (Event Op Res)} {b : β}
    (hrun : Executes q kept b) :
    ∃ trace a, Executes p trace a ∧ Elided silent trace kept ∧ R a b := by
  induction h generalizing kept with
  | done hab =>
      cases hrun
      exact ⟨[], _, .done _, .nil, hab⟩
  | @silent op _ _ hop _ ih =>
      rcases ih (answer op) hrun with ⟨trace, a, htrace, helided, hab⟩
      exact ⟨_, a, .call htrace, .drop hop helided, hab⟩
  | call _ ih =>
      cases hrun with
      | call hrest =>
          rcases ih _ hrest with ⟨trace, a, htrace, helided, hab⟩
          exact ⟨_, a, .call htrace, .keep helided, hab⟩

end Program

end Foundations
