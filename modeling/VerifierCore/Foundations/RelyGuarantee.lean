import VerifierCore.Foundations.Interleaving

/-!
# Assumptions and guarantees

A program guarantees something of its calls as long as the answers to the calls before
are as assumed.  The assumption is only about what is in front, so a program that has
not returned yet keeps its guarantee.  If every event of a run is as assumed, then every
event is as guaranteed, whichever call it belongs to.

Main results:

- Theorem {lit}`Guarantees.perform_bind` and {lit}`Guarantees.bind`: the rules.
- Theorem {lit}`Run.guaranteed`: what calls guarantee holds throughout a run.
-/

namespace Foundations

open Program

variable {Op : Type} {Res : Op → Type} {α β : Type} {P Q : Event Op Res → Prop}

/-- The event is as guaranteed if those in front of it are as assumed. -/
def Owed (P Q : Event Op Res → Prop) (front : List (Event Op Res)) (event : Event Op Res) :
    Prop :=
  (∀ earlier ∈ front, P earlier) → Q event

namespace Program

/-- Every event of every execution is owed. -/
def Guarantees (P Q : Event Op Res → Prop) (p : Program Op Res α) : Prop :=
  ∀ trace a, Executes p trace a → Justified (Owed P Q) trace

theorem guarantees_pure (a : α) : Guarantees P Q (pure a : Program Op Res α) := by
  intro trace b hexec
  obtain ⟨rfl, _⟩ := executes_pure_iff.mp hexec
  exact justified_of_forall (by simp)

/-- A call is as guaranteed whatever it is answered; what is behind it may assume the
answer. -/
theorem Guarantees.perform_bind {op : Op} {f : Res op → Program Op Res β}
    (hcall : ∀ given, Q ⟨op, given⟩) (hf : ∀ given, P ⟨op, given⟩ → Guarantees P Q (f given)) :
    Guarantees P Q (perform op >>= f) := by
  intro trace b hexec front event rest hsplit hassumed
  obtain ⟨given, behind, rfl, hbehind⟩ := executes_perform_bind_iff.mp hexec
  cases front with
  | nil =>
      obtain ⟨rfl, _⟩ := List.cons.inj hsplit
      exact hcall given
  | cons first front =>
      obtain ⟨rfl, hrest⟩ := List.cons.inj hsplit
      rw [List.forall_mem_cons] at hassumed
      exact hf given hassumed.1 behind b hbehind front event rest hrest hassumed.2

/-- What is behind a program may assume that it was answered as assumed. -/
theorem Guarantees.bind {p : Program Op Res α} {f : α → Program Op Res β}
    (hp : Guarantees P Q p)
    (hf : ∀ trace a, Executes p trace a → (∀ event ∈ trace, P event) → Guarantees P Q (f a)) :
    Guarantees P Q (p >>= f) := by
  intro trace b hexec front event rest hsplit hassumed
  obtain ⟨first, second, a, rfl, hfirst, hsecond⟩ := executes_bind_iff.mp hexec
  rcases List.append_eq_append_iff.mp hsplit with ⟨middle, rfl, hmiddle⟩ | ⟨middle, rfl, hmiddle⟩
  · rw [List.forall_mem_append] at hassumed
    exact hf first a hfirst hassumed.1 second b hsecond middle event rest hmiddle hassumed.2
  · cases middle with
    | nil =>
        rw [List.append_nil] at hfirst
        exact hf front a hfirst hassumed second b hsecond [] event rest hmiddle.symm (by simp)
    | cons head middle =>
        obtain ⟨rfl, _⟩ := List.cons.inj hmiddle
        exact hp _ a hfirst front event middle rfl hassumed

/-- A program that only makes calls that are guaranteed anyway. -/
theorem Confined.guarantees {C : Op → Prop} {p : Program Op Res α} (hp : p.Confined C)
    (hC : ∀ op given, C op → Q ⟨op, given⟩) : Guarantees P Q p := by
  intro trace a hexec
  apply justified_of_forall
  intro event hevent _ _
  exact hC event.op event.answer (hexec.forall_of_confined hp event hevent)

end Program

/-- If the events of a run are as assumed, they are as guaranteed. -/
theorem Run.guaranteed {κ T : Type} {run : Run κ T Op Res} {program : κ → Program Op Res α}
    (hfollows : run.Follows program)
    (hguarantees : ∀ call ∈ run.calls, Guarantees P Q (program call))
    (hassumed : ∀ stamped ∈ run.history, P stamped.event) :
    ∀ stamped ∈ run.history, Q stamped.event := by
  intro stamped hmem
  obtain ⟨before, after, hsplit⟩ := List.append_of_mem hmem
  obtain ⟨call, _, howed⟩ := Run.justified_event (J := fun _ => Owed P Q) hfollows
    (fun call hcall => hguarantees call hcall) hsplit
  apply howed
  intro event hevent
  obtain ⟨earlier, hearlier, _, rfl⟩ := mem_own_iff.mp hevent
  exact hassumed earlier (by simp [hsplit, hearlier])

end Foundations
