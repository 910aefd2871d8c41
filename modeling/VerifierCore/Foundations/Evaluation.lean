import VerifierCore.Foundations.Program

/-!
# Programs that evaluate alike

Answering every call by one function of the call evaluates a program.  An execution
whose events satisfy an assumption may be answered otherwise, by a cache for instance,
and yet return that value: then the program agrees with its evaluation.  Agreement is
checked call by call, and only a call that may be answered otherwise needs an argument.

Main results:

- Theorem {lit}`executes_eval`: evaluating a program is one of its executions.
- Theorem {lit}`AgreesOn.perform_bind`: the rule for a call that may be answered
  otherwise.
- Theorem {lit}`AgreesOn.bind`: the rule for sequencing.
-/

namespace Foundations.Program

variable {Op : Type} {Res : Op → Type} {α β : Type} {answer : (op : Op) → Res op}
  {P : Event Op Res → Prop}

/-! ## Evaluation -/

/-- The value of a program whose calls are answered by a function. -/
def eval (answer : (op : Op) → Res op) : Program Op Res α → α
  | .done a => a
  | .call op resume => (resume (answer op)).eval answer

@[simp]
theorem eval_pure (a : α) : (pure a : Program Op Res α).eval answer = a :=
  rfl

@[simp]
theorem eval_perform_bind (op : Op) (f : Res op → Program Op Res β) :
    (perform op >>= f).eval answer = (f (answer op)).eval answer :=
  rfl

/-- Programs are evaluated one after the other. -/
@[simp]
theorem eval_bind (p : Program Op Res α) (f : α → Program Op Res β) :
    (p >>= f).eval answer = (f (p.eval answer)).eval answer := by
  change (p.bind f).eval answer = _
  induction p with
  | done a => rfl
  | call op resume ih => exact ih (answer op)

/-- The evaluation is an execution with these answers. -/
theorem executes_eval (answer : (op : Op) → Res op) (p : Program Op Res α) :
    ∃ trace, Executes p trace (p.eval answer) ∧
      ∀ event ∈ trace, event.answer = answer event.op := by
  induction p with
  | done a => exact ⟨[], .done a, by simp⟩
  | call op resume ih =>
      obtain ⟨trace, hexec, hanswers⟩ := ih (answer op)
      refine ⟨⟨op, answer op⟩ :: trace, .call hexec, ?_⟩
      rw [List.forall_mem_cons]
      exact ⟨rfl, hanswers⟩

/-! ## Agreement -/

/-- Every execution whose events satisfy the assumption returns what the program
evaluates to. -/
def AgreesOn (P : Event Op Res → Prop) (answer : (op : Op) → Res op) (p : Program Op Res α) :
    Prop :=
  ∀ trace a, Executes p trace a → (∀ event ∈ trace, P event) → a = p.eval answer

theorem agreesOn_pure (a : α) : AgreesOn P answer (pure a : Program Op Res α) := by
  intro trace b hexec _
  exact (executes_pure_iff.mp hexec).2

/-- Under a stronger assumption a program agrees as well. -/
theorem AgreesOn.imp {P' : Event Op Res → Prop} {p : Program Op Res α} (hp : AgreesOn P answer p)
    (h : ∀ event, P' event → P event) : AgreesOn P' answer p := by
  intro trace a hexec hP'
  exact hp trace a hexec fun event hevent => h event (hP' event hevent)

/-- A call agrees if the program behind it does for each answer that is assumed, and
evaluates to the same as behind the answer of the evaluation. -/
theorem AgreesOn.perform_bind {op : Op} {f : Res op → Program Op Res β}
    (h : ∀ given, P ⟨op, given⟩ →
      AgreesOn P answer (f given) ∧ (f given).eval answer = (f (answer op)).eval answer) :
    AgreesOn P answer (perform op >>= f) := by
  intro trace b hexec hP
  obtain ⟨given, rest, rfl, hrest⟩ := executes_perform_bind_iff.mp hexec
  rw [List.forall_mem_cons] at hP
  obtain ⟨hagrees, heval⟩ := h given hP.1
  rw [eval_perform_bind, ← heval]
  exact hagrees rest b hrest hP.2

/-- A call that is answered as in the evaluation. -/
theorem AgreesOn.perform_bind_of_eq {op : Op} {f : Res op → Program Op Res β}
    (hanswer : ∀ given, P ⟨op, given⟩ → given = answer op)
    (hf : AgreesOn P answer (f (answer op))) : AgreesOn P answer (perform op >>= f) := by
  apply AgreesOn.perform_bind
  intro given hgiven
  rw [hanswer given hgiven]
  exact ⟨hf, rfl⟩

/-- Programs that agree on an answer agree one after the other. -/
theorem AgreesOn.bind {p : Program Op Res α} {f : α → Program Op Res β}
    (hp : AgreesOn P answer p) (hf : AgreesOn P answer (f (p.eval answer))) :
    AgreesOn P answer (p >>= f) := by
  intro trace b hexec hP
  obtain ⟨first, second, a, rfl, hfirst, hsecond⟩ := executes_bind_iff.mp hexec
  rw [List.forall_mem_append] at hP
  have ha := hp first a hfirst hP.1
  subst ha
  rw [eval_bind]
  exact hf second b hsecond hP.2

end Foundations.Program
