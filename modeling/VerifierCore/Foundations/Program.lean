import Mathlib.Data.List.Basic

/-!
# Effectful programs and their executions

A program here is a finite tree of calls to named operations: each node names
one operation and continues with whatever answer the environment gives.  The
operations are uninterpreted, so one theorem about the executions of a program
covers every environment: every cache content, every response, every clock.

Main results:

- Theorem {lit}`executes_bind_iff`: an execution of a sequenced program splits
  into executions of its two parts.
- Theorem {lit}`executes_mapM_iff`: an execution over a list is one execution
  for each element.
- Theorem {lit}`Executes.forall_of_confined`: a program confined to a set of
  operations only ever emits events of that set.
- Theorem {lit}`ResolvesOn.bind` and {lit}`ResolvesOn.perform_bind`: when a
  program that may fail returns a value.
- Theorem {lit}`executes_interpret`: running a program against a concrete
  environment gives one of its executions.
- Theorem {lit}`replay_eq_some_iff`: a recorded trace can be checked by
  replaying it.
- Theorem {lit}`Executes.complete`: a program that has begun can be run to its end.
- Theorem {lit}`exists_executes`: no environment can make a program run
  forever.
-/

namespace Foundations

/-- A finite program over the operations `Op`, where `Res op` is the type of
answers to `op`. -/
inductive Program (Op : Type) (Res : Op → Type) (α : Type) : Type where
  | done (result : α)
  | call (op : Op) (resume : Res op → Program Op Res α)

/-- One operation together with the answer it was given. -/
structure Event (Op : Type) (Res : Op → Type) where
  op : Op
  answer : Res op

namespace Program

variable {Op : Type} {Res : Op → Type} {α β : Type}

/-! ## Sequencing -/

/-- Run the first program and hand its result to the second. -/
def bind : Program Op Res α → (α → Program Op Res β) → Program Op Res β
  | .done a, f => f a
  | .call op resume, f => .call op fun answer => (resume answer).bind f

instance : Monad (Program Op Res) where
  pure := .done
  bind := bind

/-- The program making a single call and returning its answer. -/
def perform (op : Op) : Program Op Res (Res op) :=
  .call op .done

/-- Nothing is left to do behind a program that just returns. -/
theorem bind_done (p : Program Op Res α) : p.bind .done = p := by
  induction p with
  | done a => rfl
  | call op resume ih =>
      simp only [bind]
      congr 1
      funext answer
      exact ih answer

instance : LawfulMonad (Program Op Res) :=
  LawfulMonad.mk' (Program Op Res)
    (fun p => bind_done p)
    (fun _ _ => rfl)
    (by
      intro α β γ p f g
      change (p.bind f).bind g = p.bind fun a => (f a).bind g
      induction p with
      | done a => rfl
      | call op resume ih =>
          simp only [bind]
          congr 1
          funext answer
          exact ih answer)

/-! ## Executions -/

/-- `Executes p trace a`: answered as `trace` records, `p` makes exactly the
calls of `trace` and returns `a`. -/
inductive Executes : Program Op Res α → List (Event Op Res) → α → Prop where
  | done (a : α) : Executes (.done a) [] a
  | call {op : Op} {resume : Res op → Program Op Res α} {answer : Res op}
      {trace : List (Event Op Res)} {a : α} :
      Executes (resume answer) trace a →
      Executes (.call op resume) (⟨op, answer⟩ :: trace) a

/-- A finished program executes with no calls. -/
theorem executes_done_iff {a b : α} {trace : List (Event Op Res)} :
    Executes (.done a : Program Op Res α) trace b ↔ trace = [] ∧ b = a := by
  constructor
  · intro h
    cases h
    exact ⟨rfl, rfl⟩
  · rintro ⟨rfl, rfl⟩
    exact .done b

/-- A program that only returns executes with no calls. -/
@[simp]
theorem executes_pure_iff {a b : α} {trace : List (Event Op Res)} :
    Executes (pure a : Program Op Res α) trace b ↔ trace = [] ∧ b = a :=
  executes_done_iff

/-- A call is the first event of an execution, with any answer. -/
theorem executes_call_iff {op : Op} {resume : Res op → Program Op Res α} {b : α}
    {trace : List (Event Op Res)} :
    Executes (.call op resume) trace b ↔
      ∃ answer rest, trace = ⟨op, answer⟩ :: rest ∧ Executes (resume answer) rest b := by
  constructor
  · intro h
    cases h with
    | call hrest => exact ⟨_, _, rfl, hrest⟩
  · rintro ⟨answer, rest, rfl, hrest⟩
    exact .call hrest

/-- Performing an operation is one event, and its answer is the result. -/
theorem executes_perform_iff {op : Op} {answer : Res op} {trace : List (Event Op Res)} :
    Executes (perform op) trace answer ↔ trace = [⟨op, answer⟩] := by
  simp [perform, executes_call_iff, executes_done_iff]

/-- A program that starts with one call runs on with its answer. -/
theorem executes_perform_bind_iff {op : Op} {f : Res op → Program Op Res β} {b : β}
    {trace : List (Event Op Res)} :
    Executes (perform op >>= f) trace b ↔
      ∃ answer rest, trace = ⟨op, answer⟩ :: rest ∧ Executes (f answer) rest b :=
  executes_call_iff

/-- An execution of a sequenced program splits at the point where the first
part returns. -/
theorem executes_bind_iff {p : Program Op Res α} {f : α → Program Op Res β} {b : β}
    {trace : List (Event Op Res)} :
    Executes (p >>= f) trace b ↔
      ∃ first second a, trace = first ++ second ∧ Executes p first a ∧
        Executes (f a) second b := by
  change Executes (p.bind f) trace b ↔ _
  induction p generalizing trace with
  | done a =>
      simp only [bind, executes_done_iff]
      constructor
      · intro h
        exact ⟨[], trace, a, rfl, ⟨rfl, rfl⟩, h⟩
      · rintro ⟨_, second, _, rfl, ⟨rfl, rfl⟩, h⟩
        exact h
  | call op resume ih =>
      simp only [bind, executes_call_iff]
      constructor
      · rintro ⟨answer, rest, rfl, hrest⟩
        obtain ⟨first, second, a, rfl, hfirst, hsecond⟩ := (ih answer).mp hrest
        exact ⟨⟨op, answer⟩ :: first, second, a, rfl, ⟨answer, first, rfl, hfirst⟩, hsecond⟩
      · rintro ⟨_, second, a, rfl, ⟨answer, first, rfl, hfirst⟩, hsecond⟩
        exact ⟨answer, first ++ second, rfl,
          (ih answer).mpr ⟨first, second, a, rfl, hfirst, hsecond⟩⟩

/-- A view of a program's result makes the same calls. -/
theorem executes_map_iff {p : Program Op Res α} {f : α → β} {b : β}
    {trace : List (Event Op Res)} :
    Executes (f <$> p) trace b ↔ ∃ a, Executes p trace a ∧ b = f a := by
  rw [← bind_pure_comp, executes_bind_iff]
  constructor
  · rintro ⟨first, second, a, rfl, hp, hpure⟩
    obtain ⟨rfl, rfl⟩ := executes_pure_iff.mp hpure
    exact ⟨a, by simpa using hp, rfl⟩
  · rintro ⟨a, hp, rfl⟩
    exact ⟨trace, [], a, by simp, hp, executes_pure_iff.mpr ⟨rfl, rfl⟩⟩

/-- A program run on each element of a list, in order, runs on each of them in
turn. -/
theorem executes_mapM_iff {γ : Type} {f : γ → Program Op Res α} {as : List γ} {bs : List α}
    {trace : List (Event Op Res)} :
    Executes (as.mapM f) trace bs ↔
      ∃ runs : List (γ × List (Event Op Res) × α), runs.map (·.1) = as ∧
        trace = runs.flatMap (·.2.1) ∧ bs = runs.map (·.2.2) ∧
        ∀ run ∈ runs, Executes (f run.1) run.2.1 run.2.2 := by
  induction as generalizing trace bs with
  | nil =>
      rw [List.mapM_nil, executes_pure_iff]
      constructor
      · intro h
        exact ⟨[], rfl, h.1, h.2, by simp⟩
      · intro h
        rcases h with ⟨runs, hruns, htrace, hbs, _⟩
        rw [List.map_eq_nil_iff] at hruns
        subst hruns
        exact ⟨htrace, hbs⟩
  | cons a as ih =>
      rw [List.mapM_cons]
      simp only [executes_bind_iff, executes_pure_iff]
      constructor
      · intro h
        rcases h with ⟨first, _, b, rfl, hfirst, second, _, bs', rfl, hrest, rfl, rfl⟩
        rcases ih.mp hrest with ⟨runs, hruns, htrace, hbs, hall⟩
        refine ⟨(a, first, b) :: runs, by simp [hruns], by simp [htrace], by simp [hbs], ?_⟩
        intro run hrun
        rcases List.mem_cons.mp hrun with rfl | hmem
        · exact hfirst
        · exact hall run hmem
      · intro h
        rcases h with ⟨runs, hruns, rfl, rfl, hall⟩
        cases runs with
        | nil => simp at hruns
        | cons run runs =>
            rw [List.map_cons, List.cons.injEq] at hruns
            rcases hruns with ⟨rfl, hruns⟩
            refine ⟨run.2.1, runs.flatMap (·.2.1), run.2.2, by simp,
              hall run List.mem_cons_self, runs.flatMap (·.2.1), [], runs.map (·.2.2),
              by simp, ?_, rfl, by simp⟩
            exact ih.mpr ⟨runs, hruns, rfl, rfl,
              fun other hmem => hall other (List.mem_cons_of_mem _ hmem)⟩

/-! ## Programs confined to some operations -/

/-- Every call the program can make, whatever it is answered, is of an
operation in `P`. -/
def Confined (P : Op → Prop) : Program Op Res α → Prop
  | .done _ => True
  | .call op resume => P op ∧ ∀ answer, (resume answer).Confined P

/-- A program that only returns makes no call at all. -/
@[simp]
theorem confined_pure {P : Op → Prop} (a : α) :
    (pure a : Program Op Res α).Confined P :=
  trivial

/-- Performing an operation is confined to what the operation is. -/
theorem confined_perform {P : Op → Prop} {op : Op} (h : P op) :
    (perform op : Program Op Res (Res op)).Confined P :=
  ⟨h, fun _ => trivial⟩

/-- Confined programs are confined one after the other. -/
theorem Confined.bind {P : Op → Prop} {p : Program Op Res α} {f : α → Program Op Res β}
    (hp : p.Confined P) (hf : ∀ a, (f a).Confined P) : (p >>= f).Confined P := by
  change (p.bind f).Confined P
  induction p with
  | done a => exact hf a
  | call op resume ih => exact ⟨hp.1, fun answer => ih answer (hp.2 answer)⟩

/-- A view of a confined program's result is confined. -/
theorem Confined.map {P : Op → Prop} {p : Program Op Res α} (hp : p.Confined P) (f : α → β) :
    (f <$> p).Confined P := by
  rw [← bind_pure_comp]
  exact hp.bind fun _ => trivial

/-- What is confined to some operations is confined to more. -/
theorem Confined.mono {P Q : Op → Prop} {p : Program Op Res α} (hp : p.Confined P)
    (hPQ : ∀ op, P op → Q op) : p.Confined Q := by
  induction p with
  | done a => trivial
  | call op resume ih => exact ⟨hPQ op hp.1, fun answer => ih answer (hp.2 answer)⟩

/-- A program that is confined on each item is confined on a whole list. -/
theorem confined_mapM {P : Op → Prop} {γ : Type} {f : γ → Program Op Res α} {as : List γ}
    (h : ∀ a ∈ as, (f a).Confined P) : (as.mapM f).Confined P := by
  induction as with
  | nil =>
      rw [List.mapM_nil]
      exact confined_pure _
  | cons a as ih =>
      rw [List.mapM_cons]
      apply Confined.bind (h a List.mem_cons_self)
      intro b
      apply Confined.bind (ih fun other hmem => h other (List.mem_cons_of_mem _ hmem))
      intro bs
      exact confined_pure _

/-- A confined program only emits events of the operations it is confined to. -/
theorem Executes.forall_of_confined {P : Op → Prop} {p : Program Op Res α}
    {trace : List (Event Op Res)} {a : α} (h : Executes p trace a) (hp : p.Confined P) :
    ∀ event ∈ trace, P event.op := by
  induction h with
  | done => simp
  | call _ ih =>
      intro event hevent
      rcases List.mem_cons.mp hevent with rfl | hrest
      · exact hp.1
      · exact ih (hp.2 _) event hrest

/-! ## Programs that fail on some answers -/

/-- The program returns a value exactly when every call of its run is answered as
`P` allows. -/
def ResolvesOn {ε : Type} (P : Event Op Res → Prop) (p : Program Op Res (Except ε α)) : Prop :=
  ∀ trace outcome, Executes p trace outcome →
    ((∃ a, outcome = .ok a) ↔ ∀ event ∈ trace, P event)

/-- A program that returns a value resolves. -/
theorem resolvesOn_ok {ε : Type} {P : Event Op Res → Prop} (a : α) :
    ResolvesOn P (pure (.ok a) : Program Op Res (Except ε α)) := by
  intro trace outcome h
  rcases executes_pure_iff.mp h with ⟨rfl, rfl⟩
  simp

/-- A call resolves on `P` if an answer `P` allows is gone on with, and one it does
not allow is thrown at once. -/
theorem ResolvesOn.perform_bind {ε : Type} {P : Event Op Res → Prop} {op : Op}
    {f : Res op → Program Op Res (Except ε α)}
    (h : ∀ answer, (P ⟨op, answer⟩ ∧ ResolvesOn P (f answer)) ∨
      ¬P ⟨op, answer⟩ ∧ ∃ error, f answer = pure (.error error)) :
    ResolvesOn P (perform op >>= f) := by
  intro trace outcome hrun
  rcases executes_perform_bind_iff.mp hrun with ⟨answer, rest, rfl, hrest⟩
  rcases h answer with ⟨hallowed, hresolves⟩ | ⟨hrefused, error, herror⟩
  · rw [hresolves rest outcome hrest, List.forall_mem_cons]
    exact ⟨fun hall => ⟨hallowed, hall⟩, fun hall => hall.2⟩
  · rw [herror] at hrest
    rcases executes_pure_iff.mp hrest with ⟨rfl, rfl⟩
    simp [hrefused]

/-- Sequencing: a thrown value is passed on, a returned one is gone on with. -/
theorem ResolvesOn.bind {ε : Type} {P : Event Op Res → Prop}
    {p : Program Op Res (Except ε α)} {f : Except ε α → Program Op Res (Except ε β)}
    (hp : ResolvesOn P p) (hok : ∀ a, ResolvesOn P (f (.ok a)))
    (herror : ∀ error, f (.error error) = pure (.error error)) : ResolvesOn P (p >>= f) := by
  intro trace outcome hrun
  rcases executes_bind_iff.mp hrun with ⟨first, second, middle, rfl, hfirst, hsecond⟩
  have hmiddle := hp first middle hfirst
  cases middle with
  | error error =>
      rw [herror] at hsecond
      rcases executes_pure_iff.mp hsecond with ⟨rfl, rfl⟩
      simpa using hmiddle
  | ok a =>
      have hallowed := hmiddle.mp ⟨a, rfl⟩
      rw [hok a second outcome hsecond, List.forall_mem_append]
      exact ⟨fun hall => ⟨hallowed, hall⟩, fun hall => hall.2⟩

/-! ## Running against a concrete environment -/

/-- Run a program against an environment with state `σ`, keeping the trace. -/
def interpret {σ : Type} (environment : σ → (op : Op) → Res op × σ) :
    Program Op Res α → σ → α × List (Event Op Res) × σ
  | .done a, state => (a, [], state)
  | .call op resume, state =>
      let answered := environment state op
      let rest := interpret environment (resume answered.1) answered.2
      (rest.1, ⟨op, answered.1⟩ :: rest.2.1, rest.2.2)

/-- Interpreting a program against any environment is one of its executions. -/
theorem executes_interpret {σ : Type} (environment : σ → (op : Op) → Res op × σ)
    (p : Program Op Res α) (state : σ) :
    Executes p (p.interpret environment state).2.1 (p.interpret environment state).1 := by
  induction p generalizing state with
  | done a => exact .done a
  | call op resume ih => exact .call (ih _ _)

/-- Run a program along a recorded trace; `none` if it makes other calls. -/
def replay [DecidableEq Op] : Program Op Res α → List (Event Op Res) → Option α
  | .done a, [] => some a
  | .call op resume, event :: rest =>
      if h : event.op = op then replay (resume (h ▸ event.answer)) rest else none
  | _, _ => none

/-- Replaying a trace decides whether it is an execution. -/
theorem replay_eq_some_iff [DecidableEq Op] {p : Program Op Res α}
    {trace : List (Event Op Res)} {a : α} : p.replay trace = some a ↔ Executes p trace a := by
  induction p generalizing trace with
  | done b =>
      cases trace with
      | nil => simp [replay, executes_done_iff, eq_comm]
      | cons event rest => simp [replay, executes_done_iff]
  | call op resume ih =>
      cases trace with
      | nil => simp [replay, executes_call_iff]
      | cons event rest =>
          rcases event with ⟨eventOp, eventAnswer⟩
          by_cases hop : eventOp = op
          · subst hop
            simp [replay, executes_call_iff, ih]
          · simp [replay, executes_call_iff, hop]

/-- Behind what a program has done, it can be run to its end with answers of one's own. -/
theorem Executes.complete (answer : (op : Op) → Res op) {p : Program Op Res α} {a : α}
    {front rest : List (Event Op Res)} (h : Executes p (front ++ rest) a) :
    ∃ rest' a', Executes p (front ++ rest') a' ∧
      ∀ event ∈ rest', event.answer = answer event.op := by
  have hend (p : Program Op Res α) : ∃ rest' a', Executes p rest' a' ∧
      ∀ event ∈ rest', event.answer = answer event.op := by
    induction p with
    | done a => exact ⟨[], a, .done a, by simp⟩
    | call op resume ih =>
        obtain ⟨rest', a', hexec, hanswers⟩ := ih (answer op)
        refine ⟨⟨op, answer op⟩ :: rest', a', .call hexec, ?_⟩
        rw [List.forall_mem_cons]
        exact ⟨rfl, hanswers⟩
  induction front generalizing p with
  | nil => exact hend p
  | cons event front ih =>
      cases h with
      | call hexec =>
          obtain ⟨rest', a', hexec', hanswers⟩ := ih hexec
          exact ⟨rest', a', .call hexec', hanswers⟩

/-- Every program returns, as long as each operation can be answered at all. -/
theorem exists_executes [∀ op, Nonempty (Res op)] (p : Program Op Res α) :
    ∃ trace a, Executes p trace a := by
  classical
  exact ⟨_, _, executes_interpret (σ := Unit) (fun _ op => (Classical.arbitrary _, ())) p ()⟩

end Program

end Foundations
