import VerifierCore.Foundations.Interleaving

/-!
# Monitors

A monitor watches a trace event by event.  It keeps a state, and it objects to an event
by having no next state for it.  A protocol that each call has to keep, such as that
what is opened is closed, is a monitor that objects to whatever breaks it.

A program passes a monitor from a state if the monitor objects to none of its
executions.  What holds at the end, of the result and of the monitor's state, is the
postcondition; the rules below are those of a Hoare logic whose assertions are about
the monitor.

Main results:

- Theorem {lit}`Monitor.run_append`: a trace is watched piece by piece.
- Theorem {lit}`Monitor.Passes.bind`: the rule for sequencing.
- Theorem {lit}`Monitor.Passes.run_own`: in a run of interleaved calls the monitor
  objects to nothing that any call has done so far.
-/

namespace Foundations

open Program

/-- A state for what has been seen, and the next one for an event it does not object
to. -/
structure Monitor (Op : Type) (Res : Op → Type) (σ : Type) where
  step : σ → Event Op Res → Option σ

namespace Monitor

variable {Op : Type} {Res : Op → Type} {σ α β : Type} {monitor : Monitor Op Res σ}
  {state : σ}

/-! ## Watching a trace -/

/-- The state behind a trace that the monitor does not object to. -/
def run (monitor : Monitor Op Res σ) : σ → List (Event Op Res) → Option σ
  | state, [] => some state
  | state, event :: rest => (monitor.step state event).bind fun next => monitor.run next rest

@[simp]
theorem run_nil : monitor.run state [] = some state :=
  rfl

theorem run_cons {event : Event Op Res} {rest : List (Event Op Res)} :
    monitor.run state (event :: rest) =
      (monitor.step state event).bind fun next => monitor.run next rest :=
  rfl

/-- A history is monitored piece by piece. -/
theorem run_append {first second : List (Event Op Res)} :
    monitor.run state (first ++ second) =
      (monitor.run state first).bind fun next => monitor.run next second := by
  induction first generalizing state with
  | nil => rfl
  | cons event first ih =>
      rw [List.cons_append, run_cons, run_cons, Option.bind_assoc]
      congr 1
      funext next
      exact ih

/-- The beginning of a trace without objections has none. -/
theorem exists_run_of_append {first second : List (Event Op Res)} {final : σ}
    (h : monitor.run state (first ++ second) = some final) :
    ∃ next, monitor.run state first = some next := by
  rw [run_append, Option.bind_eq_some_iff] at h
  obtain ⟨next, hfirst, _⟩ := h
  exact ⟨next, hfirst⟩

/-! ## Programs that pass -/

/-- The monitor objects to no execution of the program, and behind each of them the
result and its state are as said. -/
def Passes (monitor : Monitor Op Res σ) (state : σ) (p : Program Op Res α)
    (post : α → σ → Prop) : Prop :=
  ∀ trace a, Executes p trace a → ∃ final, monitor.run state trace = some final ∧ post a final

theorem passes_pure {post : α → σ → Prop} {a : α} (h : post a state) :
    monitor.Passes state (pure a) post := by
  intro trace b hexec
  obtain ⟨rfl, rfl⟩ := executes_pure_iff.mp hexec
  exact ⟨state, rfl, h⟩

/-- A call passes if the monitor has a next state for each answer. -/
theorem passes_perform {op : Op} {post : Res op → σ → Prop}
    (h : ∀ answer, ∃ next, monitor.step state ⟨op, answer⟩ = some next ∧ post answer next) :
    monitor.Passes state (perform op) post := by
  intro trace answer hexec
  rw [executes_perform_iff] at hexec
  subst hexec
  obtain ⟨next, hstep, hpost⟩ := h answer
  exact ⟨next, by simp [run_cons, hstep], hpost⟩

/-- The second program passes from wherever the first one has led. -/
theorem Passes.bind {p : Program Op Res α} {f : α → Program Op Res β}
    {middle : α → σ → Prop} {post : β → σ → Prop} (hp : monitor.Passes state p middle)
    (hf : ∀ a next, middle a next → monitor.Passes next (f a) post) :
    monitor.Passes state (p >>= f) post := by
  intro trace b hexec
  obtain ⟨first, second, a, rfl, hfirst, hsecond⟩ := executes_bind_iff.mp hexec
  obtain ⟨next, hrun, hmiddle⟩ := hp first a hfirst
  obtain ⟨final, hrest, hpost⟩ := hf a next hmiddle second b hsecond
  exact ⟨final, by simp [run_append, hrun, hrest], hpost⟩

/-- A call in front of a program. -/
theorem passes_perform_bind {op : Op} {f : Res op → Program Op Res β} {post : β → σ → Prop}
    (h : ∀ answer, ∃ next, monitor.step state ⟨op, answer⟩ = some next ∧
      monitor.Passes next (f answer) post) : monitor.Passes state (perform op >>= f) post :=
  (passes_perform h).bind fun _ _ hpasses => hpasses

/-- A view of a program's result passes as the program does. -/
theorem Passes.map {p : Program Op Res α} {f : α → β} {post : β → σ → Prop}
    (hp : monitor.Passes state p fun a => post (f a)) : monitor.Passes state (f <$> p) post := by
  rw [← bind_pure_comp]
  exact hp.bind fun _ _ hpost => passes_pure hpost

/-! ## Interleaved calls -/

section Interleaved

variable {T κ : Type} {program : κ → Program Op Res α} {post : α → σ → Prop}
  {calls : Run κ T Op Res} {i : Nat} {call : κ}

/-- The other calls of a run are not seen by a monitor of one. -/
theorem Passes.run_own (hpasses : monitor.Passes state (program call) post)
    (hfollows : calls.Follows program) (hcall : calls.calls[i]? = some call) :
    ∃ next, monitor.run state (own calls.history i) = some next := by
  obtain ⟨rest, a, hexec⟩ := hfollows.executes i call hcall
  obtain ⟨final, hrun, _⟩ := hpasses _ a hexec
  exact exists_run_of_append hrun

/-- A call that returned has passed along its own events. -/
theorem Passes.run_returned {a : α} (hpasses : monitor.Passes state (program call) post)
    (hreturns : calls.Returns program i call a) :
    ∃ final, monitor.run state (own calls.history i) = some final ∧ post a final :=
  hpasses _ a hreturns.executes

end Interleaved

end Monitor

end Foundations
