import Mathlib.Data.List.Induction
import VerifierCore.Foundations.Program

/-!
# Loops that pass a state along and collect what they emit

The loop runs one body on each element of a list in order.  Each round reads the
state the round before left, emits a list of outputs and leaves a new state.

Main results:

- Theorem {lit}`executes_collect_iff`: an execution of the loop is a chain of
  rounds, one for each element.
- Theorem {lit}`Rounds.split`: the rounds before and after one round.
- Theorem {lit}`Rounds.invariant`: a relation between the finished rounds and
  the state holds at the end if every round keeps it.
- Theorems {lit}`collect_append` and {lit}`collect_flatMap`: loops one after another.
- Theorem {lit}`map_collect`: a view of what a loop collects.
- Theorem {lit}`exists_runs_of_mapM`: an execution on the elements of a list is a list of
  described runs, one for each element.
- Theorem {lit}`collect_parts`: a loop whose rounds meet a specification is a
  list of parts that meet it in turn.
-/

namespace Foundations

open Program

variable {Op : Type} {Res : Op → Type} {α β σ : Type}

/-- Run the body on every element in order, concatenating the outputs. -/
def collect (body : α → σ → Program Op Res (List β × σ)) :
    List α → σ → Program Op Res (List β × σ)
  | [], state => pure ([], state)
  | a :: as, state => do
      let round ← body a state
      let rest ← collect body as round.2
      pure (round.1 ++ rest.1, rest.2)

/-- One round of a loop: its element, the state it started in, the calls it
made, what it emitted and the state it left. -/
structure Round (Op : Type) (Res : Op → Type) (α β σ : Type) where
  item : α
  start : σ
  events : List (Event Op Res)
  output : List β
  stop : σ

/-- The round is an execution of the loop's body. -/
def Round.Runs (body : α → σ → Program Op Res (List β × σ)) (round : Round Op Res α β σ) : Prop :=
  Executes (body round.item round.start) round.events (round.output, round.stop)

/-- Rounds that run one after another, each from the state the one before
left. -/
inductive Rounds (body : α → σ → Program Op Res (List β × σ)) :
    σ → List (Round Op Res α β σ) → σ → Prop where
  | nil (state : σ) : Rounds body state [] state
  | cons {start state : σ} {round : Round Op Res α β σ} {rest : List (Round Op Res α β σ)} :
      round.start = start → round.Runs body → Rounds body round.stop rest state →
      Rounds body start (round :: rest) state

variable {body : α → σ → Program Op Res (List β × σ)}

/-- The executions of a loop are its chains of rounds. -/
theorem executes_collect_iff {as : List α} {s s' : σ} {trace : List (Event Op Res)}
    {outs : List β} :
    Executes (collect body as s) trace (outs, s') ↔
      ∃ rounds, Rounds body s rounds s' ∧ rounds.map Round.item = as ∧
        trace = rounds.flatMap Round.events ∧ outs = rounds.flatMap Round.output := by
  induction as generalizing s trace outs with
  | nil =>
      simp only [collect, executes_pure_iff, Prod.mk.injEq]
      constructor
      · rintro ⟨rfl, rfl, rfl⟩
        exact ⟨[], .nil _, rfl, rfl, rfl⟩
      · rintro ⟨rounds, hrounds, hitems, rfl, rfl⟩
        rw [List.map_eq_nil_iff] at hitems
        subst hitems
        cases hrounds
        exact ⟨rfl, rfl, rfl⟩
  | cons a as ih =>
      simp only [collect, executes_bind_iff, executes_pure_iff]
      constructor
      · rintro ⟨first, _, ⟨out, stop⟩, rfl, hround, second, _, ⟨outs', s''⟩, rfl, hrest, rfl, hout⟩
        obtain ⟨rfl, rfl⟩ := Prod.mk.inj hout
        obtain ⟨rounds, hrounds, hitems, htrace, houts⟩ := ih.mp hrest
        refine ⟨⟨a, s, first, out, stop⟩ :: rounds, .cons rfl hround hrounds, by simp [hitems],
          by simp [htrace], by simp [houts]⟩
      · rintro ⟨rounds, hrounds, hitems, rfl, rfl⟩
        cases hrounds with
        | nil => simp at hitems
        | @cons _ _ round rest hstart hround hrest =>
            rw [List.map_cons, List.cons.injEq] at hitems
            obtain ⟨rfl, hitems⟩ := hitems
            subst hstart
            refine ⟨round.events, rest.flatMap Round.events, (round.output, round.stop),
              by simp, hround, rest.flatMap Round.events, [],
              (rest.flatMap Round.output, s'), by simp, ?_, rfl, by simp⟩
            exact ih.mpr ⟨rest, hrest, hitems, rfl, rfl⟩

/-- The rounds of two loops in sequence go through a state in the middle. -/
theorem rounds_append_iff {s s'' : σ} {first second : List (Round Op Res α β σ)} :
    Rounds body s (first ++ second) s'' ↔
      ∃ s', Rounds body s first s' ∧ Rounds body s' second s'' := by
  induction first generalizing s with
  | nil =>
      constructor
      · intro h
        exact ⟨s, .nil s, h⟩
      · rintro ⟨s', hnil, h⟩
        cases hnil
        exact h
  | cons round first ih =>
      constructor
      · intro h
        cases h with
        | cons hstart hround hrest =>
            obtain ⟨s', hfirst, hsecond⟩ := ih.mp hrest
            exact ⟨s', .cons hstart hround hfirst, hsecond⟩
      · rintro ⟨s', hfirst, hsecond⟩
        cases hfirst with
        | cons hstart hround hrest => exact .cons hstart hround (ih.mpr ⟨s', hrest, hsecond⟩)

/-- A round starts in the state the rounds before it left. -/
theorem Rounds.split {s s' : σ} {before after : List (Round Op Res α β σ)}
    {round : Round Op Res α β σ} (h : Rounds body s (before ++ round :: after) s') :
    Rounds body s before round.start ∧ round.Runs body ∧ Rounds body round.stop after s' := by
  obtain ⟨start, hbefore, hrest⟩ := rounds_append_iff.mp h
  cases hrest with
  | cons hstart hround hafter => exact ⟨hstart ▸ hbefore, hround, hafter⟩

/-- A relation between the finished rounds and the state holds at the end of a
loop if it holds at its start and every round keeps it. -/
theorem Rounds.invariant {I : List (Round Op Res α β σ) → σ → Prop} {s s' : σ}
    {rounds : List (Round Op Res α β σ)} (h : Rounds body s rounds s')
    (hround : ∀ before round, round ∈ rounds → I before round.start → round.Runs body →
      I (before ++ [round]) round.stop)
    (hs : I [] s) : I rounds s' := by
  induction rounds using List.reverseRecOn generalizing s' with
  | nil =>
      cases h
      exact hs
  | append_singleton rounds round ih =>
      obtain ⟨hbefore, hruns, hnil⟩ := Rounds.split h
      cases hnil
      apply hround rounds round (by simp) _ hruns
      apply ih hbefore
      intro before other hmem
      exact hround before other (by simp [hmem])

theorem collect_singleton (a : α) (s : σ) : collect body [a] s = body a s := by
  simp [collect]

/-- A loop over two lists is one over the first and, from where it stopped, one over the
second. -/
theorem collect_append (as as' : List α) (s : σ) :
    collect body (as ++ as') s =
      (do
        let first ← collect body as s
        let second ← collect body as' first.2
        pure (first.1 ++ second.1, second.2)) := by
  induction as generalizing s with
  | nil => simp [collect]
  | cons a as ih => simp [collect, ih]

/-- A loop over two lists in sequence goes through a state in the middle. -/
theorem executes_collect_append_iff {as as' : List α} {s s' : σ} {trace : List (Event Op Res)}
    {outs : List β} :
    Executes (collect body (as ++ as') s) trace (outs, s') ↔
      ∃ events events' out out' middle, trace = events ++ events' ∧ outs = out ++ out' ∧
        Executes (collect body as s) events (out, middle) ∧
        Executes (collect body as' middle) events' (out', s') := by
  simp only [collect_append, executes_bind_iff, executes_pure_iff, Prod.mk.injEq]
  constructor
  · rintro ⟨events, _, first, rfl, hfirst, events', _, second, rfl, hsecond, rfl, rfl, rfl⟩
    exact ⟨events, events', first.1, second.1, first.2, by simp, rfl, hfirst, hsecond⟩
  · rintro ⟨events, events', out, out', middle, rfl, rfl, hfirst, hsecond⟩
    exact ⟨events, events', (out, middle), rfl, hfirst, events', [], (out', s'), by simp, hsecond,
      rfl, rfl, rfl⟩

/-- A loop of loops is one loop over all the elements. -/
theorem collect_flatMap {γ : Type} (items : γ → List α) (cs : List γ) (s : σ) :
    collect (fun c => collect body (items c)) cs s = collect body (cs.flatMap items) s := by
  induction cs generalizing s with
  | nil => rfl
  | cons c cs ih => simp only [collect, List.flatMap_cons, collect_append, ih]

/-- A view of the outputs of a loop is collected by a loop whose body has this view. -/
theorem map_collect {γ : Type} (view : β → γ) (as : List α) (s : σ) :
    (fun run : List β × σ => (run.1.map view, run.2)) <$> collect body as s =
      collect (fun a s => (fun run : List β × σ => (run.1.map view, run.2)) <$> body a s) as s := by
  induction as generalizing s with
  | nil => rfl
  | cons a as ih =>
      simp only [collect, map_bind, map_pure, List.map_append, ← ih, bind_map_left]

/-! ## What a loop calls, and what it depends on -/

/-- A loop is confined to what its body is confined to. -/
theorem confined_collect {P : Op → Prop} {as : List α}
    (h : ∀ a ∈ as, ∀ state, (body a state).Confined P) (state : σ) :
    (collect body as state).Confined P := by
  induction as generalizing state with
  | nil => exact confined_pure _
  | cons a as ih =>
      apply Confined.bind (h a List.mem_cons_self state)
      intro round
      apply Confined.bind (ih (fun other hmem => h other (List.mem_cons_of_mem _ hmem)) _)
      intro rest
      exact confined_pure _

/-- Loops whose bodies agree on the elements agree. -/
theorem collect_congr {body' : α → σ → Program Op Res (List β × σ)} {as : List α}
    (h : ∀ a ∈ as, ∀ state, body a state = body' a state) (state : σ) :
    collect body as state = collect body' as state := by
  induction as generalizing state with
  | nil => rfl
  | cons a as ih =>
      have hrest := fun next => ih (fun other hmem => h other (List.mem_cons_of_mem _ hmem)) next
      simp only [collect, h a List.mem_cons_self, hrest]

/-- What the calls and outputs of every round have, and consecutive rounds keep, a whole
loop has. -/
theorem collect_closed {P : List (Event Op Res) → List β → Prop} (hnil : P [] [])
    (happend : ∀ events outs events' outs', P events outs → P events' outs' →
      P (events ++ events') (outs ++ outs'))
    {as : List α} (hbody : ∀ a ∈ as, ∀ s trace outs s',
      Executes (body a s) trace (outs, s') → P trace outs)
    {s s' : σ} {trace : List (Event Op Res)} {outs : List β}
    (h : Executes (collect body as s) trace (outs, s')) : P trace outs := by
  rcases executes_collect_iff.mp h with ⟨rounds, hrounds, rfl, rfl, rfl⟩
  clear h
  induction hrounds with
  | nil => exact hnil
  | cons _ hround _ ih =>
      have hfirst := hbody _ List.mem_cons_self _ _ _ _ hround
      exact happend _ _ _ _ hfirst (ih fun a hmem => hbody a (List.mem_cons_of_mem _ hmem))

/-- Where it is known what each element leaves, seen in some way, it is known of the loop. -/
theorem collect_outputs {γ : Type} {view : β → γ} {left : α → List γ} {as : List α}
    (hbody : ∀ a ∈ as, ∀ s trace outs s', Executes (body a s) trace (outs, s') →
      outs.map view = left a)
    {s s' : σ} {trace : List (Event Op Res)} {outs : List β}
    (h : Executes (collect body as s) trace (outs, s')) : outs.map view = as.flatMap left := by
  rcases executes_collect_iff.mp h with ⟨rounds, hrounds, rfl, rfl, rfl⟩
  clear h
  induction hrounds with
  | nil => rfl
  | cons _ hround _ ih =>
      have hfirst := hbody _ List.mem_cons_self _ _ _ _ hround
      have hrest := ih fun a hmem => hbody a (List.mem_cons_of_mem _ hmem)
      rw [List.flatMap_cons, List.map_append, List.map_cons, List.flatMap_cons, hfirst, hrest]

/-! ## One program on each element -/

/-- Runs of a program on their own elements are a run of it on these elements in turn. -/
theorem executes_mapM_of_runs {ι ρ : Type} {f : ι → Program Op Res α} (item : ρ → ι)
    (events : ρ → List (Event Op Res)) (result : ρ → α) {runs : List ρ}
    (h : ∀ run ∈ runs, Executes (f (item run)) (events run) (result run)) :
    Executes ((runs.map item).mapM f) (runs.flatMap events) (runs.map result) := by
  refine executes_mapM_iff.mpr
    ⟨runs.map fun run => (item run, events run, result run), by simp, ?_, by simp, ?_⟩
  · rw [List.flatMap_map]
  · intro parts hparts
    rcases List.mem_map.mp hparts with ⟨run, hrun, rfl⟩
    exact h run hrun

/-- Where every execution on an element is one of a described run, an execution on the
elements in turn is a list of described runs. -/
theorem exists_runs_of_mapM {ι ρ : Type} {f : ι → Program Op Res α} {P : ρ → Prop} (item : ρ → ι)
    (events : ρ → List (Event Op Res)) (result : ρ → α)
    (hrun : ∀ i trace a, Executes (f i) trace a →
      ∃ run, P run ∧ item run = i ∧ events run = trace ∧ result run = a)
    {items : List ι} {trace : List (Event Op Res)} {as : List α}
    (h : Executes (items.mapM f) trace as) :
    ∃ runs : List ρ, runs.map item = items ∧ runs.flatMap events = trace ∧ runs.map result = as ∧
      ∀ run ∈ runs, P run := by
  induction items generalizing trace as with
  | nil =>
      rw [List.mapM_nil, executes_pure_iff] at h
      rcases h with ⟨rfl, rfl⟩
      exact ⟨[], rfl, rfl, rfl, by simp⟩
  | cons i items ih =>
      rw [List.mapM_cons] at h
      rcases executes_bind_iff.mp h with ⟨front, _, a, rfl, hfirst, hlater⟩
      rcases executes_bind_iff.mp hlater with ⟨back, _, rest, rfl, hrest, hpure⟩
      rcases executes_pure_iff.mp hpure with ⟨rfl, rfl⟩
      rcases hrun i front a hfirst with ⟨run, hP, rfl, rfl, rfl⟩
      rcases ih hrest with ⟨runs, rfl, rfl, rfl, hall⟩
      refine ⟨run :: runs, rfl, by simp, rfl, ?_⟩
      intro other hother
      rcases List.mem_cons.mp hother with rfl | hmem
      · exact hP
      · exact hall other hmem

/-! ## Annotated loops -/

/-- A loop whose rounds each emit annotated outputs and whose state has a
summary that the annotated outputs update.  If one round meets `Spec` relative
to the summary it starts from, then the whole loop is a list of parts, one for
each element, each meeting `Spec` relative to the summary of everything emitted
before it. -/
theorem collect_parts {γ η : Type} (Spec : η → α → List γ → Prop) (output : γ → β)
    (events : γ → List (Event Op Res)) (summary : σ → η) (update : η → List γ → η)
    (hnil : ∀ seen, update seen [] = seen)
    (happend : ∀ seen first second,
      update seen (first ++ second) = update (update seen first) second)
    (hbody : ∀ a s trace outs s', Executes (body a s) trace (outs, s') →
      ∃ emitted, Spec (summary s) a emitted ∧ outs = emitted.map output ∧
        trace = emitted.flatMap events ∧ summary s' = update (summary s) emitted)
    {as : List α} {s s' : σ} {trace : List (Event Op Res)} {outs : List β}
    (h : Executes (collect body as s) trace (outs, s')) :
    ∃ parts : List (α × List γ), parts.map Prod.fst = as ∧
      outs = (parts.flatMap Prod.snd).map output ∧
      trace = (parts.flatMap Prod.snd).flatMap events ∧
      (∀ before part after, parts = before ++ part :: after →
        Spec (update (summary s) (before.flatMap Prod.snd)) part.1 part.2) ∧
      summary s' = update (summary s) (parts.flatMap Prod.snd) := by
  rcases executes_collect_iff.mp h with ⟨rounds, hrounds, rfl, rfl, rfl⟩
  clear h
  induction hrounds with
  | nil state => exact ⟨[], rfl, rfl, rfl, by simp, by simp [hnil]⟩
  | @cons start state round rest hstart hround _ ih =>
      subst hstart
      rcases hbody _ _ _ _ _ hround with ⟨emitted, hspec, hout, hevents, hsummary⟩
      rcases ih with ⟨parts, hitems, houts, htrace, hparts, hstop⟩
      refine ⟨(round.item, emitted) :: parts, by simp [hitems], by simp [hout, houts],
        by simp [hevents, htrace], ?_, by simp [happend, hstop, hsummary]⟩
      intro before part after hsplit
      cases before with
      | nil =>
          rw [List.nil_append, List.cons.injEq] at hsplit
          rw [← hsplit.1]
          simpa [hnil] using hspec
      | cons first before =>
          rw [List.cons_append, List.cons.injEq] at hsplit
          have hpart := hparts before part after hsplit.2
          rw [hsummary] at hpart
          rw [← hsplit.1]
          simpa [happend] using hpart

end Foundations
