import VerifierCore.Foundations.Program

/-!
# Runs of interleaved calls

Several calls run at once on one world: each makes, in order, the events of one
execution of its program, and the events of different calls interleave freely.
A sequence of calls is the run in which no two of them overlap.

What a call reads was written before it by some call, and that call had, by its
own execution, a reason to write it.  So what may be concluded from a read is what
any call of the run can only write for a reason; the scheduling plays no part.

Main results:

- Theorem {lit}`justified_flatMap`: a sequence of justified parts is justified.
- Theorem {lit}`Run.own_of_split`: a call's own events continue after any cut of
  the history.
- Theorem {lit}`Run.justified_event`: every event of a run has its reason among
  the earlier events of its own call.
- Theorem {lit}`Run.exists_write`: every read of a run was served by a write with
  its reason.
- Theorem {lit}`Run.follows_sequential`: calls made one after the other are a run.
-/

namespace Foundations

open Program

variable {T κ α : Type} {Op : Type} {Res : Op → Type}

/-- One event of a run: the call that made it, when, and the event itself. -/
structure Stamped (T : Type) (Op : Type) (Res : Op → Type) where
  thread : Nat
  time : T
  event : Event Op Res

/-- The events one call made, in order. -/
def own (history : List (Stamped T Op Res)) (i : Nat) : List (Event Op Res) :=
  (history.filter fun stamped => stamped.thread = i).map Stamped.event

@[simp]
theorem own_nil (i : Nat) : own ([] : List (Stamped T Op Res)) i = [] :=
  rfl

/-- The events of a call in consecutive histories follow each other. -/
@[simp]
theorem own_append (first second : List (Stamped T Op Res)) (i : Nat) :
    own (first ++ second) i = own first i ++ own second i := by
  simp [own]

/-- An event is one of its own call only. -/
theorem own_cons (stamped : Stamped T Op Res) (history : List (Stamped T Op Res)) (i : Nat) :
    own (stamped :: history) i =
      if stamped.thread = i then stamped.event :: own history i else own history i := by
  by_cases h : stamped.thread = i
  · simp [own, h]
  · simp [own, h]

/-- A call's events are those of the history that it made. -/
theorem mem_own_iff {history : List (Stamped T Op Res)} {i : Nat} {event : Event Op Res} :
    event ∈ own history i ↔
      ∃ stamped ∈ history, stamped.thread = i ∧ stamped.event = event := by
  simp [own, and_assoc]

/-- Every event of a call is an event of the history, with a cut in front of it. -/
theorem exists_split_of_mem_own {history : List (Stamped T Op Res)} {i : Nat}
    {event : Event Op Res} (h : event ∈ own history i) :
    ∃ before stamped after, history = before ++ stamped :: after ∧ stamped.thread = i ∧
      stamped.event = event := by
  rcases mem_own_iff.mp h with ⟨stamped, hmem, hthread, hevent⟩
  rcases List.append_of_mem hmem with ⟨before, after, hsplit⟩
  exact ⟨before, stamped, after, hsplit, hthread, hevent⟩

/-- A cut of a call's own events is made by a cut of the history. -/
theorem exists_split_of_own_eq {history : List (Stamped T Op Res)} {i : Nat}
    {front rest : List (Event Op Res)} {event : Event Op Res}
    (h : own history i = front ++ event :: rest) :
    ∃ before stamped after, history = before ++ stamped :: after ∧ own before i = front ∧
      stamped.thread = i ∧ stamped.event = event := by
  induction history generalizing front with
  | nil => simp at h
  | cons first history ih =>
      rw [own_cons] at h
      split_ifs at h with hthread
      · cases front with
        | nil =>
            obtain ⟨hevent, _⟩ := List.cons.inj h
            exact ⟨[], first, history, rfl, rfl, hthread, hevent⟩
        | cons head front =>
            obtain ⟨rfl, htail⟩ := List.cons.inj h
            obtain ⟨before, stamped, after, rfl, hfront, hown⟩ := ih htail
            refine ⟨first :: before, stamped, after, rfl, ?_, hown⟩
            rw [own_cons, if_pos hthread, hfront]
      · obtain ⟨before, stamped, after, rfl, hfront, hown⟩ := ih h
        refine ⟨first :: before, stamped, after, rfl, ?_, hown⟩
        rw [own_cons, if_neg hthread, hfront]

/-! ## Justified events -/

/-- Every event of a trace has a reason among the events in front of it. -/
def Justified {E : Type} (J : List E → E → Prop) (trace : List E) : Prop :=
  ∀ front event rest, trace = front ++ event :: rest → J front event

section

variable {E : Type} {J : List E → E → Prop}

/-- Events that need no justification are justified. -/
theorem justified_of_forall {trace : List E} (h : ∀ event ∈ trace, ∀ front, J front event) :
    Justified J trace := by
  intro front event rest hsplit
  have hmem : event ∈ trace := by simp [hsplit]
  exact h event hmem front

/-- What is justified is justified by less. -/
theorem Justified.imp {J' : List E → E → Prop} {trace : List E} (h : Justified J trace)
    (himp : ∀ front event, J front event → J' front event) : Justified J' trace := by
  intro front event rest hsplit
  exact himp front event (h front event rest hsplit)

/-- One more event keeps a trace justified if the trace justifies it. -/
theorem justified_concat {trace : List E} {last : E} (h : Justified J trace)
    (hlast : J trace last) : Justified J (trace ++ [last]) := by
  intro front event rest hsplit
  rcases List.append_eq_append_iff.mp hsplit with ⟨middle, rfl, hrest⟩ | ⟨middle, rfl, hrest⟩
  · cases middle with
    | nil =>
        have hlastEq : last = event := by simpa using (List.cons.inj hrest).1
        rw [← hlastEq]
        simpa using hlast
    | cons head middle => simp at hrest
  · cases middle with
    | nil =>
        have hlastEq : event = last := by simpa using (List.cons.inj hrest).1
        rw [hlastEq]
        simpa using hlast
    | cons head middle =>
        rw [List.cons_append, List.cons.injEq] at hrest
        rcases hrest with ⟨rfl, _⟩
        exact h front event middle rfl

/-- Reasons carry over to a longer trace when more events in front take none away. -/
theorem justified_append {first second : List E}
    (hmono : ∀ more front event, J front event → J (more ++ front) event)
    (hfirst : Justified J first) (hsecond : Justified J second) :
    Justified J (first ++ second) := by
  intro front event rest hsplit
  rcases List.append_eq_append_iff.mp hsplit with ⟨middle, rfl, hrest⟩ | ⟨middle, rfl, hrest⟩
  · have hreason := hsecond middle event rest hrest
    exact hmono first middle event hreason
  · cases middle with
    | nil =>
        have hreason := hsecond [] event rest (by simpa using hrest.symm)
        simpa using hmono front [] event hreason
    | cons head middle =>
        rw [List.cons_append, List.cons.injEq] at hrest
        rcases hrest with ⟨rfl, _⟩
        exact hfirst front event middle rfl

/-- Parts that are justified by themselves are so one after another. -/
theorem justified_flatMap {ι : Type} {parts : List ι} {events : ι → List E}
    (hmono : ∀ more front event, J front event → J (more ++ front) event)
    (hparts : ∀ part ∈ parts, Justified J (events part)) :
    Justified J (parts.flatMap events) := by
  induction parts with
  | nil => exact justified_of_forall (by simp)
  | cons part parts ih =>
      rw [List.flatMap_cons]
      apply justified_append hmono (hparts part List.mem_cons_self)
      apply ih
      intro other hmem
      exact hparts other (List.mem_cons_of_mem _ hmem)

end

/-! ## Runs -/

/-- The calls made in a run and everything they did. -/
structure Run (κ : Type) (T : Type) (Op : Type) (Res : Op → Type) where
  calls : List κ
  history : List (Stamped T Op Res)

namespace Run

/-- Every event belongs to a call, and the events of each call are the beginning
of an execution of its program. -/
structure Follows (run : Run κ T Op Res) (program : κ → Program Op Res α) : Prop where
  threads : ∀ stamped ∈ run.history, ∃ call, run.calls[stamped.thread]? = some call
  executes : ∀ i call, run.calls[i]? = some call →
    ∃ rest a, Executes (program call) (own run.history i ++ rest) a

/-- The call at `i` has returned `a`. -/
structure Returns (run : Run κ T Op Res) (program : κ → Program Op Res α) (i : Nat) (call : κ)
    (a : α) : Prop where
  called : run.calls[i]? = some call
  executes : Executes (program call) (own run.history i) a

/-- Behind any cut of the history, the call whose event comes next goes on with
its own execution. -/
theorem own_of_split {run : Run κ T Op Res} {program : κ → Program Op Res α}
    (h : run.Follows program) {before after : List (Stamped T Op Res)}
    {stamped : Stamped T Op Res} (hsplit : run.history = before ++ stamped :: after) :
    ∃ call, run.calls[stamped.thread]? = some call ∧
      ∃ rest a, Executes (program call)
        (own before stamped.thread ++ stamped.event :: rest) a := by
  have hmem : stamped ∈ run.history := by simp [hsplit]
  rcases h.threads stamped hmem with ⟨call, hcall⟩
  rcases h.executes stamped.thread call hcall with ⟨rest, a, hexec⟩
  refine ⟨call, hcall, own after stamped.thread ++ rest, a, ?_⟩
  rw [hsplit, own_append, own_cons, if_pos rfl] at hexec
  simpa using hexec

/-! ## What is read was written -/

/-- If every execution of a call justifies its events, then each event of a run is
justified by the earlier ones of its own call. -/
theorem justified_event {run : Run κ T Op Res} {program : κ → Program Op Res α}
    {J : κ → List (Event Op Res) → Event Op Res → Prop} (hfollows : run.Follows program)
    (hjustified : ∀ call ∈ run.calls, ∀ trace a, Executes (program call) trace a →
      Justified (J call) trace)
    {before after : List (Stamped T Op Res)} {stamped : Stamped T Op Res}
    (hsplit : run.history = before ++ stamped :: after) :
    ∃ call, run.calls[stamped.thread]? = some call ∧
      J call (own before stamped.thread) stamped.event := by
  rcases own_of_split hfollows hsplit with ⟨call, hcall, rest, a, hexec⟩
  have hmem : call ∈ run.calls := List.mem_of_getElem? hcall
  exact ⟨call, hcall, hjustified call hmem _ a hexec _ _ rest rfl⟩

/-- Every event that reads was served by an earlier event. -/
def Served (reads : Event Op Res → Prop) (serves : Stamped T Op Res → Stamped T Op Res → Prop)
    (history : List (Stamped T Op Res)) : Prop :=
  ∀ before stamped after, history = before ++ stamped :: after → reads stamped.event →
    ∃ earlier write later, before = earlier ++ write :: later ∧ serves write stamped

/-- A read of a run was served by an earlier write, which its own call justifies. -/
theorem exists_write {run : Run κ T Op Res} {program : κ → Program Op Res α}
    {reads : Event Op Res → Prop} {serves : Stamped T Op Res → Stamped T Op Res → Prop}
    {J : κ → List (Event Op Res) → Event Op Res → Prop} (hfollows : run.Follows program)
    (hserved : Served reads serves run.history)
    (hjustified : ∀ call ∈ run.calls, ∀ trace a, Executes (program call) trace a →
      Justified (J call) trace)
    {before after : List (Stamped T Op Res)} {stamped : Stamped T Op Res}
    (hsplit : run.history = before ++ stamped :: after) (hreads : reads stamped.event) :
    ∃ earlier write between call, before = earlier ++ write :: between ∧ serves write stamped ∧
      run.calls[write.thread]? = some call ∧
        J call (own earlier write.thread) write.event := by
  rcases hserved before stamped after hsplit hreads with ⟨earlier, write, between, rfl, hserves⟩
  have hwrite : run.history = earlier ++ write :: (between ++ stamped :: after) := by
    simp [hsplit]
  rcases justified_event hfollows hjustified hwrite with ⟨call, hcall, hreason⟩
  exact ⟨earlier, write, between, call, rfl, hserves, hcall, hreason⟩

/-- The call at `i` wrote what a read of the call at `j` was served later. -/
def Feeds (run : Run κ T Op Res) (reads : Event Op Res → Prop)
    (serves : Stamped T Op Res → Stamped T Op Res → Prop) (i j : Nat) : Prop :=
  ∃ before write between read after,
    run.history = before ++ write :: between ++ read :: after ∧ write.thread = i ∧
      read.thread = j ∧ reads read.event ∧ serves write read

/-! ## One call after the other -/

/-- The events of calls made one after the other, numbered from `i` on. -/
def sequence (i : Nat) : List (κ × List (T × Event Op Res)) → List (Stamped T Op Res)
  | [] => []
  | (_, events) :: rest =>
      events.map (fun timed => ⟨i, timed.1, timed.2⟩) ++ sequence (i + 1) rest

/-- The run in which each call ends before the next begins. -/
def sequential (parts : List (κ × List (T × Event Op Res))) : Run κ T Op Res :=
  { calls := parts.map Prod.fst, history := sequence 0 parts }

/-- Events that are all stamped with one call are all its own. -/
theorem own_map (i j : Nat) (events : List (T × Event Op Res)) :
    own (events.map fun timed => (⟨i, timed.1, timed.2⟩ : Stamped T Op Res)) j =
      if i = j then events.map Prod.snd else [] := by
  by_cases h : i = j
  · simp [own, h, List.filter_map, Function.comp_def]
  · simp [own, h, List.filter_map, Function.comp_def]

/-- A call that came before makes no event of the sequence. -/
theorem own_sequence_of_lt {i j : Nat} (h : j < i)
    (parts : List (κ × List (T × Event Op Res))) : own (sequence i parts) j = [] := by
  induction parts generalizing i with
  | nil => rfl
  | cons part rest ih =>
      have hnot : ¬i = j := by omega
      rw [sequence, own_append, own_map, if_neg hnot, ih (by omega), List.append_nil]

/-- A call's own events are the ones it was given. -/
theorem own_sequence (i j : Nat) (parts : List (κ × List (T × Event Op Res))) :
    own (sequence i parts) (i + j) = (parts[j]?.elim [] fun part => part.2.map Prod.snd) := by
  induction parts generalizing i j with
  | nil => rfl
  | cons part rest ih =>
      rw [sequence, own_append, own_map]
      cases j with
      | zero =>
          have hlater : own (sequence (i + 1) rest) i = [] := own_sequence_of_lt (by omega) rest
          simp [hlater]
      | succ j =>
          have hnext := ih (i + 1) j
          have hindex : i + 1 + j = i + (j + 1) := by omega
          rw [hindex] at hnext
          rw [if_neg (by omega), List.nil_append, hnext]
          rfl

/-- The calls of a sequence are numbered in turn. -/
theorem thread_sequence {i : Nat} {parts : List (κ × List (T × Event Op Res))}
    {stamped : Stamped T Op Res} (h : stamped ∈ sequence i parts) :
    i ≤ stamped.thread ∧ stamped.thread < i + parts.length := by
  induction parts generalizing i with
  | nil => simp [sequence] at h
  | cons part rest ih =>
      rw [sequence, List.mem_append] at h
      rcases h with hmem | hmem
      · rcases List.mem_map.mp hmem with ⟨timed, _, rfl⟩
        simp
      · have hlater := ih hmem
        rw [List.length_cons]
        omega

/-- If each part executes its call, the calls return in the sequential run. -/
theorem returns_sequential {program : κ → Program Op Res α}
    {parts : List (κ × List (T × Event Op Res))} {i : Nat} {part : κ × List (T × Event Op Res)}
    {a : α} (hpart : parts[i]? = some part)
    (hexec : Executes (program part.1) (part.2.map Prod.snd) a) :
    (sequential parts).Returns program i part.1 a := by
  refine ⟨by simp [sequential, hpart], ?_⟩
  have hown := own_sequence 0 i parts
  rw [Nat.zero_add, hpart] at hown
  rw [sequential, hown]
  exact hexec

/-- If each part executes its call, the sequential run follows the program. -/
theorem follows_sequential {program : κ → Program Op Res α}
    {parts : List (κ × List (T × Event Op Res))}
    (h : ∀ part ∈ parts, ∃ a, Executes (program part.1) (part.2.map Prod.snd) a) :
    (sequential parts).Follows program where
  threads := by
    intro stamped hmem
    have hbound := thread_sequence hmem
    rw [Nat.zero_add] at hbound
    exact ⟨_, List.getElem?_eq_getElem (by simpa [sequential] using hbound.2)⟩
  executes := by
    intro i call hcall
    rw [sequential, List.getElem?_map, Option.map_eq_some_iff] at hcall
    rcases hcall with ⟨part, hpart, rfl⟩
    rcases h part (List.mem_of_getElem? hpart) with ⟨a, hexec⟩
    refine ⟨[], a, ?_⟩
    rw [List.append_nil]
    exact (returns_sequential hpart hexec).executes

end Run

end Foundations
