import VerifierCore.Foundations.Interleaving

/-!
# Runs inside runs

Each execution of an outer program may have one part that executes an inner program, with
outside calls in front of it and behind it.  The parts of the calls of a run are then a run of
the inner program, on the same history without outside events.

Main results:

- Theorem {lit}`exists_thinned`: a history can be thinned to a part of each call.
- Theorems {lit}`Hosts.of_bind` and {lit}`Hosts.bind`: outside calls around the part.
- Theorem {lit}`Run.exists_inner`: the run of the parts.
- Theorem {lit}`Run.Served.thinned`: what was served still is.
-/

namespace Foundations

open Program

variable {T κ ι α β : Type} {Op : Type} {Res : Op → Type} {outside : Op → Prop}

/-! ## Thinned histories -/

/-- The second history is the first without some outside events. -/
inductive Thinned (outside : Op → Prop) :
    List (Stamped T Op Res) → List (Stamped T Op Res) → Prop where
  | nil : Thinned outside [] []
  | drop {stamped : Stamped T Op Res} {history kept : List (Stamped T Op Res)} :
      outside stamped.event.op → Thinned outside history kept →
      Thinned outside (stamped :: history) kept
  | keep {stamped : Stamped T Op Res} {history kept : List (Stamped T Op Res)} :
      Thinned outside history kept → Thinned outside (stamped :: history) (stamped :: kept)

/-- What is kept of a history is a part of it, in its order. -/
theorem Thinned.sublist {history kept : List (Stamped T Op Res)} (h : Thinned outside history kept) :
    kept.Sublist history := by
  induction h with
  | nil => exact .slnil
  | drop _ _ ih => exact .cons _ ih
  | keep _ ih => exact .cons_cons _ ih

/-- A cut of the thinned history comes from a cut of the whole one. -/
theorem Thinned.exists_split {history before after : List (Stamped T Op Res)}
    {stamped : Stamped T Op Res} (h : Thinned outside history (before ++ stamped :: after)) :
    ∃ front back, history = front ++ stamped :: back ∧ Thinned outside front before := by
  generalize hkept : before ++ stamped :: after = kept at h
  induction h generalizing before with
  | nil => simp at hkept
  | @drop dropped history kept hout _ ih =>
      obtain ⟨front, back, rfl, hfront⟩ := ih hkept
      exact ⟨dropped :: front, back, rfl, .drop hout hfront⟩
  | @keep first history kept hthinned ih =>
      cases before with
      | nil =>
          obtain ⟨rfl, rfl⟩ := List.cons.inj hkept
          exact ⟨[], history, rfl, .nil⟩
      | cons head before =>
          obtain ⟨rfl, htail⟩ := List.cons.inj hkept
          obtain ⟨front, back, rfl, hfront⟩ := ih htail
          exact ⟨head :: front, back, rfl, .keep hfront⟩

/-- What is not outside is kept. -/
theorem Thinned.mem {history kept : List (Stamped T Op Res)} (h : Thinned outside history kept)
    {stamped : Stamped T Op Res} (hmem : stamped ∈ history)
    (hinside : ¬outside stamped.event.op) : stamped ∈ kept := by
  induction h with
  | nil => cases hmem
  | drop hout _ ih =>
      rcases List.mem_cons.mp hmem with rfl | htail
      · exact absurd hout hinside
      · exact ih htail
  | keep _ ih =>
      rcases List.mem_cons.mp hmem with rfl | htail
      · exact List.mem_cons_self
      · exact List.mem_cons_of_mem _ (ih htail)

/-- If what serves is never outside, reads that were served still are. -/
theorem Run.Served.thinned {reads : Event Op Res → Prop}
    {serves : Stamped T Op Res → Stamped T Op Res → Prop} {history kept : List (Stamped T Op Res)}
    (hserved : Run.Served reads serves history) (hthinned : Thinned outside history kept)
    (hinside : ∀ write read, serves write read → ¬outside write.event.op) :
    Run.Served reads serves kept := by
  rintro before stamped after rfl hreads
  obtain ⟨front, back, hsplit, hfront⟩ := hthinned.exists_split
  obtain ⟨earlier, write, later, rfl, hserves⟩ := hserved front stamped back hsplit hreads
  have hmem := hfront.mem (by simp) (hinside write stamped hserves)
  obtain ⟨earlier', later', hcut⟩ := List.append_of_mem hmem
  exact ⟨earlier', write, later', hcut, hserves⟩

/-! ## Parts of calls -/

/-- The events of a call, with a part of them marked. -/
structure Parted (Op : Type) (Res : Op → Type) where
  front : List (Event Op Res)
  part : List (Event Op Res)
  back : List (Event Op Res)

namespace Parted

/-- All that the call did. -/
def whole (parted : Parted Op Res) : List (Event Op Res) :=
  parted.front ++ parted.part ++ parted.back

/-- Only outside calls are made around the part. -/
def Within (outside : Op → Prop) (parted : Parted Op Res) : Prop :=
  ∀ event ∈ parted.front ++ parted.back, outside event.op

/-- What of some first events lies in the part. -/
def inside (parted : Parted Op Res) (events : List (Event Op Res)) : List (Event Op Res) :=
  (events.drop parted.front.length).take parted.part.length

/-- The part of the whole is the part. -/
theorem inside_whole (parted : Parted Op Res) : parted.inside parted.whole = parted.part := by
  simp [inside, whole, List.append_assoc]

/-- What was done so far holds a beginning of the part. -/
theorem inside_isPrefix {parted : Parted Op Res} {events : List (Event Op Res)}
    (h : events <+: parted.whole) : parted.inside events <+: parted.part := by
  obtain ⟨rest, hrest⟩ := h
  rw [← inside_whole, ← hrest, inside, inside, List.drop_append, List.take_append]
  exact List.prefix_append _ _

/-- The part stands together in what was done. -/
theorem inside_isInfix (parted : Parted Op Res) (events : List (Event Op Res)) :
    parted.inside events <:+: events :=
  (List.take_prefix _ _).isInfix.trans (List.drop_suffix _ _).isInfix

/-- The first event is one in front of the part, one of it or one behind it. -/
theorem exists_next {parted : Parted Op Res} {event : Event Op Res} {events : List (Event Op Res)}
    (h : event :: events <+: parted.whole) :
    ∃ next : Parted Op Res, events <+: next.whole ∧
      (parted = { next with front := event :: next.front } ∨
        next.front = [] ∧ parted = { next with part := event :: next.part } ∨
        next.front = [] ∧ next.part = [] ∧ parted = { next with back := event :: next.back }) := by
  rcases parted with ⟨front, part, back⟩
  cases front with
  | cons head front =>
      obtain ⟨rfl, hrest⟩ := List.cons_prefix_cons.mp h
      exact ⟨⟨front, part, back⟩, hrest, .inl rfl⟩
  | nil =>
      cases part with
      | cons head part =>
          obtain ⟨rfl, hrest⟩ := List.cons_prefix_cons.mp h
          exact ⟨⟨[], part, back⟩, hrest, .inr (.inl ⟨rfl, rfl⟩)⟩
      | nil =>
          cases back with
          | cons head back =>
              obtain ⟨rfl, hrest⟩ := List.cons_prefix_cons.mp h
              exact ⟨⟨[], [], back⟩, hrest, .inr (.inr ⟨rfl, rfl, rfl⟩)⟩
          | nil => simp [whole] at h

end Parted

/-- The events of a call are thinned to its part. -/
def ThinnedTo (history kept : List (Stamped T Op Res)) (parted : Parted Op Res) (i : Nat) : Prop :=
  own kept i = parted.inside (own history i)

section

variable {history kept : List (Stamped T Op Res)} {stamped : Stamped T Op Res}
  {parted next : Parted Op Res} {i : Nat}

theorem own_cons_self : own (stamped :: history) stamped.thread =
    stamped.event :: own history stamped.thread := by
  rw [own_cons, if_pos rfl]

theorem own_cons_of_ne (hi : i ≠ stamped.thread) : own (stamped :: history) i = own history i := by
  rw [own_cons, if_neg (Ne.symm hi)]

/-- An event of another call is dropped or kept. -/
theorem ThinnedTo.drop_of_ne (h : ThinnedTo history kept parted i) (hi : i ≠ stamped.thread) :
    ThinnedTo (stamped :: history) kept parted i := by
  rw [ThinnedTo, own_cons_of_ne hi]
  exact h

/-- An event of another call is kept. -/
theorem ThinnedTo.keep_of_ne (h : ThinnedTo history kept parted i) (hi : i ≠ stamped.thread) :
    ThinnedTo (stamped :: history) (stamped :: kept) parted i := by
  rw [ThinnedTo, own_cons_of_ne hi, own_cons_of_ne hi]
  exact h

/-- An event of the call itself is dropped while it stands in front of the part. -/
theorem ThinnedTo.drop_front (h : ThinnedTo history kept next stamped.thread)
    (hparted : parted = { next with front := stamped.event :: next.front }) :
    ThinnedTo (stamped :: history) kept parted stamped.thread := by
  rw [ThinnedTo, own_cons_self, hparted]
  exact h

/-- An event of the call's part is kept. -/
theorem ThinnedTo.keep_part (h : ThinnedTo history kept next stamped.thread)
    (hfront : next.front = []) (hparted : parted = { next with part := stamped.event :: next.part }) :
    ThinnedTo (stamped :: history) (stamped :: kept) parted stamped.thread := by
  rw [ThinnedTo, Parted.inside, hfront] at h
  rw [ThinnedTo, own_cons_self, own_cons_self, h, hparted, Parted.inside, hfront]
  rfl

/-- An event of the call itself is dropped once its part is over. -/
theorem ThinnedTo.drop_back (h : ThinnedTo history kept next stamped.thread)
    (hpart : next.part = [])
    (hparted : parted = { next with back := stamped.event :: next.back }) :
    ThinnedTo (stamped :: history) kept parted stamped.thread := by
  rw [ThinnedTo, Parted.inside, hpart] at h
  rw [ThinnedTo, h, hparted, Parted.inside, hpart]
  simp

end

/-- A history can be thinned to a part of each call. -/
theorem exists_thinned {history : List (Stamped T Op Res)} {parted : Nat → Parted Op Res}
    (hwithin : ∀ i, (parted i).Within outside)
    (hown : ∀ i, own history i <+: (parted i).whole) :
    ∃ kept, Thinned outside history kept ∧ ∀ i, ThinnedTo history kept (parted i) i := by
  induction history generalizing parted with
  | nil => exact ⟨[], .nil, fun i => by simp [ThinnedTo, Parted.inside]⟩
  | cons stamped history ih =>
      have hfirst := hown stamped.thread
      rw [own_cons_self] at hfirst
      obtain ⟨next, hrest, hcases⟩ := Parted.exists_next hfirst
      -- The rest of the history is thinned with what is left of the call of its first event.
      have hbefore := hwithin stamped.thread
      have hnext : next.Within outside := by
        intro event hmem
        apply hbefore event
        rcases hcases with hparted | ⟨_, hparted⟩ | ⟨_, _, hparted⟩
        · rw [hparted]
          exact List.mem_cons_of_mem _ hmem
        · rw [hparted]
          exact hmem
        · rw [hparted]
          rcases List.mem_append.mp hmem with hfront | hback
          · exact List.mem_append_left _ hfront
          · exact List.mem_append_right _ (List.mem_cons_of_mem _ hback)
      obtain ⟨kept, hthinned, hkept⟩ := @ih (Function.update parted stamped.thread next)
        (by
          intro i
          by_cases hi : i = stamped.thread
          · subst hi
            rwa [Function.update_self]
          · rw [Function.update_of_ne hi]
            exact hwithin i)
        (by
          intro i
          by_cases hi : i = stamped.thread
          · subst hi
            rwa [Function.update_self]
          · rw [Function.update_of_ne hi, ← own_cons_of_ne hi]
            exact hown i)
      have hself : ThinnedTo history kept next stamped.thread := by
        have hnow := hkept stamped.thread
        rwa [Function.update_self] at hnow
      have hothers : ∀ i, i ≠ stamped.thread → ThinnedTo history kept (parted i) i := by
        intro i hi
        have hnow := hkept i
        rwa [Function.update_of_ne hi] at hnow
      -- In front of the part and behind it the event is dropped.
      have hdropped (hout : outside stamped.event.op)
          (hthread : ThinnedTo (stamped :: history) kept (parted stamped.thread) stamped.thread) :
          ∃ kept, Thinned outside (stamped :: history) kept ∧
            ∀ i, ThinnedTo (stamped :: history) kept (parted i) i := by
        refine ⟨kept, .drop hout hthinned, fun i => ?_⟩
        by_cases hi : i = stamped.thread
        · subst hi
          exact hthread
        · exact (hothers i hi).drop_of_ne hi
      rcases hcases with hparted | ⟨hfront, hparted⟩ | ⟨_, hpart, hparted⟩
      · apply hdropped _ (hself.drop_front hparted)
        apply hbefore
        rw [hparted]
        exact List.mem_cons_self
      · refine ⟨stamped :: kept, .keep hthinned, fun i => ?_⟩
        by_cases hi : i = stamped.thread
        · subst hi
          exact hself.keep_part hfront hparted
        · exact (hothers i hi).keep_of_ne hi
      · apply hdropped _ (hself.drop_back hpart hparted)
        apply hbefore
        rw [hparted]
        exact List.mem_append_right _ List.mem_cons_self

/-! ## Programs with an inner part -/

/-- Each execution of the outer program has a part that executes the inner one, or none, and
makes only outside calls around it. -/
def Hosts (outside : Op → Prop) (R : α → Option β → Prop) (outer : Program Op Res α)
    (inner : Program Op Res β) : Prop :=
  ∀ trace a, Executes outer trace a → ∃ parted : Parted Op Res, trace = parted.whole ∧
    parted.Within outside ∧
    ((parted.part = [] ∧ R a none) ∨ ∃ b, Executes inner parted.part b ∧ R a (some b))

section

variable {γ : Type} {R : α → Option β → Prop} {S : γ → Option β → Prop} {inner : Program Op Res β}

/-- Outside calls have no part. -/
theorem Hosts.of_confined {outer : Program Op Res α} (houter : outer.Confined outside)
    (hR : ∀ trace a, Executes outer trace a → R a none) : Hosts outside R outer inner := by
  intro trace a hrun
  refine ⟨⟨[], [], trace⟩, rfl, ?_, .inl ⟨rfl, hR trace a hrun⟩⟩
  exact hrun.forall_of_confined houter

/-- Outside calls may come first. -/
theorem Hosts.of_bind {first : Program Op Res γ} {next : γ → Program Op Res α}
    (hfirst : first.Confined outside)
    (hnext : ∀ trace c, Executes first trace c → Hosts outside R (next c) inner) :
    Hosts outside R (first >>= next) inner := by
  intro trace a hrun
  obtain ⟨before, after, c, rfl, hbefore, hafter⟩ := executes_bind_iff.mp hrun
  obtain ⟨parted, rfl, hwithin, hpart⟩ := hnext before c hbefore after a hafter
  refine ⟨{ parted with front := before ++ parted.front }, by simp [Parted.whole], ?_, hpart⟩
  intro event hmem
  rw [List.append_assoc, List.mem_append] at hmem
  exact hmem.elim (hbefore.forall_of_confined hfirst event) (hwithin event)

/-- Outside calls may come last. -/
theorem Hosts.bind {first : Program Op Res γ} {next : γ → Program Op Res α}
    (hfirst : Hosts outside S first inner) (hnext : ∀ c, (next c).Confined outside)
    (hR : ∀ c trace a, Executes (next c) trace a → ∀ b, S c b → R a b) :
    Hosts outside R (first >>= next) inner := by
  intro trace a hrun
  obtain ⟨before, after, c, rfl, hbefore, hafter⟩ := executes_bind_iff.mp hrun
  obtain ⟨parted, rfl, hwithin, hpart⟩ := hfirst before c hbefore
  refine ⟨{ parted with back := parted.back ++ after }, by simp [Parted.whole], ?_, ?_⟩
  · intro event hmem
    rw [← List.append_assoc, List.mem_append] at hmem
    exact hmem.elim (hwithin event) (hafter.forall_of_confined (hnext c) event)
  · rcases hpart with ⟨hnil, hS⟩ | ⟨b, hb, hS⟩
    · exact .inl ⟨hnil, hR c after a hafter none hS⟩
    · exact .inr ⟨b, hb, hR c after a hafter (some b) hS⟩

end

/-- An execution has one result. -/
theorem Program.Executes.unique {p : Program Op Res α} {trace : List (Event Op Res)} {a b : α}
    (ha : Executes p trace a) (hb : Executes p trace b) : a = b := by
  induction p generalizing trace with
  | done c =>
      rw [executes_done_iff] at ha hb
      rw [ha.2, hb.2]
  | call op resume ih =>
      obtain ⟨answer, rest, rfl, hrest⟩ := executes_call_iff.mp ha
      obtain ⟨answer', rest', heq, hrest'⟩ := executes_call_iff.mp hb
      obtain ⟨hevent, rfl⟩ := List.cons.inj heq
      cases hevent
      exact ih answer hrest hrest'

section

variable {run : Run κ T Op Res} {outer : κ → Program Op Res α}
  {inner : ι → Program Op Res β} {view : κ → ι} {R : κ → α → Option β → Prop}

/-- What is known of the part of a call: it is the beginning of an execution of the inner
program, and all of one, or nothing, when the call has returned. -/
structure PartOf (inner : Program Op Res β) (R : α → Option β → Prop) (outer : Program Op Res α)
    (events : List (Event Op Res)) (parted : Parted Op Res) : Prop where
  runs : parted.part = [] ∨ ∃ b, Executes inner parted.part b
  returned : ∀ a, Executes outer events a → events = parted.whole ∧
    ((parted.part = [] ∧ R a none) ∨ ∃ b, Executes inner parted.part b ∧ R a (some b))

/-- The events of a call of the run so far have a part. -/
theorem exists_parted (hfollows : run.Follows outer)
    (hhosts : ∀ call ∈ run.calls, Hosts outside (R call) (outer call) (inner (view call)))
    (i : Nat) :
    ∃ parted : Parted Op Res, parted.Within outside ∧ own run.history i <+: parted.whole ∧
      ∀ call, run.calls[i]? = some call →
        PartOf (inner (view call)) (R call) (outer call) (own run.history i) parted := by
  cases hcall : run.calls[i]? with
  | none =>
      refine ⟨⟨[], [], []⟩, by simp [Parted.Within], ?_, by simp⟩
      have hnone : own run.history i = [] := by
        rw [List.eq_nil_iff_forall_not_mem]
        intro event hmem
        obtain ⟨stamped, hstamped, hthread, _⟩ := mem_own_iff.mp hmem
        obtain ⟨call, hsome⟩ := hfollows.threads stamped hstamped
        rw [hthread, hcall] at hsome
        cases hsome
      rw [hnone]
      exact List.nil_prefix
  | some call =>
      have hhost := hhosts call (List.mem_of_getElem? hcall)
      by_cases hreturned : ∃ a, Executes (outer call) (own run.history i) a
      · obtain ⟨a, ha⟩ := hreturned
        obtain ⟨parted, hwhole, hwithin, hpart⟩ := hhost _ a ha
        refine ⟨parted, hwithin, ⟨[], by rw [List.append_nil, hwhole]⟩, ?_⟩
        rintro _ ⟨⟩
        refine ⟨hpart.imp And.left (Exists.imp fun _ => And.left), fun a' ha' => ⟨hwhole, ?_⟩⟩
        rw [ha'.unique ha]
        exact hpart
      · obtain ⟨rest, a, ha⟩ := hfollows.executes i call hcall
        obtain ⟨parted, hwhole, hwithin, hpart⟩ := hhost _ a ha
        refine ⟨parted, hwithin, ⟨rest, hwhole⟩, ?_⟩
        rintro _ ⟨⟩
        exact ⟨hpart.imp And.left (Exists.imp fun _ => And.left), fun a' ha' =>
          absurd ⟨a', ha'⟩ hreturned⟩

/-- The parts of the calls of a run are a run of the inner program. -/
theorem Run.exists_inner [∀ op, Nonempty (Res op)] (hfollows : run.Follows outer)
    (hhosts : ∀ call ∈ run.calls, Hosts outside (R call) (outer call) (inner (view call))) :
    ∃ restricted : Run ι T Op Res, restricted.calls = run.calls.map view ∧
      Thinned outside run.history restricted.history ∧ restricted.Follows inner ∧
      (∀ i, own restricted.history i <:+: own run.history i) ∧
      ∀ i call a, run.Returns outer i call a →
        R call a none ∨ ∃ b, restricted.Returns inner i (view call) b ∧ R call a (some b) := by
  choose parted hwithin hown hparts using exists_parted hfollows hhosts
  obtain ⟨kept, hthinned, hkept⟩ := exists_thinned hwithin hown
  have hinside (i : Nat) : own kept i <+: (parted i).part := by
    rw [hkept i]
    exact Parted.inside_isPrefix (hown i)
  refine ⟨⟨run.calls.map view, kept⟩, rfl, hthinned, ⟨?_, ?_⟩, ?_, ?_⟩
  · intro stamped hmem
    obtain ⟨call, hcall⟩ := hfollows.threads stamped (hthinned.sublist.subset hmem)
    exact ⟨view call, by simp [hcall]⟩
  · intro i seen hseen
    obtain ⟨call, hcall, rfl⟩ : ∃ call, run.calls[i]? = some call ∧ view call = seen := by
      simpa using hseen
    obtain ⟨rest, hrest⟩ := hinside i
    rcases (hparts i call hcall).runs with hnil | ⟨b, hb⟩
    · rw [hnil, List.append_eq_nil_iff] at hrest
      obtain ⟨trace, b, hb⟩ := exists_executes (inner (view call))
      exact ⟨trace, b, by rw [hrest.1]; exact hb⟩
    · exact ⟨rest, b, by rw [hrest]; exact hb⟩
  · intro i
    rw [hkept i]
    exact Parted.inside_isInfix _ _
  · intro i call a hreturns
    obtain ⟨hwhole, hpart⟩ := (hparts i call hreturns.called).returned a hreturns.executes
    have hall : own kept i = (parted i).part := by
      rw [hkept i, hwhole, Parted.inside_whole]
    rcases hpart with ⟨_, hR⟩ | ⟨b, hb, hR⟩
    · exact .inl hR
    · refine .inr ⟨b, ⟨by simp [hreturns.called], ?_⟩, hR⟩
      rw [hall]
      exact hb

end

end Foundations
