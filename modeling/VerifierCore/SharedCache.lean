import VerifierCore.Foundations.ExpiringStore
import VerifierCore.Foundations.Interleaving
import VerifierCore.Foundations.World
import VerifierCore.Types

/-!
# A cache shared by many calls

Calls of verifiers that share one cache, with their events interleaved.  What such
a cache may answer is stated once, and the in-memory cache is shown to answer no
other way.  The calls need not read the cache's own clock; where it matters that
they do, this is assumed apart.

Main results:

- Theorem {lit}`sharedCache_of_path`: the in-memory cache, started empty, is a
  shared cache.
-/

namespace VerifierCore

open Foundations

/-! ## Shared caches -/

/-- One event of a run of calls, with the call that made it and the time on the
cache's clock. -/
abbrev CallEvent : Type :=
  Stamped ℚ Port Port.Answer

/-- A point in time as a number. -/
def instant (time : ℚ) : Num :=
  (time : WithTop ℚ)

/-- The cache answered with a value. -/
def HitsCache (event : PortEvent) : Prop :=
  ∃ key value, event = ⟨.cacheGet key, some value⟩

/-- The write stored the value that the read was answered with, and its lifetime
had not elapsed. -/
def ServesHit (write read : CallEvent) : Prop :=
  ∃ key value ttlMs, write.event = ⟨.cacheSet key value ttlMs, ()⟩ ∧
    read.event = ⟨.cacheGet key, some value⟩ ∧
    (0 < ttlMs → instant read.time ≤ instant write.time + ttlMs)

/-- The cache only answers with what was stored in it. -/
def SharedCache (history : List CallEvent) : Prop :=
  Run.Served HitsCache ServesHit history

/-- A call that reads the clock reads the time. -/
def ReadsTime (stamped : CallEvent) : Prop :=
  match stamped.event with
  | ⟨.dateNowMs, answer⟩ => answer = stamped.time
  | _ => True

instance (stamped : CallEvent) : Decidable (ReadsTime stamped) :=
  match stamped with
  | ⟨_, time, .dateNowMs, answer⟩ => inferInstanceAs (Decidable ((answer : ℚ) = time))
  | ⟨_, _, .cacheGet _, _⟩ | ⟨_, _, .cacheSet .., _⟩ | ⟨_, _, .httpGet _, _⟩
  | ⟨_, _, .performanceNowMs, _⟩ | ⟨_, _, .canVerify .., _⟩ | ⟨_, _, .verifyCredential .., _⟩
  | ⟨_, _, .verifyPresentation .., _⟩ | ⟨_, _, .loadStatusLists _, _⟩
  | ⟨_, _, .readStatusLists .., _⟩ => isTrue trivial

/-- The calls and their cache have one clock, which does not go back. -/
structure SharedClock (history : List CallEvent) : Prop where
  ordered : history.Pairwise fun first second => first.time ≤ second.time
  reads : ∀ stamped ∈ history, ReadsTime stamped

/-! ## The in-memory cache -/

/-- The entries of an in-memory cache. -/
abbrev InMemoryCache : Type :=
  ExpiringStore Num String CacheValue

namespace InMemoryCache

/-- The instant up to which a stored entry is read; without a positive lifetime
there is none. -/
def expiresAt (now : ℚ) (ttlMs : Num) : Option Num :=
  if 0 < ttlMs then some (instant now + ttlMs) else none

/-- If the event is a `get`, its answer is what the entries hold. -/
def Answers (entries : InMemoryCache) (stamped : CallEvent) : Prop :=
  match stamped.event with
  | ⟨.cacheGet key, answer⟩ => answer = entries.read (instant stamped.time) key
  | _ => True

instance (entries : InMemoryCache) (stamped : CallEvent) :
    Decidable (entries.Answers stamped) :=
  match stamped with
  | ⟨_, time, .cacheGet key, answer⟩ =>
      inferInstanceAs (Decidable (answer = entries.read (instant time) key))
  | ⟨_, _, .cacheSet .., _⟩ | ⟨_, _, .dateNowMs, _⟩ | ⟨_, _, .httpGet _, _⟩
  | ⟨_, _, .performanceNowMs, _⟩ | ⟨_, _, .canVerify .., _⟩ | ⟨_, _, .verifyCredential .., _⟩
  | ⟨_, _, .verifyPresentation .., _⟩ | ⟨_, _, .loadStatusLists _, _⟩
  | ⟨_, _, .readStatusLists .., _⟩ => isTrue trivial

/-- `get` removes an expired entry, `set` replaces an entry. -/
def next (entries : InMemoryCache) (stamped : CallEvent) : InMemoryCache :=
  match stamped.event.op with
  | .cacheGet key => entries.evict (instant stamped.time) key
  | .cacheSet key value ttlMs =>
      entries.write key { value := value, expiresAt := expiresAt stamped.time ttlMs }
  | _ => entries

/-- One event on the in-memory cache. -/
def Step : InMemoryCache → CallEvent → InMemoryCache → Prop :=
  guarded Answers next

/-- Every entry was stored by one of the events so far. -/
def Records (seen : List CallEvent) (entries : InMemoryCache) : Prop :=
  ∀ key entry, entries key = some entry → ∃ write ∈ seen, ∃ ttlMs,
    write.event = ⟨.cacheSet key entry.value ttlMs, ()⟩ ∧
      entry.expiresAt = expiresAt write.time ttlMs

/-- Every entry after an event was there before, or the event stored it. -/
theorem entry_of_next {entries : InMemoryCache} {stamped : CallEvent} {key : String}
    {entry : Entry Num CacheValue} (h : entries.next stamped key = some entry) :
    entries key = some entry ∨
      ∃ ttlMs, stamped.event = ⟨.cacheSet key entry.value ttlMs, ()⟩ ∧
        entry.expiresAt = expiresAt stamped.time ttlMs := by
  rcases stamped with ⟨thread, time, op, answer⟩
  cases op with
  | cacheGet other => exact .inl (ExpiringStore.evict_apply_eq_some h)
  | cacheSet other value ttlMs =>
      rcases ExpiringStore.write_apply_eq_some_iff.mp h with ⟨rfl, rfl⟩ | ⟨_, hbefore⟩
      · exact .inr ⟨ttlMs, rfl, rfl⟩
      · exact .inl hbefore
  | _ => exact .inl h

/-- One event keeps the record. -/
theorem Records.step {seen : List CallEvent} {entries entries' : InMemoryCache}
    {stamped : CallEvent} (h : Records seen entries) (hstep : Step entries stamped entries') :
    Records (seen ++ [stamped]) entries' := by
  rcases hstep with ⟨_, rfl⟩
  intro key entry hentry
  rcases entry_of_next hentry with hbefore | ⟨ttlMs, hevent, hexpires⟩
  · rcases h key entry hbefore with ⟨write, hwrite, ttlMs, hevent⟩
    exact ⟨write, List.mem_append_left _ hwrite, ttlMs, hevent⟩
  · exact ⟨stamped, by simp, ttlMs, hevent, hexpires⟩

/-- A cache that was reached from the empty one records its history. -/
theorem records_of_path {history : List CallEvent} {entries : InMemoryCache}
    (h : Path Step ExpiringStore.empty history entries) : Records history entries := by
  refine h.accumulates (fun _ _ _ _ hrecords hstep => Records.step hrecords hstep) ?_
  intro key entry hentry
  cases hentry

end InMemoryCache

/-- The in-memory cache, started empty, only answers with what was stored in it
and has not expired. -/
theorem sharedCache_of_path {history : List CallEvent} {entries : InMemoryCache}
    (h : Path InMemoryCache.Step ExpiringStore.empty history entries) : SharedCache history := by
  intro before stamped after hsplit hhits
  rw [hsplit] at h
  rcases path_append_iff.mp h with ⟨middle, hbefore, hrest⟩
  rcases path_cons_iff.mp hrest with ⟨after', ⟨hanswer, _⟩, _⟩
  rcases hhits with ⟨key, value, hevent⟩
  rw [InMemoryCache.Answers, hevent] at hanswer
  rcases ExpiringStore.read_eq_some_iff.mp hanswer.symm with
    ⟨entry, hentry, hreadable, rfl⟩
  rcases InMemoryCache.records_of_path hbefore key entry hentry with
    ⟨write, hwrite, ttlMs, hwriteEvent, hexpires⟩
  rcases List.append_of_mem hwrite with ⟨earlier, later, rfl⟩
  refine ⟨earlier, write, later, rfl, key, entry.value, ttlMs, hwriteEvent, hevent, ?_⟩
  intro hpositive
  apply hreadable
  rw [hexpires, InMemoryCache.expiresAt, if_pos hpositive]
  rfl

/-- A history that the in-memory cache answers, started empty, is one of a shared
cache. -/
theorem sharedCache_of_allAllowed {history : List CallEvent}
    (h : AllAllowed InMemoryCache.Answers InMemoryCache.next ExpiringStore.empty history) :
    SharedCache history :=
  sharedCache_of_path (path_guarded_iff.mpr ⟨h, rfl⟩)

end VerifierCore
