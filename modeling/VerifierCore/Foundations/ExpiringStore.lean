import Mathlib.Logic.Function.Basic
import Mathlib.Order.Basic

/-!
# A key-value store with expiring entries

Entries carry the last instant at which they may be read.  Expiry is noticed
when an entry is read: nothing removes an entry in the background, so every
statement about what a store serves is a statement about one reading instant.

Main results:

- Theorem {lit}`read_eq_some_iff`: what a read returns.
- Theorem {lit}`write_apply_eq_some_iff`: an entry found after a write is the
  written one or was there before.
- Theorem {lit}`evict_apply_eq_some`: eviction never creates or changes an
  entry.
-/

namespace Foundations

/-- A stored value and the last instant at which it may be read; without a
limit it may be read forever. -/
structure Entry (T ν : Type) where
  value : ν
  expiresAt : Option T

/-- The entry may still be read at `now`. -/
def Entry.ReadableAt {T ν : Type} [LE T] (entry : Entry T ν) (now : T) : Prop :=
  ∀ limit ∈ entry.expiresAt, now ≤ limit

instance {T ν : Type} [LE T] [DecidableLE T] (entry : Entry T ν) (now : T) :
    Decidable (entry.ReadableAt now) :=
  match h : entry.expiresAt with
  | none => isTrue (by simp [Entry.ReadableAt, h])
  | some limit => decidable_of_iff (now ≤ limit) (by simp [Entry.ReadableAt, h])

/-- A store maps each key to its entry, if it has one. -/
def ExpiringStore (T κ ν : Type) : Type :=
  κ → Option (Entry T ν)

namespace ExpiringStore

variable {T κ ν : Type}

/-- The store without entries. -/
def empty : ExpiringStore T κ ν :=
  fun _ => none

/-- Store an entry under a key, replacing what was there. -/
def write [DecidableEq κ] (store : ExpiringStore T κ ν) (key : κ) (entry : Entry T ν) :
    ExpiringStore T κ ν :=
  fun other => if other = key then some entry else store other

/-- The value readable under a key at `now`. -/
def read [LE T] [DecidableLE T] (store : ExpiringStore T κ ν) (now : T) (key : κ) : Option ν :=
  match store key with
  | none => none
  | some entry => if entry.ReadableAt now then some entry.value else none

/-- Remove the entry under a key if it has expired at `now`. -/
def evict [DecidableEq κ] [LE T] [DecidableLE T] (store : ExpiringStore T κ ν) (now : T)
    (key : κ) : ExpiringStore T κ ν :=
  fun other => if other = key ∧ store.read now key = none then none else store other

@[simp]
theorem empty_apply (key : κ) : (empty : ExpiringStore T κ ν) key = none :=
  rfl

/-- What was written under a key is found there. -/
@[simp]
theorem write_self [DecidableEq κ] (store : ExpiringStore T κ ν) (key : κ)
    (entry : Entry T ν) : store.write key entry key = some entry := by
  simp [write]

/-- An entry found after a write is the written one, or was there before under
another key. -/
theorem write_apply_eq_some_iff [DecidableEq κ] {store : ExpiringStore T κ ν} {key other : κ}
    {entry found : Entry T ν} :
    store.write key entry other = some found ↔
      (other = key ∧ found = entry) ∨ (other ≠ key ∧ store other = some found) := by
  by_cases h : other = key
  · simp [write, h, eq_comm]
  · simp [write, h]

/-- A read returns the value of an entry that is still readable. -/
theorem read_eq_some_iff [LE T] [DecidableLE T] {store : ExpiringStore T κ ν} {now : T}
    {key : κ} {value : ν} :
    store.read now key = some value ↔
      ∃ entry, store key = some entry ∧ entry.ReadableAt now ∧ entry.value = value := by
  unfold read
  cases hkey : store key with
  | none => simp
  | some entry => simp

/-- Eviction keeps or removes an entry, and changes none. -/
theorem evict_apply_eq_some [DecidableEq κ] [LE T] [DecidableLE T]
    {store : ExpiringStore T κ ν} {now : T} {key other : κ} {entry : Entry T ν}
    (h : store.evict now key other = some entry) : store other = some entry := by
  unfold evict at h
  split at h
  · cases h
  · exact h

end ExpiringStore

end Foundations
