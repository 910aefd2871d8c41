import Mathlib.Data.List.Induction
import Mathlib.Data.List.Perm.Basic

/-!
# Grouping a list by key, in first-seen order

A table of groups filled by walking a list once: an element whose key is known
joins that key's group at the end, and a new key opens a new group behind the
others.  This is how an insertion-ordered map groups a sequence.

Main results:

- Theorem {lit}`groupInOrder_eq`: the groups are the distinct keys in
  first-seen order, each with its elements in their original order.
- Theorem {lit}`groupInOrder_flatten_perm`: every element is in exactly one
  group.
- Theorem {lit}`perm_filterMap_of_map`: a selection by key depends on the keys
  alone.
-/

namespace Foundations

variable {κ α : Type} [DecidableEq κ]

/-- Add an element to its key's group, opening the group if the key is new. -/
def insertGroup (key : κ) (a : α) : List (κ × List α) → List (κ × List α)
  | [] => [(key, [a])]
  | group :: rest =>
      if group.1 = key then (group.1, group.2 ++ [a]) :: rest
      else group :: insertGroup key a rest

/-- Group a list by a key function, groups in first-seen order. -/
def groupInOrder (key : α → κ) (as : List α) : List (κ × List α) :=
  as.foldl (fun table a => insertGroup (key a) a table) []

@[simp]
theorem groupInOrder_nil (key : α → κ) : groupInOrder key [] = [] :=
  rfl

/-- The last item is inserted into the groups of those before it. -/
theorem groupInOrder_concat (key : α → κ) (as : List α) (a : α) :
    groupInOrder key (as ++ [a]) = insertGroup (key a) a (groupInOrder key as) := by
  simp [groupInOrder]

/-- Inserting under a key the table does not have opens a group at the end. -/
theorem insertGroup_of_not_mem {key : κ} {a : α} {table : List (κ × List α)}
    (h : key ∉ table.map Prod.fst) : insertGroup key a table = table ++ [(key, [a])] := by
  induction table with
  | nil => rfl
  | cons group rest ih =>
      simp only [List.map_cons, List.mem_cons, not_or] at h
      simp [insertGroup, Ne.symm h.1, ih h.2]

/-- Inserting into a table given by a function of its distinct keys changes
that function at one key. -/
theorem insertGroup_map {keys : List κ} (hnodup : keys.Nodup) {f : κ → List α} {key : κ}
    (hmem : key ∈ keys) (a : α) :
    insertGroup key a (keys.map fun k => (k, f k)) =
      keys.map fun k => (k, if k = key then f k ++ [a] else f k) := by
  induction keys with
  | nil => simp at hmem
  | cons k rest ih =>
      rw [List.nodup_cons] at hnodup
      by_cases hk : k = key
      · subst hk
        have hrest : (rest.map fun k' => (k', f k')) =
            rest.map fun k' => (k', if k' = k then f k' ++ [a] else f k') := by
          apply List.map_congr_left
          intro k' hk'
          have hne : k' ≠ k := fun h => hnodup.1 (h ▸ hk')
          simp [hne]
        simp [insertGroup, hrest]
      · have hrest : key ∈ rest := (List.mem_cons.mp hmem).resolve_left (Ne.symm hk)
        simp [insertGroup, hk, ih hnodup.2 hrest]

/-- The first-seen distinct values of a list have no repetition. -/
theorem nodup_eraseDups (keys : List κ) : keys.eraseDups.Nodup := by
  cases keys with
  | nil => simp
  | cons k rest =>
      rw [List.eraseDups_cons, List.nodup_cons]
      exact ⟨by simp [List.mem_eraseDups], nodup_eraseDups _⟩
termination_by keys.length
decreasing_by
  have := List.length_filter_le (fun b => !b == k) rest
  simp only [List.length_cons]
  omega

/-- A new last key is kept exactly when it was not seen before. -/
theorem eraseDups_concat (keys : List κ) (k : κ) :
    (keys ++ [k]).eraseDups = if k ∈ keys then keys.eraseDups else keys.eraseDups ++ [k] := by
  by_cases h : k ∈ keys <;>
    simp [List.eraseDups_append, List.removeAll, h, List.eraseDups_cons]

/-- The groups are the distinct keys in first-seen order, each holding its
elements in their original order. -/
theorem groupInOrder_eq (key : α → κ) (as : List α) :
    groupInOrder key as =
      (as.map key).eraseDups.map fun k => (k, as.filter fun a => key a = k) := by
  induction as using List.reverseRecOn with
  | nil => rfl
  | append_singleton as a ih =>
      rw [groupInOrder_concat, ih]
      by_cases hmem : key a ∈ as.map key
      · have hkeys : ((as ++ [a]).map key).eraseDups = (as.map key).eraseDups := by
          rw [List.map_append, List.map_singleton, eraseDups_concat, if_pos hmem]
        rw [hkeys, insertGroup_map (nodup_eraseDups _) (List.mem_eraseDups.mpr hmem)]
        apply List.map_congr_left
        intro k _
        by_cases hk : k = key a
        · simp [hk]
        · simp [hk, Ne.symm hk]
      · have hkeys : ((as ++ [a]).map key).eraseDups = (as.map key).eraseDups ++ [key a] := by
          rw [List.map_append, List.map_singleton, eraseDups_concat, if_neg hmem]
        have hfresh : key a ∉ ((as.map key).eraseDups.map
            fun k => (k, as.filter fun b => key b = k)).map Prod.fst := by
          simpa [Function.comp_def, List.mem_eraseDups] using hmem
        rw [insertGroup_of_not_mem hfresh, hkeys, List.map_append]
        congr 1
        · apply List.map_congr_left
          intro k hk
          have hne : key a ≠ k := by
            rintro rfl
            exact hmem (List.mem_eraseDups.mp hk)
          simp [hne]
        · have hnone : as.filter (fun b => key b = key a) = [] := by
            rw [List.filter_eq_nil_iff]
            intro b hb hkey
            exact hmem (List.mem_map.mpr ⟨b, hb, by simpa using hkey⟩)
          simp [hnone]

/-- Inserting an item adds just it to what the groups hold. -/
theorem insertGroup_flatten_perm (key : κ) (a : α) (table : List (κ × List α)) :
    ((insertGroup key a table).flatMap Prod.snd).Perm (a :: table.flatMap Prod.snd) := by
  induction table with
  | nil => simp [insertGroup]
  | cons group rest ih =>
      by_cases h : group.1 = key
      · simp [insertGroup, h, List.perm_middle]
      · simp only [insertGroup, h, if_false, List.flatMap_cons]
        exact (ih.append_left group.2).trans List.perm_middle

/-- Every element is in exactly one group. -/
theorem groupInOrder_flatten_perm (key : α → κ) (as : List α) :
    ((groupInOrder key as).flatMap Prod.snd).Perm as := by
  induction as using List.reverseRecOn with
  | nil => simp
  | append_singleton as a ih =>
      rw [groupInOrder_concat]
      have hperm := (insertGroup_flatten_perm (key a) a (groupInOrder key as)).trans (ih.cons a)
      exact hperm.trans (List.perm_append_singleton a as).symm

/-! ## Lists with the same keys -/

/-- Lists with the same keys, up to order, have the same selection if elements with
equal keys are selected alike. -/
theorem perm_filterMap_of_map {κ α β : Type} {key : α → κ} {select : α → Option β}
    {as bs : List α} (h : (as.map key).Perm (bs.map key))
    (hselect : ∀ a ∈ as, ∀ b ∈ bs, key a = key b → select a = select b) :
    (as.filterMap select).Perm (bs.filterMap select) := by
  induction as generalizing bs with
  | nil =>
      have hempty : bs = [] := by simpa using h.symm.eq_nil
      rw [hempty]
  | cons a as ih =>
      have hkey : key a ∈ bs.map key := h.subset List.mem_cons_self
      rcases List.mem_map.mp hkey with ⟨b, hb, hsame⟩
      rcases List.append_of_mem hb with ⟨front, back, rfl⟩
      have hmiddle : (front ++ b :: back).Perm (b :: (front ++ back)) := List.perm_middle
      have hrest : (as.map key).Perm ((front ++ back).map key) := by
        have hall := h.trans (hmiddle.map key)
        rw [List.map_cons, List.map_cons, hsame] at hall
        exact hall.cons_inv
      have htail : (as.filterMap select).Perm ((front ++ back).filterMap select) := by
        apply ih hrest
        intro other hother candidate hcandidate
        apply hselect other (List.mem_cons_of_mem _ hother)
        exact hmiddle.symm.subset (List.mem_cons_of_mem _ hcandidate)
      have hhead : select a = select b := hselect a List.mem_cons_self b hb hsame.symm
      have hcons : ((a :: as).filterMap select).Perm
          ((b :: (front ++ back)).filterMap select) := by
        cases hb : select b with
        | none => simpa [List.filterMap_cons, hhead, hb] using htail
        | some selected => simpa [List.filterMap_cons, hhead, hb] using htail.cons selected
      exact hcons.trans (hmiddle.symm.filterMap select)

end Foundations
