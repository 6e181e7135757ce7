/-
# Marking.Proofs.UnitTable.Fold -- what a table holds after any additions

A table is a fold over what was added, key by key: one unit for every key, in the order in
which keys first came, with the items of everything that was added under the key in the order
of the additions (`Folds`).  The two policies differ in the needs alone: `union` joins all of
them and `firstWins` keeps those that came first.
-/
import Mathlib.Data.List.Nodup
import Marking.Proofs.DependencyGraph.Nodes
import Marking.Proofs.Key.Distinct
import Marking.UnitTable

set_option autoImplicit false

namespace Marking

variable {α : Type}

theorem UnitKey.mem_union {ks ls : List UnitKey} {k : UnitKey} :
    k ∈ union ks ls ↔ k ∈ ks ∨ k ∈ ls := by
  rw [union, List.mem_append, List.mem_filter]
  by_cases old : k ∈ ks <;> simp [old]

/-! ## Units under one key -/

def unitsUnder (k : UnitKey) (us : List (WorkUnit α)) : List (WorkUnit α) :=
  us.filter fun u => u.key = k

theorem mem_unitsUnder {k : UnitKey} {us : List (WorkUnit α)} {u : WorkUnit α} :
    u ∈ unitsUnder k us ↔ u ∈ us ∧ u.key = k := by
  simp [unitsUnder]

theorem unitsUnder_snoc_of_ne {k : UnitKey} (us : List (WorkUnit α)) {u : WorkUnit α}
    (other : u.key ≠ k) : unitsUnder k (us ++ [u]) = unitsUnder k us := by
  simp [unitsUnder, other]

theorem unitsUnder_snoc_self (us : List (WorkUnit α)) (u : WorkUnit α) :
    unitsUnder u.key (us ++ [u]) = unitsUnder u.key us ++ [u] := by
  simp [unitsUnder]

theorem unitsUnder_eq_nil {k : UnitKey} {us : List (WorkUnit α)}
    (unknown : k ∉ us.map WorkUnit.key) : unitsUnder k us = [] := by
  rw [unitsUnder, List.filter_eq_nil_iff]
  intro u member same
  exact unknown (List.mem_map.2 ⟨u, member, of_decide_eq_true same⟩)

namespace MergePolicy

/-- The unit is the fold of the units that came under its key, the earliest first. -/
structure Merges (policy : MergePolicy) (came : List (WorkUnit α)) (u : WorkUnit α) : Prop where
  items : u.items = came.flatMap WorkUnit.items
  union : policy = .union →
    (∀ k, k ∈ u.needs ↔ ∃ v ∈ came, k ∈ v.needs) ∧ (u.hard = true ↔ ∃ v ∈ came, v.hard = true)
  firstWins : policy = .firstWins → ∃ v, came.head? = some v ∧ u.needs = v.needs ∧ u.hard = v.hard

theorem merges_singleton (policy : MergePolicy) (u : WorkUnit α) : policy.Merges [u] u :=
  ⟨by simp, fun _ => by simp, fun _ => ⟨u, rfl, rfl, rfl⟩⟩

theorem Merges.fold {policy : MergePolicy} {came : List (WorkUnit α)} {stored : WorkUnit α}
    (h : policy.Merges came stored) (u : WorkUnit α) :
    policy.Merges (came ++ [u]) (policy.fold (fun _ => true) stored u) := by
  cases policy with
  | union =>
      obtain ⟨needs, hard⟩ := h.union rfl
      refine ⟨?_, fun _ => ⟨fun k => ?_, ?_⟩, fun differ => (nomatch differ)⟩
      · simp [MergePolicy.fold, WorkUnit.join, h.items]
      · simp [MergePolicy.fold, WorkUnit.join, UnitKey.mem_union, needs, or_and_right, exists_or]
      · simp [MergePolicy.fold, WorkUnit.join, hard, or_and_right, exists_or]
  | firstWins =>
      obtain ⟨first, head, needs, hard⟩ := h.firstWins rfl
      refine ⟨?_, fun differ => (nomatch differ), fun _ => ⟨first, ?_, needs, hard⟩⟩
      · simp [MergePolicy.fold, h.items]
      · rw [List.head?_append, head]
        rfl

theorem key_fold (policy : MergePolicy) (present : α → Bool) (stored u : WorkUnit α) :
    (policy.fold present stored u).key = stored.key := by
  cases policy <;> rfl

end MergePolicy

/-! ## The table -/

namespace UnitTable

/-- The table holds, for every key in the order of first addition, the fold of what was added
under it. -/
structure Folds (t : UnitTable α) (added : List (WorkUnit α)) : Prop where
  keys_eq : t.keys = UnitKey.distinct (added.map WorkUnit.key)
  merges : ∀ u ∈ t.units, t.policy.Merges (unitsUnder u.key added) u

variable {t : UnitTable α} {added : List (WorkUnit α)}

theorem Folds.distinctKeys (h : Folds t added) : DistinctKeys t.units := by
  have keys : (t.units.map WorkUnit.key).Nodup := by
    show t.keys.Nodup
    rw [h.keys_eq]
    exact UnitKey.distinct_nodup _
  exact keys

theorem Folds.mem_keys (h : Folds t added) {k : UnitKey} :
    k ∈ t.keys ↔ k ∈ added.map WorkUnit.key := by
  rw [h.keys_eq, UnitKey.mem_distinct]

theorem folds_empty (policy : MergePolicy) : Folds ({ policy } : UnitTable α) [] :=
  ⟨rfl, fun _ member => nomatch member⟩

theorem get?_eq_none_iff {k : UnitKey} : t.get? k = none ↔ k ∉ t.keys := by
  rw [get?, List.find?_eq_none, keys, List.mem_map]
  simp

theorem get?_eq_some {k : UnitKey} {u : WorkUnit α} (found : t.get? k = some u) :
    u ∈ t.units ∧ u.key = k := by
  have is := List.find?_some found
  exact ⟨List.mem_of_find?_eq_some found, of_decide_eq_true is⟩

theorem Folds.get?_eq (h : Folds t added) {u : WorkUnit α} (member : u ∈ t.units) :
    t.get? u.key = some u := by
  cases found : t.get? u.key with
  | none => exact absurd (List.mem_map_of_mem member) (get?_eq_none_iff.1 found)
  | some v =>
      obtain ⟨vMember, same⟩ := get?_eq_some found
      rw [h.distinctKeys.eq_of_key vMember member same]

theorem Folds.addNew (h : Folds t added) {u : WorkUnit α} (new : u.key ∉ t.keys) :
    Folds { t with units := t.units ++ [u] } (added ++ [u]) where
  keys_eq := by
    rw [List.map_append, List.map_singleton, UnitKey.distinct_snoc, ← h.keys_eq, if_neg new, keys,
      List.map_append, List.map_singleton, keys]
  merges v member := by
    rcases List.mem_append.1 member with old | last
    · have other : u.key ≠ v.key := fun same => new (same ▸ List.mem_map_of_mem old)
      rw [unitsUnder_snoc_of_ne added other]
      exact h.merges v old
    · rw [List.mem_singleton.1 last, unitsUnder_snoc_self,
        unitsUnder_eq_nil fun known => new (h.mem_keys.2 known)]
      exact t.policy.merges_singleton u

theorem keys_replace (w : WorkUnit α) : (t.replace w).keys = t.keys := by
  rw [keys, keys, replace, List.map_map]
  refine List.map_congr_left fun v _ => ?_
  show (if v.key = w.key then w else v).key = v.key
  split
  · exact Eq.symm ‹_›
  · rfl

theorem Folds.addKnown (h : Folds t added) {u stored : WorkUnit α}
    (found : t.get? u.key = some stored) :
    Folds (t.replace (t.policy.fold (fun _ => true) stored u)) (added ++ [u]) where
  keys_eq := by
    obtain ⟨member, same⟩ := get?_eq_some found
    have known : u.key ∈ t.keys := same ▸ List.mem_map_of_mem member
    rw [keys_replace, List.map_append, List.map_singleton, UnitKey.distinct_snoc, ← h.keys_eq,
      if_pos known]
  merges v member := by
    obtain ⟨inTable, same⟩ := get?_eq_some found
    obtain ⟨w, wMember, rfl⟩ := List.mem_map.1 member
    simp only [MergePolicy.key_fold, same]
    show t.policy.Merges _ _
    by_cases here : w.key = u.key
    · rw [if_pos here, MergePolicy.key_fold, same, unitsUnder_snoc_self, ← same]
      exact (h.merges stored inTable).fold u
    · rw [if_neg here, unitsUnder_snoc_of_ne added (Ne.symm here)]
      exact h.merges w wMember

/-- **An addition folds one more unit.** -/
theorem Folds.add (h : Folds t added) (u : WorkUnit α) : Folds (t.add u).1 (added ++ [u]) := by
  rw [UnitTable.add]
  cases found : t.get? u.key with
  | none => exact h.addNew (get?_eq_none_iff.1 found)
  | some stored => exact h.addKnown found

theorem addAll_cons (u : WorkUnit α) (us : List (WorkUnit α)) :
    (t.addAll (u :: us)).1 = ((t.add u).1.addAll us).1 := rfl

theorem addAll_append (t : UnitTable α) (us vs : List (WorkUnit α)) :
    (t.addAll (us ++ vs)).1 = ((t.addAll us).1.addAll vs).1 := by
  induction us generalizing t with
  | nil => rfl
  | cons u us ih => exact ih (t.add u).1

theorem Folds.addAll (h : Folds t added) (us : List (WorkUnit α)) :
    Folds (t.addAll us).1 (added ++ us) := by
  induction us generalizing t added with
  | nil => rwa [List.append_nil]
  | cons u us ih =>
      rw [addAll_cons, ← List.singleton_append, ← List.append_assoc]
      exact ih (h.add u)

theorem policy_add (u : WorkUnit α) : (t.add u).1.policy = t.policy := by
  rw [UnitTable.add]
  cases t.get? u.key <;> rfl

theorem policy_addAll (us : List (WorkUnit α)) : (t.addAll us).1.policy = t.policy := by
  induction us generalizing t with
  | nil => rfl
  | cons u us ih => rw [addAll_cons, ih, policy_add]

end UnitTable

end Marking
