/-
# Marking.Proofs.DependencyGraph.EdgeMaps -- edges entered in one pass

A pass over units enters, unit by unit, what each needs, what needs it and what it misses.  When
some of the units are behind it, the dictionaries hold the edges of these and nothing else
(`Entered`): the forward edges of a unit are all there as soon as it is entered, while the backward
edges of a unit grow with every later unit that needs it.  Entering one more unit keeps this
(`Entered.enter`), so at the end of the pass all edges are there (`entered_ofUnits`).

Forward edges are sorted by their places among the keys.  Keys are distinct, so this selects from
the keys (`sortedAmong_eq`), and none is put twice under one key.
-/
import Mathlib.Data.List.Nodup
import Marking.DependencyGraph.EdgeMaps
import Marking.Proofs.DependencyGraph.Nodes

set_option autoImplicit false

namespace Marking

variable {α : Type} {us pre post : List (WorkUnit α)} {u : WorkUnit α} {k l x : UnitKey}
  {keys ks : List UnitKey}

/-! ## Lists of keys by key -/

namespace KeyLists

variable {t : KeyLists}

theorem lookup_eq_none : t.lookup k = none ↔ k ∉ t.map Prod.fst := by
  rw [List.lookup_eq_none_iff, List.mem_map]
  constructor
  · rintro other ⟨e, member, rfl⟩
    exact absurd rfl (bne_iff_ne.1 (other e member))
  · intro unknown e member
    exact bne_iff_ne.2 fun same => unknown ⟨e, member, same.symm⟩

theorem mem_of_lookup (found : t.lookup k = some ks) : (k, ks) ∈ t := by
  obtain ⟨front, back, rfl, -⟩ := List.lookup_eq_some_iff.1 found
  exact List.mem_append_right _ List.mem_cons_self

theorem under_unknown (unknown : k ∉ t.map Prod.fst) : t.under k = [] := by
  rw [under, lookup_eq_none.2 unknown]
  rfl

theorem under_empty (empty : ∀ e ∈ t, e.2 = []) (k : UnitKey) : t.under k = [] := by
  rw [under]
  cases found : t.lookup k with
  | none => rfl
  | some ks => exact empty _ (mem_of_lookup found)

/-- Where no list is empty, the keys are those with something under them. -/
theorem mem_keys_iff (filled : ∀ e ∈ t, e.2 ≠ []) : k ∈ t.map Prod.fst ↔ t.under k ≠ [] := by
  rw [under]
  cases found : t.lookup k with
  | none => exact iff_of_false (lookup_eq_none.1 found) fun some => some rfl
  | some ks =>
      have member := mem_of_lookup found
      exact iff_of_true (List.mem_map_of_mem member) (filled _ member)

/-- What stands under a key when every unit with something to list has an entry. -/
theorem under_listed (distinct : DistinctKeys us) (f : WorkUnit α → List UnitKey) (k : UnitKey) :
    under ((us.map fun u => (u.key, f u)).filter fun m => !m.2.isEmpty) k =
      ((us.find? fun u => u.key = k).map f).getD [] := by
  induction us with
  | nil => rfl
  | cons u us ih =>
      obtain ⟨fresh, distinct⟩ := List.nodup_cons.1 distinct
      rw [List.map_cons, List.filter_cons, List.find?_cons]
      by_cases same : u.key = k
      · subst same
        cases empty : f u with
        | nil => simp [ih distinct, find?_key_eq_none.2 fresh, empty]
        | cons l ls => simp [under, empty]
      · have other : (k == u.key) = false := beq_eq_false_iff_ne.2 (Ne.symm same)
        have skipped : ∀ t : KeyLists, under ((u.key, f u) :: t) k = under t k := by
          intro t
          rw [under, List.lookup_cons, other, under]
        split <;> simp [skipped, ih distinct, same]

/-! ### Changing the list under a key -/

theorem keys_adjust (t : KeyLists) (k : UnitKey) (f : List UnitKey → List UnitKey) :
    (t.adjust k f).map Prod.fst = t.map Prod.fst := by
  rw [adjust, List.map_map]
  refine List.map_congr_left fun e _ => ?_
  by_cases same : e.1 = k <;> simp [same]

theorem lookup_adjust (t : KeyLists) (k l : UnitKey) (f : List UnitKey → List UnitKey) :
    (t.adjust k f).lookup l = if l = k then (t.lookup l).map f else t.lookup l := by
  induction t with
  | nil => simp [adjust]
  | cons e t ih =>
      have step : adjust (e :: t) k f = (e.1, if e.1 = k then f e.2 else e.2) :: adjust t k f := by
        rw [adjust, List.map_cons, ← adjust]
        by_cases here : e.1 = k <;> simp [here]
      rw [step, List.lookup_cons, List.lookup_cons, ih]
      by_cases same : l = e.1
      · subst same
        by_cases here : e.1 = k <;> simp [here]
      · rw [beq_eq_false_iff_ne.2 same]

theorem under_adjust (known : k ∈ t.map Prod.fst) (f : List UnitKey → List UnitKey) :
    (t.adjust k f).under l = if l = k then f (t.under l) else t.under l := by
  rw [under, lookup_adjust, under]
  by_cases same : l = k
  · subst same
    rw [if_pos rfl, if_pos rfl]
    cases found : t.lookup l with
    | none => exact absurd known (lookup_eq_none.1 found)
    | some ls => rfl
  · rw [if_neg same, if_neg same]

theorem keys_foldl_adjust (t : KeyLists) (ks : List UnitKey) (f : List UnitKey → List UnitKey) :
    (ks.foldl (fun t k => t.adjust k f) t).map Prod.fst = t.map Prod.fst := by
  induction ks generalizing t with
  | nil => rfl
  | cons k ks ih => rw [List.foldl_cons, ih, keys_adjust]

/-- One key is put last under each of several keys. -/
theorem under_foldl_adjust (nodup : ks.Nodup) (known : ∀ k ∈ ks, k ∈ t.map Prod.fst) :
    (ks.foldl (fun t k => t.adjust k (· ++ [x])) t).under l =
      if l ∈ ks then t.under l ++ [x] else t.under l := by
  induction ks generalizing t with
  | nil => simp
  | cons k ks ih =>
      obtain ⟨fresh, nodup⟩ := List.nodup_cons.1 nodup
      obtain ⟨isKnown, known⟩ := List.forall_mem_cons.1 known
      rw [List.foldl_cons, ih nodup (by rwa [keys_adjust]), under_adjust isKnown]
      by_cases same : l = k
      · subst same
        simp [fresh]
      · simp [same]

end KeyLists

namespace EdgeMaps

/-! ## One pass -/

/-- Sorted by their places, the members of a set among the keys are a selection of the keys. -/
theorem sortedAmong_eq (nodup : keys.Nodup) (set : List UnitKey) :
    sortedAmong keys set = keys.filter set.contains := by
  have places : ∀ {k l}, k ∈ keys → keys.idxOf k ≤ keys.idxOf l → keys.idxOf l ≤ keys.idxOf k →
      k = l := by
    intro k l member le ge
    exact (List.idxOf_inj member).1 (Nat.le_antisymm le ge)
  have sorted : (sortedAmong keys set).Pairwise fun k l =>
      decide (keys.idxOf k ≤ keys.idxOf l) = true :=
    List.pairwise_mergeSort (by simp; omega) (by simp; omega) _
  simp only [decide_eq_true_iff] at sorted
  have inPlace : keys.Pairwise fun k l => keys.idxOf k ≤ keys.idxOf l :=
    (pairwise_idxOf nodup).imp Nat.le_of_lt
  have perm : (sortedAmong keys set).Perm (keys.filter set.contains) := by
    refine (List.mergeSort_perm _ _).trans ?_
    rw [List.perm_ext_iff_of_nodup (UnitKey.distinct_nodup _) (nodup.filter _)]
    intro k
    simp [UnitKey.mem_distinct, and_comm]
  refine perm.eq_of_pairwise (fun k l isMember _ => places ?_) sorted (inPlace.filter _)
  exact (List.mem_filter.1 (perm.mem_iff.1 isMember)).1

/-- The edges of some of the units with the keys are entered, and no other ones. -/
structure Entered (keys : List UnitKey) (us : List (WorkUnit α)) (m : EdgeMaps) : Prop where
  forward_keys : m.forward.map Prod.fst = keys
  backward_keys : m.backward.map Prod.fst = keys
  forward : ∀ k, m.forward.under k = keys.filter (needsUnder us k).contains
  backward : ∀ k ∈ keys, m.backward.under k =
    (us.filter fun u => u.needs.contains k).map WorkUnit.key
  missing : m.missing =
    (us.map fun u => (u.key, u.needs.filter fun k => !keys.contains k)).filter fun e => !e.2.isEmpty

theorem entered_blank (keys : List UnitKey) :
    Entered keys ([] : List (WorkUnit α)) (blank keys) := by
  have keysOf : (keys.map fun k => (k, ([] : List UnitKey))).map Prod.fst = keys := by
    rw [List.map_map]
    exact List.map_id keys
  have empty : ∀ k, KeyLists.under (keys.map fun k => (k, [])) k = [] := by
    apply KeyLists.under_empty
    intro e member
    obtain ⟨k, -, rfl⟩ := List.mem_map.1 member
    rfl
  constructor
  case forward_keys => exact keysOf
  case backward_keys => exact keysOf
  case forward => exact fun k => (empty k).trans (List.filter_false keys).symm
  case backward => exact fun k _ => empty k
  case missing => rfl

theorem Entered.enter {m : EdgeMaps} (entered : Entered keys us m) (nodup : keys.Nodup)
    (known : u.key ∈ keys) (fresh : u.key ∉ us.map WorkUnit.key) :
    Entered keys (us ++ [u]) (enter keys m u) := by
  have among : ∀ k ∈ sortedAmong keys u.needs, k ∈ keys := by
    intro k member
    rw [sortedAmong_eq nodup] at member
    exact (List.mem_filter.1 member).1
  constructor
  case forward_keys =>
    rw [EdgeMaps.enter, KeyLists.keys_adjust]
    exact entered.forward_keys
  case backward_keys =>
    rw [EdgeMaps.enter, KeyLists.keys_foldl_adjust]
    exact entered.backward_keys
  case forward =>
    intro k
    rw [EdgeMaps.enter, KeyLists.under_adjust (entered.forward_keys ▸ known), entered.forward,
      needsUnder_snoc fresh]
    by_cases same : k = u.key
    · rw [if_pos same, if_pos same, sortedAmong_eq nodup]
    · rw [if_neg same, if_neg same]
  case backward =>
    intro k isKey
    -- A key put twice among the edges of `u` would put `u` twice among its own.
    have single : (sortedAmong keys u.needs).Nodup := by
      rw [sortedAmong_eq nodup]
      exact nodup.filter _
    rw [EdgeMaps.enter, KeyLists.under_foldl_adjust single
      (fun l member => entered.backward_keys ▸ among l member), entered.backward k isKey,
      sortedAmong_eq nodup, List.filter_append, List.map_append]
    by_cases need : k ∈ u.needs <;> simp [need, isKey]
  case missing =>
    rw [EdgeMaps.enter, List.map_append, List.filter_append, ← entered.missing, List.map_singleton,
      List.filter_singleton]
    cases (u.needs.filter fun k => !keys.contains k).isEmpty with
    | true => exact (List.append_nil _).symm
    | false => rfl

theorem entered_foldl {m : EdgeMaps} (entered : Entered keys pre m) (nodup : keys.Nodup)
    (known : ∀ u ∈ post, u.key ∈ keys) (distinct : DistinctKeys (pre ++ post)) :
    Entered keys (pre ++ post) (post.foldl (enter keys) m) := by
  induction post generalizing pre m with
  | nil => rwa [List.append_nil]
  | cons u post ih =>
      obtain ⟨isKnown, known⟩ := List.forall_mem_cons.1 known
      have fresh := distinct.fresh
      rw [List.append_cons] at distinct ⊢
      exact ih (entered.enter nodup isKnown fresh) known distinct

/-- A pass enters all edges. -/
theorem entered_ofUnits (distinct : DistinctKeys us) :
    Entered (us.map WorkUnit.key) us (ofUnits us) := by
  have start : Entered (us.map WorkUnit.key) ([] : List (WorkUnit α)) (blank _) := entered_blank _
  exact entered_foldl start distinct (fun _ => List.mem_map_of_mem) distinct

end EdgeMaps

end Marking
