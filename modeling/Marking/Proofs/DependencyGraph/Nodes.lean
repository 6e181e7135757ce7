/-
# Marking.Proofs.DependencyGraph.Nodes -- the nodes of a graph and their positions

A graph is ordered by position, and its units are what a reader cares about.  This module
carries facts from the one to the other.  Of several units under one key the first is a node
(`find?_firstUnits`) at the place of the key (`keys_firstUnits`), so keys are distinct and a
position can be told from its node; a position waits for another one exactly when the unit there
requires the unit of the other (`waits_iff_requires`).
-/
import Mathlib.Data.List.Nodup
import Mathlib.Data.List.Range
import Marking.DependencyGraph
import Marking.Proofs.Key.Distinct
import Marking.Proofs.Precedence.Unmet

set_option autoImplicit false

namespace Marking

variable {α : Type} {us : List (WorkUnit α)} {u : WorkUnit α} {k : UnitKey}

/-- The first unit needs the key of the second one. -/
def WorkUnit.Requires (u v : WorkUnit α) : Prop := v.key ∈ u.needs

def DistinctKeys (us : List (WorkUnit α)) : Prop := (us.map WorkUnit.key).Nodup

theorem DistinctKeys.nodup (distinct : DistinctKeys us) : us.Nodup :=
  List.Nodup.of_map WorkUnit.key distinct

theorem DistinctKeys.eq_of_key (distinct : DistinctKeys us) {u v : WorkUnit α} (uMember : u ∈ us)
    (vMember : v ∈ us) (same : u.key = v.key) : u = v :=
  List.inj_on_of_nodup_map distinct uMember vMember same

theorem DistinctKeys.fresh {pre post : List (WorkUnit α)} (distinct : DistinctKeys (pre ++ u :: post)) :
    u.key ∉ pre.map WorkUnit.key := by
  intro old
  rw [DistinctKeys, List.map_append, List.nodup_append] at distinct
  exact distinct.2.2 u.key old u.key (by simp) rfl

/-! ## Units by key -/

/-- What the first unit under a key needs; nothing under a key without a unit. -/
def needsUnder (us : List (WorkUnit α)) (k : UnitKey) : List UnitKey :=
  ((us.find? fun u => u.key = k).map WorkUnit.needs).getD []

theorem find?_key_eq_none : us.find? (fun u => u.key = k) = none ↔ k ∉ us.map WorkUnit.key := by
  simp [List.find?_eq_none]

theorem DistinctKeys.find?_key (distinct : DistinctKeys us) (member : u ∈ us) :
    us.find? (fun v => v.key = u.key) = some u := by
  cases found : us.find? fun v => v.key = u.key with
  | none => exact absurd (List.mem_map_of_mem member) (find?_key_eq_none.1 found)
  | some v =>
      have same : v.key = u.key := by simpa using List.find?_some found
      rw [distinct.eq_of_key (List.mem_of_find?_eq_some found) member same]

theorem DistinctKeys.needsUnder_eq (distinct : DistinctKeys us) (member : u ∈ us) :
    needsUnder us u.key = u.needs := by
  rw [needsUnder, distinct.find?_key member]
  rfl

theorem DistinctKeys.mem_needsUnder (distinct : DistinctKeys us) {l : UnitKey} :
    l ∈ needsUnder us k ↔ ∃ u ∈ us, u.key = k ∧ l ∈ u.needs := by
  constructor
  · intro need
    cases found : us.find? fun u => u.key = k with
    | none => simp [needsUnder, found] at need
    | some u =>
        refine ⟨u, List.mem_of_find?_eq_some found, by simpa using List.find?_some found, ?_⟩
        simpa [needsUnder, found] using need
  · rintro ⟨u, member, rfl, need⟩
    rwa [distinct.needsUnder_eq member]

theorem needsUnder_unknown (unknown : k ∉ us.map WorkUnit.key) : needsUnder us k = [] := by
  rw [needsUnder, find?_key_eq_none.2 unknown]
  rfl

theorem needsUnder_snoc (fresh : u.key ∉ us.map WorkUnit.key) :
    needsUnder (us ++ [u]) k = if k = u.key then u.needs else needsUnder us k := by
  rw [needsUnder, List.find?_append]
  by_cases same : k = u.key
  · subst same
    rw [if_pos rfl, find?_key_eq_none.2 fresh]
    simp
  · rw [if_neg same, needsUnder]
    simp [Ne.symm same]

namespace DependencyGraph

/-! ## The first unit of every key -/

def keepFirst (kept : List (WorkUnit α)) (u : WorkUnit α) : List (WorkUnit α) :=
  if kept.any (fun v => v.key = u.key) then kept else kept ++ [u]

theorem any_key_iff {kept : List (WorkUnit α)} {k : UnitKey} :
    kept.any (fun v => v.key = k) = true ↔ k ∈ kept.map WorkUnit.key := by
  simp [List.any_eq_true]

theorem firstUnits_snoc (us : List (WorkUnit α)) (u : WorkUnit α) :
    firstUnits (us ++ [u]) = keepFirst (firstUnits us) u := by
  rw [firstUnits, List.foldl_append]
  rfl

/-- The keys of the nodes are those of the units, each at its first place. -/
theorem keys_firstUnits (us : List (WorkUnit α)) :
    (firstUnits us).map WorkUnit.key = (us.map WorkUnit.key).eraseDups := by
  induction us using List.reverseRecOn with
  | nil => rfl
  | append_singleton us u ih =>
      have kept : (firstUnits us).any (fun v => v.key = u.key) = true ↔
          u.key ∈ us.map WorkUnit.key := by
        rw [any_key_iff, ih, List.mem_eraseDups]
      rw [firstUnits_snoc, List.map_append, List.map_singleton, eraseDups_snoc, ← ih, keepFirst]
      by_cases known : u.key ∈ us.map WorkUnit.key
      · rw [if_pos known, if_pos (kept.2 known)]
      · rw [if_neg known, if_neg (mt kept.1 known), List.map_append, List.map_singleton]

theorem distinctKeys_firstUnits (us : List (WorkUnit α)) : DistinctKeys (firstUnits us) := by
  rw [DistinctKeys, keys_firstUnits]
  exact nodup_eraseDups _

/-- Every key has a node. -/
theorem mem_keys_firstUnits {us : List (WorkUnit α)} {k : UnitKey} :
    k ∈ (firstUnits us).map WorkUnit.key ↔ ∃ u ∈ us, u.key = k := by
  rw [keys_firstUnits, List.mem_eraseDups, List.mem_map]

theorem foldl_keepFirst_of_distinct {kept us : List (WorkUnit α)}
    (distinct : DistinctKeys (kept ++ us)) : us.foldl keepFirst kept = kept ++ us := by
  induction us generalizing kept with
  | nil => exact (List.append_nil kept).symm
  | cons u us ih =>
      rw [List.foldl_cons, keepFirst, if_neg (mt any_key_iff.1 distinct.fresh),
        ih (by rwa [List.append_assoc, List.singleton_append]), List.append_assoc,
        List.singleton_append]

/-- Nothing is left out when keys are distinct already. -/
theorem firstUnits_of_distinct {us : List (WorkUnit α)} (distinct : DistinctKeys us) :
    firstUnits us = us :=
  foldl_keepFirst_of_distinct distinct

theorem find?_keepFirst (kept : List (WorkUnit α)) (u : WorkUnit α) (k : UnitKey) :
    (keepFirst kept u).find? (fun v => v.key = k) = (kept ++ [u]).find? fun v => v.key = k := by
  rw [keepFirst]
  split
  · next known =>
      rw [List.find?_append]
      by_cases same : u.key = k
      · subst same
        cases found : kept.find? fun v => v.key = u.key with
        | none => exact absurd (any_key_iff.1 known) (find?_key_eq_none.1 found)
        | some v => rfl
      · simp [same]
  · rfl

/-- The node under a key is the first unit under it. -/
theorem find?_firstUnits (us : List (WorkUnit α)) (k : UnitKey) :
    (firstUnits us).find? (fun u => u.key = k) = us.find? fun u => u.key = k := by
  induction us using List.reverseRecOn with
  | nil => rfl
  | append_singleton us u ih =>
      rw [firstUnits_snoc, find?_keepFirst, List.find?_append, List.find?_append, ih]

theorem needsUnder_firstUnits (us : List (WorkUnit α)) (k : UnitKey) :
    needsUnder (firstUnits us) k = needsUnder us k := by
  rw [needsUnder, needsUnder, find?_firstUnits]

theorem rebuild_ofUnits (us : List (WorkUnit α)) : (ofUnits us).rebuild = ofUnits us := by
  have nodes : firstUnits (firstUnits us) = firstUnits us :=
    firstUnits_of_distinct (distinctKeys_firstUnits us)
  show ofUnits (firstUnits us) = ofUnits us
  rw [ofUnits, ofUnits, nodes]

theorem contains_iff {g : DependencyGraph α} {k : UnitKey} : g.contains k = true ↔ k ∈ g.keys := by
  rw [contains, position?, List.findIdx?_isSome, keys, List.any_eq_true, List.mem_map]
  simp only [decide_eq_true_eq]

/-! ## Nodes by position -/

def nodeAt (us : List (WorkUnit α)) (i : Nat) : WorkUnit α := us.getD i { key := default }

theorem nodeAt_eq {us : List (WorkUnit α)} {i : Nat} (inside : i < us.length) :
    nodeAt us i = us[i] := by
  simp [nodeAt, inside]

theorem unitsAt_eq_map (g : DependencyGraph α) {ps : List Nat} (inside : ∀ i ∈ ps, i < g.units.length) :
    g.unitsAt ps = ps.map (nodeAt g.units) :=
  filterMap_getElem?_eq_map g.units _ inside

/-! ## The positions of a graph -/

theorem size_ofUnits (us : List (WorkUnit α)) :
    (ofUnits us).precedence.size = (firstUnits us).length :=
  Precedence.size_ofRelation _ _

theorem mem_positions_ofUnits {us : List (WorkUnit α)} {i : Nat} :
    i ∈ (ofUnits us).precedence.positions ↔ i < (firstUnits us).length := by
  rw [Precedence.mem_positions, size_ofUnits]

theorem nodeAt_mem {us : List (WorkUnit α)} {i : Nat}
    (member : i ∈ (ofUnits us).precedence.positions) : nodeAt (firstUnits us) i ∈ firstUnits us := by
  rw [nodeAt_eq (mem_positions_ofUnits.1 member)]
  exact List.getElem_mem _

theorem map_nodeAt_positions (us : List (WorkUnit α)) :
    (ofUnits us).precedence.positions.map (nodeAt (firstUnits us)) = firstUnits us := by
  rw [Precedence.positions, size_ofUnits]
  exact map_getD_range _ _

/-- Different positions hold different nodes. -/
theorem nodeAt_injective (us : List (WorkUnit α)) :
    ∀ i ∈ (ofUnits us).precedence.positions, ∀ j ∈ (ofUnits us).precedence.positions,
      nodeAt (firstUnits us) i = nodeAt (firstUnits us) j → i = j := by
  intro i iMember j jMember same
  have iInside := mem_positions_ofUnits.1 iMember
  have jInside := mem_positions_ofUnits.1 jMember
  rw [nodeAt_eq iInside, nodeAt_eq jInside] at same
  exact ((distinctKeys_firstUnits us).nodup.getElem_inj_iff).1 same

/-- A position waits for another one exactly when its node requires the other node. -/
theorem waits_iff_requires (us : List (WorkUnit α)) :
    ∀ i ∈ (ofUnits us).precedence.positions, ∀ j ∈ (ofUnits us).precedence.positions,
      (ofUnits us).precedence.Waits i j ↔
        (nodeAt (firstUnits us) i).Requires (nodeAt (firstUnits us) j) := by
  intro i iMember j jMember
  have iInside := mem_positions_ofUnits.1 iMember
  have jInside := mem_positions_ofUnits.1 jMember
  rw [Precedence.Waits, ofUnits, Precedence.needsOf_ofRelation _ _ _ iInside, List.mem_filter,
    nodeAt_eq iInside, nodeAt_eq jInside]
  simp [WorkUnit.Requires, iInside, jInside]

end DependencyGraph

end Marking
