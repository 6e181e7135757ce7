/-
# Marking.Proofs.DependencyGraph.Edges -- the edges of a graph, exactly

A graph keeps its edges by position and is asked for them by key.  The nodes that a key needs, and
those that need it, are selections of all nodes (`referencedFrom_ofUnits`, `referencing_ofUnits`),
so they come once and in the order of registration.  What is needed and is no node is missing.

So each need of a unit is an edge or missing and never both, edges can be followed both ways, and
they are the ones that a single pass over the units enters into dictionaries (`HasEdgesOf`).
Working the edges out anew changes nothing (`edges_exact`).
-/
import Mathlib.Data.Finset.Basic
import Mathlib.Data.List.Sort
import Mathlib.Logic.Function.Iterate
import Marking.Proofs.DependencyGraph.EdgeMaps

set_option autoImplicit false

namespace Marking

variable {α : Type} {us : List (WorkUnit α)} {u : WorkUnit α} {k l : UnitKey}

namespace DependencyGraph

/-! ## Edges by position -/

/-- What is needed is listed in rising order, so it is a selection of the positions. -/
theorem needsOf_eq_filter (p : Precedence) (i : Nat) :
    p.needsOf i = p.positions.filter fun j => (p.needsOf i).contains j := by
  refine List.Pairwise.eq_of_mem_iff (p.needsOf_rising i) (List.pairwise_lt_range.filter _) ?_
  intro j
  simp only [List.mem_filter, List.contains_iff_mem, iff_and_self]
  exact fun need => Precedence.mem_positions.2 (p.lt_size_of_mem_needsOf need)

theorem unitsAt_filter (us : List (WorkUnit α)) (p : WorkUnit α → Bool) :
    (ofUnits us).unitsAt
        ((ofUnits us).precedence.positions.filter fun i => p (nodeAt (firstUnits us) i)) =
      (firstUnits us).filter p := by
  rw [unitsAt_eq_map]
  · exact (List.filter_map).symm.trans (congrArg (List.filter p) (map_nodeAt_positions us))
  · intro i member
    exact mem_positions_ofUnits.1 (List.mem_filter.1 member).1

/-- Positions and keys tell the same nodes apart. -/
theorem position?_eq_some {i : Nat} (found : (ofUnits us).position? k = some i) :
    i ∈ (ofUnits us).precedence.positions ∧ (nodeAt (firstUnits us) i).key = k := by
  obtain ⟨inside, isKey, -⟩ := List.findIdx?_eq_some_iff_getElem.1 found
  refine ⟨mem_positions_ofUnits.2 inside, ?_⟩
  show (nodeAt (ofUnits us).units i).key = k
  rw [nodeAt_eq inside]
  exact of_decide_eq_true isKey

theorem position?_eq_none :
    (ofUnits us).position? k = none ↔ k ∉ (firstUnits us).map WorkUnit.key := by
  have known : (ofUnits us).contains k = true ↔ k ∈ (firstUnits us).map WorkUnit.key := contains_iff
  rw [← known, contains, Bool.not_eq_true, Option.isSome_eq_false_iff, Option.isNone_iff_eq_none]

/-- The unit under a key is listed with the nodes that it needs. -/
theorem referencedFrom_ofUnits (us : List (WorkUnit α)) (k : UnitKey) :
    (ofUnits us).referencedFrom k =
      (firstUnits us).filter fun v => (needsUnder us k).contains v.key := by
  rw [referencedFrom, ← needsUnder_firstUnits]
  cases found : (ofUnits us).position? k with
  | none =>
      have unknown := position?_eq_none.1 found
      rw [needsUnder_unknown unknown]
      exact (List.filter_false _).symm
  | some i =>
      obtain ⟨isPosition, rfl⟩ := position?_eq_some found
      rw [(distinctKeys_firstUnits us).needsUnder_eq (nodeAt_mem isPosition), ← unitsAt_filter]
      dsimp only
      rw [needsOf_eq_filter]
      refine congrArg _ (List.filter_congr fun j member => ?_)
      rw [Bool.eq_iff_iff, List.contains_iff_mem, List.contains_iff_mem]
      exact waits_iff_requires us i isPosition j member

/-- The unit under a key is listed with the nodes that need it. -/
theorem referencing_ofUnits (known : l ∈ (firstUnits us).map WorkUnit.key) :
    (ofUnits us).referencing l = (firstUnits us).filter fun u => u.needs.contains l := by
  rw [referencing]
  cases found : (ofUnits us).position? l with
  | none => exact absurd known (position?_eq_none.1 found)
  | some j =>
      obtain ⟨isPosition, rfl⟩ := position?_eq_some found
      rw [← unitsAt_filter]
      refine congrArg _ (List.filter_congr fun i member => ?_)
      rw [Bool.eq_iff_iff, List.contains_iff_mem, List.contains_iff_mem]
      exact waits_iff_requires us i member j isPosition

theorem referencing_unknown (unknown : l ∉ (firstUnits us).map WorkUnit.key) :
    (ofUnits us).referencing l = [] := by
  rw [referencing, position?_eq_none.2 unknown]

/-! ## Edges by key -/

/-- The keys of what a unit needs are those of its needs that are keys of nodes. -/
theorem keys_referencedFrom (us : List (WorkUnit α)) (k : UnitKey) :
    ((ofUnits us).referencedFrom k).map WorkUnit.key =
      ((firstUnits us).map WorkUnit.key).filter (needsUnder us k).contains := by
  rw [referencedFrom_ofUnits, List.filter_map]
  rfl

theorem mem_keys_referencedFrom : l ∈ ((ofUnits us).referencedFrom k).map WorkUnit.key ↔
    l ∈ (firstUnits us).map WorkUnit.key ∧ l ∈ needsUnder us k := by
  rw [keys_referencedFrom, List.mem_filter, List.contains_iff_mem]

/-- A key is listed with those that need it exactly when it is one of those that they need. -/
theorem mem_keys_referencing : k ∈ ((ofUnits us).referencing l).map WorkUnit.key ↔
    l ∈ (firstUnits us).map WorkUnit.key ∧ l ∈ needsUnder us k := by
  by_cases known : l ∈ (firstUnits us).map WorkUnit.key
  · rw [and_iff_right known, referencing_ofUnits known, ← needsUnder_firstUnits,
      (distinctKeys_firstUnits us).mem_needsUnder, List.mem_map]
    simp only [List.mem_filter, List.contains_iff_mem, and_assoc, and_comm]
  · rw [referencing_unknown known]
    simp [known]

/-- Some of the nodes, each of them once and in the order of registration. -/
structure Registered (g : DependencyGraph α) (vs : List (WorkUnit α)) : Prop where
  ordered : vs.Sublist g.units
  once : DistinctKeys vs

theorem registered_of_sublist {vs : List (WorkUnit α)} (ordered : vs.Sublist (firstUnits us)) :
    (ofUnits us).Registered vs :=
  ⟨ordered, (distinctKeys_firstUnits us).sublist (ordered.map _)⟩

theorem registered_referencedFrom (us : List (WorkUnit α)) (k : UnitKey) :
    (ofUnits us).Registered ((ofUnits us).referencedFrom k) := by
  rw [referencedFrom_ofUnits]
  exact registered_of_sublist List.filter_sublist

theorem registered_referencing (us : List (WorkUnit α)) (l : UnitKey) :
    (ofUnits us).Registered ((ofUnits us).referencing l) := by
  by_cases known : l ∈ (firstUnits us).map WorkUnit.key
  · rw [referencing_ofUnits known]
    exact registered_of_sublist List.filter_sublist
  · rw [referencing_unknown known]
    exact registered_of_sublist (List.nil_sublist _)

/-! ## What is missing -/

/-- Under a key is missing what its unit needs and no node provides. -/
theorem under_missing (us : List (WorkUnit α)) (k : UnitKey) :
    KeyLists.under (ofUnits us).missing k =
      (needsUnder us k).filter fun l => !(ofUnits us).contains l := by
  have under := KeyLists.under_listed (distinctKeys_firstUnits us) (ofUnits us).missingOf k
  rw [missing, show (ofUnits us).units = firstUnits us from rfl, under, ← needsUnder_firstUnits,
    needsUnder]
  cases (firstUnits us).find? fun u => u.key = k <;> rfl

theorem mem_missing : l ∈ KeyLists.under (ofUnits us).missing k ↔
    l ∈ needsUnder us k ∧ l ∉ (firstUnits us).map WorkUnit.key := by
  have known : (ofUnits us).contains l = true ↔ l ∈ (firstUnits us).map WorkUnit.key := contains_iff
  rw [under_missing, List.mem_filter, Bool.not_eq_true', ← Bool.not_eq_true, known]

/-- A key is listed with what it misses exactly when it misses something. -/
theorem mem_keys_missing :
    k ∈ (ofUnits us).missing.map Prod.fst ↔ ∃ l, l ∈ KeyLists.under (ofUnits us).missing k := by
  rw [KeyLists.mem_keys_iff, ← List.length_pos_iff, List.length_pos_iff_exists_mem]
  intro e member none
  simpa [none] using (List.mem_filter.1 member).2

theorem keys_missing_sublist (us : List (WorkUnit α)) :
    ((ofUnits us).missing.map Prod.fst).Sublist (ofUnits us).keys := by
  have all : (ofUnits us).keys =
      ((ofUnits us).units.map fun u => (u.key, (ofUnits us).missingOf u)).map Prod.fst := by
    rw [List.map_map]
    rfl
  rw [all]
  exact List.filter_sublist.map _

/-- What a unit needs is an edge or missing. -/
theorem needsUnder_eq_union (us : List (WorkUnit α)) (k : UnitKey) : (needsUnder us k).toFinset =
    (((ofUnits us).referencedFrom k).map WorkUnit.key).toFinset ∪
      (KeyLists.under (ofUnits us).missing k).toFinset := by
  ext l
  rw [Finset.mem_union, List.mem_toFinset, List.mem_toFinset, List.mem_toFinset,
    mem_keys_referencedFrom, mem_missing, and_comm, ← and_or_left]
  exact (and_iff_left (em _)).symm

theorem disjoint_missing (us : List (WorkUnit α)) (k : UnitKey) :
    Disjoint (((ofUnits us).referencedFrom k).map WorkUnit.key).toFinset
      (KeyLists.under (ofUnits us).missing k).toFinset := by
  rw [Finset.disjoint_left]
  intro l isEdge isMissing
  rw [List.mem_toFinset] at isEdge isMissing
  exact (mem_missing.1 isMissing).2 (mem_keys_referencedFrom.1 isEdge).1

/-! ## Edges from one pass -/

theorem forward_edgeMaps (us : List (WorkUnit α)) (k : UnitKey) :
    (ofUnits us).edgeMaps.forward.under k = ((ofUnits us).referencedFrom k).map WorkUnit.key := by
  rw [keys_referencedFrom, ← needsUnder_firstUnits]
  exact (EdgeMaps.entered_ofUnits (distinctKeys_firstUnits us)).forward k

theorem backward_edgeMaps (us : List (WorkUnit α)) (l : UnitKey) :
    (ofUnits us).edgeMaps.backward.under l = ((ofUnits us).referencing l).map WorkUnit.key := by
  have entered := EdgeMaps.entered_ofUnits (distinctKeys_firstUnits us)
  by_cases known : l ∈ (firstUnits us).map WorkUnit.key
  · rw [referencing_ofUnits known]
    exact entered.backward l known
  · rw [referencing_unknown known]
    exact KeyLists.under_unknown (entered.backward_keys ▸ known)

theorem missing_edgeMaps (us : List (WorkUnit α)) :
    (ofUnits us).edgeMaps.missing = (ofUnits us).missing := by
  have unknown : ∀ u : WorkUnit α,
      (u.needs.filter fun k => !((firstUnits us).map WorkUnit.key).contains k) =
        (ofUnits us).missingOf u := by
    intro u
    refine List.filter_congr fun k _ => congrArg _ ?_
    rw [Bool.eq_iff_iff, List.contains_iff_mem, contains_iff]
    exact Iff.rfl
  have filled := (EdgeMaps.entered_ofUnits (distinctKeys_firstUnits us)).missing
  simp only [unknown] at filled
  exact filled

/-! ## The edges of units -/

/-- The graph has the edges of the units, and no other ones. -/
structure HasEdgesOf (g : DependencyGraph α) (us : List (WorkUnit α)) : Prop where
  /-- Every key of a unit is the key of one node, at its first place. -/
  keys : g.keys = (us.map WorkUnit.key).eraseDups
  /-- The node under a key is the first unit under it. -/
  node : ∀ k, g.units.find? (fun u => u.key = k) = us.find? fun u => u.key = k
  /-- A key is listed with the nodes that it needs. -/
  mem_from : ∀ k v, v ∈ g.referencedFrom k ↔ v ∈ g.units ∧ v.key ∈ needsUnder us k
  registered_from : ∀ k, g.Registered (g.referencedFrom k)
  /-- A node needs another one exactly when it is listed among those that need the other one. -/
  mem_to : ∀ k l, k ∈ (g.referencing l).map WorkUnit.key ↔
    l ∈ (g.referencedFrom k).map WorkUnit.key
  registered_to : ∀ l, g.Registered (g.referencing l)
  /-- Missing is what a unit needs and no unit provides. -/
  mem_missing : ∀ k l, l ∈ KeyLists.under g.missing k ↔
    l ∈ needsUnder us k ∧ ∀ u ∈ us, u.key ≠ l
  /-- It is listed where there is some, once and in the order of registration. -/
  listed : ∀ k, k ∈ g.missing.map Prod.fst ↔ ∃ l ∈ needsUnder us k, ∀ u ∈ us, u.key ≠ l
  listed_once : (g.missing.map Prod.fst).Sublist g.keys
  /-- What a unit needs is an edge or missing, and never both. -/
  whole : ∀ k, (needsUnder us k).toFinset =
    ((g.referencedFrom k).map WorkUnit.key).toFinset ∪ (KeyLists.under g.missing k).toFinset
  apart : ∀ k, Disjoint ((g.referencedFrom k).map WorkUnit.key).toFinset
    (KeyLists.under g.missing k).toFinset
  /-- One pass over the nodes enters just these edges, in this order. -/
  forward : ∀ k, g.edgeMaps.forward.under k = (g.referencedFrom k).map WorkUnit.key
  backward : ∀ l, g.edgeMaps.backward.under l = (g.referencing l).map WorkUnit.key
  missing : g.edgeMaps.missing = g.missing

theorem hasEdgesOf_ofUnits (us : List (WorkUnit α)) : (ofUnits us).HasEdgesOf us := by
  have provided : ∀ l, l ∉ (firstUnits us).map WorkUnit.key ↔ ∀ u ∈ us, u.key ≠ l := by
    intro l
    rw [mem_keys_firstUnits]
    simp
  constructor
  case keys => exact keys_firstUnits us
  case node => exact find?_firstUnits us
  case mem_from =>
    intro k v
    rw [referencedFrom_ofUnits, List.mem_filter, List.contains_iff_mem]
    exact Iff.rfl
  case registered_from => exact registered_referencedFrom us
  case mem_to =>
    intro k l
    rw [mem_keys_referencing, mem_keys_referencedFrom]
  case registered_to => exact registered_referencing us
  case mem_missing =>
    intro k l
    rw [DependencyGraph.mem_missing, provided]
  case listed =>
    intro k
    simp only [mem_keys_missing, DependencyGraph.mem_missing, provided]
  case listed_once => exact keys_missing_sublist us
  case whole => exact needsUnder_eq_union us
  case apart => exact disjoint_missing us
  case forward => exact forward_edgeMaps us
  case backward => exact backward_edgeMaps us
  case missing => exact missing_edgeMaps us

/-- **The edges of a graph are exact**, however often they are worked out anew.  The first unit of
every key is its node.  What it needs is an edge to another node or is missing, and never both;
edges are listed from both their ends, each once and in the order of registration, and what is
missing is listed where there is some.  A single pass over the nodes enters all of this. -/
theorem edges_exact (us : List (WorkUnit α)) (n : Nat) :
    (rebuild^[n] (ofUnits us)).HasEdgesOf us := by
  rw [Function.iterate_fixed (rebuild_ofUnits us) n]
  exact hasEdgesOf_ofUnits us

example :
    let a : UnitKey := ⟨"app.A", .type⟩
    let b : UnitKey := ⟨"app.B", .type⟩
    let c : UnitKey := ⟨"app.C", .type⟩
    let ghost : UnitKey := ⟨"app.Ghost", .type⟩
    let g : DependencyGraph Nat :=
      ofUnits [{ key := a }, { key := b, needs := [ghost, a] }, { key := c, needs := [b, a] }]
    (g.referencing a).map WorkUnit.key = [b, c] ∧ (g.referencedFrom c).map WorkUnit.key = [a, b] ∧
      g.missing = [(b, [ghost])] := by
  decide +kernel

end DependencyGraph

end Marking
