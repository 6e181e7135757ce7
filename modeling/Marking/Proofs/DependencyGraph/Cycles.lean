/-
# Marking.Proofs.DependencyGraph.Cycles -- the cycles of a graph

Positions stand for keys: a position waits for another one exactly when its key depends on the
other key, and a smaller position was registered before a greater one.  So what is known of the
cycles of a precedence is known of the cycles of a graph (`graph_cycles`).

A graph is `Cyclic` when some key depends on itself, directly or over others.  Then, and only
then, something is listed.
-/
import Marking.Proofs.DependencyGraph.Forcing
import Marking.Proofs.Precedence.Cycles

set_option autoImplicit false

namespace Marking.DependencyGraph

variable {α : Type} (us : List (WorkUnit α))

def keyAt (i : Nat) : UnitKey := (nodeAt (firstUnits us) i).key

/-- The first key was registered before the second one. -/
def Before (k l : UnitKey) : Prop := (ofUnits us).keys.idxOf k < (ofUnits us).keys.idxOf l

/-- Some key depends on itself, directly or over others. -/
def Cyclic : Prop := ∃ k, Relation.TransGen (Depends us) k k

theorem nodup_keys : (ofUnits us).keys.Nodup := distinctKeys_firstUnits us

/-! ## Positions and keys -/

theorem map_keyAt_positions : (ofUnits us).precedence.positions.map (keyAt us) = (ofUnits us).keys := by
  have keys := congrArg (List.map WorkUnit.key) (map_nodeAt_positions us)
  rwa [List.map_map] at keys

theorem keyAt_injective : ∀ i ∈ (ofUnits us).precedence.positions,
    ∀ j ∈ (ofUnits us).precedence.positions, keyAt us i = keyAt us j → i = j := by
  have nodup := nodup_keys us
  rw [← map_keyAt_positions] at nodup
  exact fun i iMember j jMember => List.inj_on_of_nodup_map nodup iMember jMember

variable {us}

theorem waits_iff_depends : ∀ i ∈ (ofUnits us).precedence.positions,
    ∀ j ∈ (ofUnits us).precedence.positions,
      (ofUnits us).precedence.Waits i j ↔ Depends us (keyAt us i) (keyAt us j) := by
  intro i iMember j jMember
  rw [waits_iff_requires us i iMember j jMember,
    requires_iff_depends (nodeAt_mem iMember) (nodeAt_mem jMember)]
  rfl

/-- The keys at the positions are the keys in the order of registration. -/
theorem before_keyAt : ∀ i ∈ (ofUnits us).precedence.positions,
    ∀ j ∈ (ofUnits us).precedence.positions, i < j → Before us (keyAt us i) (keyAt us j) := by
  have place : ∀ i ∈ (ofUnits us).precedence.positions, (ofUnits us).keys.idxOf (keyAt us i) = i := by
    intro i member
    have inside := mem_positions_ofUnits.1 member
    have known : i < (ofUnits us).keys.length := by simpa [keys, ofUnits] using inside
    have here : keyAt us i = (ofUnits us).keys[i] := by
      simp [keyAt, nodeAt_eq inside, keys, ofUnits]
    rw [here]
    exact (nodup_keys us).idxOf_getElem i known
  intro i iMember j jMember lt
  rwa [Before, place i iMember, place j jMember]

theorem keysAt_eq_map {ps : List Nat} (inside : ∀ i ∈ ps, i ∈ (ofUnits us).precedence.positions) :
    (ofUnits us).keysAt ps = ps.map (keyAt us) := by
  rw [keysAt, unitsAt_eq_map _ fun i member => mem_positions_ofUnits.1 (inside i member), List.map_map]
  rfl

/-! ## Cycles -/

/-- Positions wait in a ring exactly when keys depend on each other in a ring. -/
theorem cyclic_iff_waits (us : List (WorkUnit α)) :
    Cyclic us ↔ ∃ i, Relation.TransGen (ofUnits us).precedence.Waits i i := by
  refine exists_ring_map_iff (keyAt us) (keyAt_injective us) waits_iff_depends
    (fun _ _ => Precedence.Waits.positions) ?_
  rw [map_keyAt_positions]
  exact fun _ _ => Depends.known

theorem cycles_eq_map (us : List (WorkUnit α)) :
    (ofUnits us).cycles = (ofUnits us).precedence.cycles.map (List.map (keyAt us)) := by
  refine List.map_congr_left fun c listed => keysAt_eq_map fun i member => ?_
  have ring := ((ofUnits us).precedence.cycles_isCycles.mem_iff i).1 ⟨c, listed, member⟩
  obtain ⟨j, step, -⟩ := Relation.TransGen.head'_iff.1 ring
  exact (Precedence.Waits.positions step).1

theorem isCycles_ofUnits (us : List (WorkUnit α)) :
    IsCycles (Depends us) (Before us) (ofUnits us).cycles := by
  rw [cycles_eq_map]
  refine (ofUnits us).precedence.cycles_isCycles.map (keyAt us) (keyAt_injective us)
    waits_iff_depends (fun _ _ => Precedence.Waits.positions) ?_ before_keyAt
  rw [map_keyAt_positions]
  exact fun _ _ => Depends.known

/-- Something is listed exactly when there is a cycle. -/
theorem cycles_eq_nil_iff (us : List (WorkUnit α)) : (ofUnits us).cycles = [] ↔ ¬ Cyclic us :=
  (isCycles_ofUnits us).eq_nil_iff

/-- **The cycles of a graph are listed exactly.**  A key is listed, in one cycle and once, when it
depends on itself, directly or over others; keys are listed together when each depends on the
other.  Each cycle has its keys in the order of registration, and the cycles come in the order of
their first keys. -/
theorem graph_cycles (us : List (WorkUnit α)) :
    IsCycles (Depends us) (Before us) (ofUnits us).cycles ∧
      ∀ k, (∃! c, c ∈ (ofUnits us).cycles ∧ k ∈ c) ↔ Relation.TransGen (Depends us) k k := by
  have listed := isCycles_ofUnits us
  refine ⟨listed, fun k => ⟨fun once => ?_, listed.existsUnique⟩⟩
  obtain ⟨c, isCycle, member⟩ := once.exists
  exact (listed.mem_iff k).1 ⟨c, isCycle, member⟩

end Marking.DependencyGraph
