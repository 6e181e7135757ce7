/-
# Marking.Proofs.DependencyGraph.BestEffort -- the best effort is repeated passes over units

`bestEffort` orders positions by counting.  Read as an ordering of units it is the plain rule
of `Sweeps`: pass after pass over the units in order of registration, and a unit that waits for
a cycle of its own when a pass emits nothing.  The rule has exactly one outcome, so
`bestEffort` is that outcome.
-/
import Marking.Proofs.DependencyGraph.Nodes
import Marking.Proofs.Precedence.Passes

set_option autoImplicit false

namespace Marking.DependencyGraph

open Precedence (Forced)

variable {α : Type}

/-- The order of the best effort and the units that it forces, in the order of forcing, by
repeated passes. -/
theorem sweeps_ofUnits (us : List (WorkUnit α)) :
    let passes := (ofUnits us).precedence.passes
    Sweeps WorkUnit.Requires (firstUnits us) [] [] (passes.order.map (nodeAt (firstUnits us)))
      ((passes.forced.map Forced.position).map (nodeAt (firstUnits us))) := by
  have sweeps := (Precedence.passes_sweeps (ofUnits us).precedence).map (nodeAt (firstUnits us))
    (nodeAt_injective us) (waits_iff_requires us) (fun _ member => nomatch member)
  rwa [map_nodeAt_positions] at sweeps

/-- Only positions are ordered and forced. -/
theorem inside_passes (us : List (WorkUnit α)) :
    (∀ i ∈ (ofUnits us).precedence.passes.order, i < (firstUnits us).length) ∧
      ∀ i ∈ (ofUnits us).precedence.passes.forced.map Forced.position, i < (firstUnits us).length := by
  obtain ⟨explained, -⟩ :=
    (Precedence.passes_sweeps (ofUnits us).precedence).explains explains_nil
  have ordered : ∀ i ∈ (ofUnits us).precedence.passes.order, i < (firstUnits us).length :=
    fun i member => mem_positions_ofUnits.1 (explained.subset i member)
  exact ⟨ordered, fun i member => ordered i (explained.sublist.subset member)⟩

theorem bestEffort_eq_map (us : List (WorkUnit α)) :
    (ofUnits us).bestEffort.order =
        (ofUnits us).precedence.passes.order.map (nodeAt (firstUnits us)) ∧
      (ofUnits us).bestEffort.forced =
        (((ofUnits us).precedence.passes.forced.map Forced.position).map
          (nodeAt (firstUnits us))).map WorkUnit.key := by
  obtain ⟨ordered, forced⟩ := inside_passes us
  exact ⟨unitsAt_eq_map (ofUnits us) ordered,
    congrArg (List.map WorkUnit.key) (unitsAt_eq_map (ofUnits us) forced)⟩

/-- **The best effort is the outcome of the repeated passes, and they have no other.** -/
theorem bestEffort_sweeps (us : List (WorkUnit α)) :
    ∃ forced, forced.map WorkUnit.key = (ofUnits us).bestEffort.forced ∧
      ∀ order allForced, Sweeps WorkUnit.Requires (firstUnits us) [] [] order allForced ↔
        order = (ofUnits us).bestEffort.order ∧ allForced = forced := by
  obtain ⟨orderEq, forcedEq⟩ := bestEffort_eq_map us
  refine ⟨_, forcedEq.symm, fun order allForced => ?_⟩
  rw [orderEq]
  constructor
  · intro sweeps
    exact sweeps.deterministic (sweeps_ofUnits us)
  · rintro ⟨rfl, rfl⟩
    exact sweeps_ofUnits us

end Marking.DependencyGraph
