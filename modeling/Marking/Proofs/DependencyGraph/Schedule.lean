/-
# Marking.Proofs.DependencyGraph.Schedule -- what every schedule keeps

However a graph is ordered, its schedule holds every unit once, and a unit that is not among
the forced ones comes after every unit that it requires (`ofGraph_explains`).  In the strict
order nothing is forced; otherwise the best effort answers for it.
-/
import Marking.Proofs.DependencyGraph.BestEffort
import Marking.Proofs.Precedence.Least

set_option autoImplicit false

namespace Marking

open Precedence (Forced)

variable {α : Type}

namespace DependencyGraph

/-- The strict order of positions is made of first ready units. -/
theorem earliestFirst_ofUnits (us : List (WorkUnit α)) :
    EarliestFirst WorkUnit.Requires (firstUnits us) []
      ((ofUnits us).precedence.countdown.order.map (nodeAt (firstUnits us))) := by
  have emitted := (Precedence.countdown_earliestFirst (ofUnits us).precedence).map
    (nodeAt (firstUnits us)) (nodeAt_injective us) (waits_iff_requires us)
    (fun _ member => nomatch member)
  rwa [map_nodeAt_positions] at emitted

/-- The strict order has the units at the positions that the countdown emits, which are all. -/
theorem topological_eq_map {us order : List (WorkUnit α)}
    (strict : (ofUnits us).topological = .ok order) :
    order = (ofUnits us).precedence.countdown.order.map (nodeAt (firstUnits us)) ∧
      ∀ u ∈ firstUnits us, u ∈ order := by
  rw [topological] at strict
  cases found : (ofUnits us).precedence.leastOrder? with
  | none =>
      rw [found] at strict
      cases strict
  | some ps =>
      obtain ⟨rfl, all⟩ := Precedence.leastOrder?_eq_some_iff.1 found
      have inside : ∀ i ∈ (ofUnits us).precedence.countdown.order, i < (firstUnits us).length :=
        fun i member => size_ofUnits us ▸ (Precedence.countdown_sound _).order_lt i member
      have orderEq : order = (ofUnits us).precedence.countdown.order.map (nodeAt (firstUnits us)) := by
        rw [found] at strict
        exact (Except.ok.inj strict).symm.trans (unitsAt_eq_map (ofUnits us) inside)
      refine ⟨orderEq, fun u member => ?_⟩
      rw [← map_nodeAt_positions us] at member
      obtain ⟨i, isPosition, rfl⟩ := List.mem_map.1 member
      rw [orderEq]
      exact List.mem_map_of_mem (all i isPosition)

/-- The strict order holds every unit, each after what it requires. -/
theorem topological_explains {us order : List (WorkUnit α)}
    (strict : (ofUnits us).topological = .ok order) :
    Explains WorkUnit.Requires (firstUnits us) order [] ∧ ∀ u ∈ firstUnits us, u ∈ order := by
  obtain ⟨rfl, all⟩ := topological_eq_map strict
  exact ⟨((earliestFirst_ofUnits us).explains explains_nil).1, all⟩

/-- The best effort holds every unit, each that it does not force after what it requires. -/
theorem bestEffort_explains (us : List (WorkUnit α)) :
    ∃ forced : List (WorkUnit α), forced.map WorkUnit.key = (ofUnits us).bestEffort.forced ∧
      Explains WorkUnit.Requires (firstUnits us) (ofUnits us).bestEffort.order forced ∧
      ∀ u ∈ firstUnits us, u ∈ (ofUnits us).bestEffort.order := by
  obtain ⟨orderEq, forcedEq⟩ := bestEffort_eq_map us
  rw [orderEq, forcedEq]
  exact ⟨_, rfl, (sweeps_ofUnits us).explains explains_nil⟩

end DependencyGraph

namespace Schedule

open DependencyGraph

variable {g : DependencyGraph α}

/-- The strict order is the schedule, when there is one. -/
theorem ofGraph_of_ok {order : List (WorkUnit α)} (sorted : g.topological = .ok order) :
    ofGraph true g = ({ order, strict := true }, []) := by
  rw [ofGraph, if_pos rfl, sorted]

/-- A graph without strict order falls back to the best effort. -/
theorem ofGraph_of_error {f : Fault} (refused : g.topological = .error f) :
    (ofGraph true g).1 =
      { order := g.bestEffort.order, cycles := g.cycles, forced := g.bestEffort.forced } := by
  rw [ofGraph, if_pos rfl, refused]

/-- **Every schedule holds every unit, each that it does not force after what it requires.** -/
theorem ofGraph_explains (strict : Bool) (us : List (WorkUnit α)) :
    ∃ forced : List (WorkUnit α), forced.map WorkUnit.key = (ofGraph strict (ofUnits us)).1.forced ∧
      Explains WorkUnit.Requires (firstUnits us) (ofGraph strict (ofUnits us)).1.order forced ∧
      ∀ u ∈ firstUnits us, u ∈ (ofGraph strict (ofUnits us)).1.order := by
  cases strict with
  | false => exact bestEffort_explains us
  | true =>
      cases sorted : (ofUnits us).topological with
      | ok order =>
          rw [ofGraph_of_ok sorted]
          exact ⟨[], rfl, topological_explains sorted⟩
      | error f =>
          rw [ofGraph_of_error sorted]
          exact bestEffort_explains us

end Schedule

end Marking
