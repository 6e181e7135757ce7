/-
# Marking.Proofs.DependencyGraph.Strict -- the strict order of a graph

`topological` returns an order or refuses, and both answers are exact.  It refuses when the graph
has a cycle, also one of a unit with itself, and then says which cycles there are.  Otherwise it
returns, of all orders in which every unit comes after the units that it requires, the first one
when orders are compared by registration (`topological_exact`).

A need that no unit provides makes no edge, so it neither makes a cycle nor holds a unit back.
-/
import Marking.Proofs.DependencyGraph.Cycles
import Marking.Proofs.DependencyGraph.Schedule
import Marking.Proofs.Precedence.Extensions

set_option autoImplicit false

namespace Marking.DependencyGraph

variable {α : Type} {us order : List (WorkUnit α)}

/-- The first unit was registered before the second one. -/
def Precedes (us : List (WorkUnit α)) (u v : WorkUnit α) : Prop := Before us u.key v.key

/-- Of all orders in which every unit comes after what it requires, the first by registration. -/
abbrev IsFirstOrder (us order : List (WorkUnit α)) : Prop :=
  IsLeastExtension WorkUnit.Requires (Precedes us) (firstUnits us) order

theorem sorted_firstUnits (us : List (WorkUnit α)) : (firstUnits us).Pairwise (Precedes us) := by
  have sorted : ((firstUnits us).map WorkUnit.key).Pairwise (Before us) :=
    pairwise_idxOf (nodup_keys us)
  rw [List.pairwise_map] at sorted
  exact sorted

/-- The strict order is refused for its cycles, and for nothing else. -/
theorem topological_error_iff {f : Fault} :
    (ofUnits us).topological = .error f ↔ Cyclic us ∧ f = .cyclic (ofUnits us).cycles := by
  rw [cyclic_iff_waits, ← Precedence.leastOrder?_eq_none_iff, topological]
  cases (ofUnits us).precedence.leastOrder? with
  | none =>
      rw [Except.error.injEq]
      exact ⟨fun same => ⟨rfl, same.symm⟩, fun both => both.2.symm⟩
  | some ps => simp

/-- What is returned is made of first ready units, so no other order comes before it. -/
theorem topological_isFirstOrder (strict : (ofUnits us).topological = .ok order) :
    IsFirstOrder us order := by
  obtain ⟨rfl, all⟩ := topological_eq_map strict
  exact (earliestFirst_ofUnits us).isLeastExtension (distinctKeys_firstUnits us).nodup
    (sorted_firstUnits us) all

theorem topological_ok_iff :
    (ofUnits us).topological = .ok order ↔ ¬ Cyclic us ∧ IsFirstOrder us order := by
  constructor
  · intro strict
    refine ⟨fun cyclic => ?_, topological_isFirstOrder strict⟩
    have refused := topological_error_iff.2 ⟨cyclic, rfl⟩
    rw [strict] at refused
    cases refused
  · rintro ⟨acyclic, first⟩
    cases answer : (ofUnits us).topological with
    | error f => exact absurd (topological_error_iff.1 answer).1 acyclic
    | ok found =>
        have asymm : ∀ u v, Precedes us u v → ¬ Precedes us v u := fun _ _ => Nat.lt_asymm
        rw [(topological_isFirstOrder answer).unique asymm first]

/-- **The strict order.**  When some key depends on itself, directly or over others, the order is
refused with the cycles of the graph, of which there are some.  Otherwise it is the first, by
registration, of all orders in which every unit comes after what it requires. -/
theorem topological_exact (us : List (WorkUnit α)) :
    (∀ f, (ofUnits us).topological = .error f ↔ Cyclic us ∧ f = .cyclic (ofUnits us).cycles) ∧
      (Cyclic us ↔ (ofUnits us).cycles ≠ []) ∧
      ∀ order, (ofUnits us).topological = .ok order ↔ ¬ Cyclic us ∧ IsFirstOrder us order :=
  ⟨fun _ => topological_error_iff, by rw [ne_eq, cycles_eq_nil_iff, not_not],
    fun _ => topological_ok_iff⟩

end Marking.DependencyGraph
