/-
# Marking.Proofs.DependencyGraph.Modes -- the two ways to schedule a graph agree

A schedule is made by trying the strict order first, or by the best effort alone.  What it says of
itself comes from different places: the strict order says that nothing is cyclic by being there,
the best effort by forcing nothing, and the cycles are searched for only when one of them failed.
All of this comes to the same (`Schedule.IsExact`), because the best effort forces something
exactly when there is a cycle (`forced_eq_nil_iff`).

On a cyclic graph both ways make one and the same schedule.  On others the orders may differ.
-/
import Marking.Proofs.DependencyGraph.Strict

set_option autoImplicit false

namespace Marking

open DependencyGraph

variable {α : Type}

/-- The best effort forces nothing exactly when there is no cycle. -/
theorem DependencyGraph.forced_eq_nil_iff (us : List (WorkUnit α)) :
    (ofUnits us).bestEffort.forced = [] ↔ ¬ Cyclic us := by
  constructor
  · intro none
    obtain ⟨explained, all⟩ := (sweeps_keys us).explains explains_nil
    rw [none] at explained
    rintro ⟨k, ring⟩
    exact explained.acyclic all (fun _ _ => Depends.known) k ring
  · intro acyclic
    rw [List.eq_nil_iff_forall_not_mem]
    exact fun k forced => acyclic ⟨k, (bestEffort_isSound us).cyclic k forced⟩

namespace Schedule

structure IsExact (us : List (WorkUnit α)) (s : Schedule α) : Prop where
  /-- Every unit of the graph is in the order, once. -/
  perm : s.order.Perm (firstUnits us)
  strict_iff : s.strict = true ↔ ¬ Cyclic us
  strict_iff_forced : s.strict = true ↔ s.forced = []
  strict_iff_cycles : s.strict = true ↔ s.cycles = []
  cycles : s.cycles = (ofUnits us).cycles
  /-- In a strict order every unit comes after what it requires. -/
  placed : s.strict = true → IsExtension WorkUnit.Requires (firstUnits us) s.order

variable {us : List (WorkUnit α)} {s : Schedule α}

/-- It is enough that the schedule is made of units and tells of the cycles. -/
theorem IsExact.of_explains {forced : List (WorkUnit α)}
    (same : forced.map WorkUnit.key = s.forced)
    (explained : Explains WorkUnit.Requires (firstUnits us) s.order forced)
    (all : ∀ u ∈ firstUnits us, u ∈ s.order) (strict : s.strict = true ↔ ¬ Cyclic us)
    (free : s.forced = [] ↔ ¬ Cyclic us) (cycles : s.cycles = (ofUnits us).cycles) :
    IsExact us s where
  perm := (List.perm_ext_iff_of_nodup explained.nodup (distinctKeys_firstUnits us).nodup).2
    fun u => ⟨explained.subset u, all u⟩
  strict_iff := strict
  strict_iff_forced := by rw [strict, free]
  strict_iff_cycles := by rw [strict, cycles, cycles_eq_nil_iff]
  cycles := cycles
  placed isStrict := by
    have none : forced = [] := by
      rw [← List.map_eq_nil_iff (f := WorkUnit.key), same]
      exact free.2 (strict.1 isStrict)
    rw [none] at explained
    exact explained.isExtension all (distinctKeys_firstUnits us).nodup

/-! ## The three ways to a schedule -/

/-- The best effort searches for cycles when it forces something, and otherwise there are none. -/
theorem isExact_bestEffort (us : List (WorkUnit α)) : IsExact us (ofGraph false (ofUnits us)).1 := by
  obtain ⟨forced, same, explained, all⟩ := ofGraph_explains false us
  have free := forced_eq_nil_iff us
  refine .of_explains same explained all ?_ free ?_
  · show (ofUnits us).bestEffort.forced.isEmpty = true ↔ _
    rw [List.isEmpty_iff, free]
  · show (if (ofUnits us).bestEffort.forced.isEmpty then [] else (ofUnits us).cycles) = _
    split
    · next none => exact ((cycles_eq_nil_iff us).2 (free.1 (List.isEmpty_iff.1 none))).symm
    · rfl

/-- The strict order is asked for, and there is one. -/
theorem isExact_strict (acyclic : ¬ Cyclic us) : IsExact us (ofGraph true (ofUnits us)).1 := by
  obtain ⟨forced, same, explained, all⟩ := ofGraph_explains true us
  cases answer : (ofUnits us).topological with
  | error f => exact absurd (topological_error_iff.1 answer).1 acyclic
  | ok order =>
      rw [ofGraph_of_ok answer] at same explained all ⊢
      exact .of_explains same explained all (by simp [acyclic]) (by simp [acyclic])
        ((cycles_eq_nil_iff us).2 acyclic).symm

/-- The strict order is asked for, and there is none: this is the best effort, which has to force
something as well. -/
theorem ofGraph_of_cyclic (cyclic : Cyclic us) :
    (ofGraph true (ofUnits us)).1 = (ofGraph false (ofUnits us)).1 := by
  have some : (ofUnits us).bestEffort.forced.isEmpty = false := by
    rw [List.isEmpty_eq_false_iff, ne_eq, forced_eq_nil_iff, not_not]
    exact cyclic
  rw [ofGraph_of_error (topological_error_iff.2 ⟨cyclic, rfl⟩)]
  simp [ofGraph, ofEffort, some]

/-- **The two modes agree.**  Whichever is asked for, every unit is scheduled once; the schedule is
strict exactly when the graph has no cycle, and so exactly when nothing is forced and no cycle is
told of; it tells of the cycles of the graph; and in a strict schedule every unit comes after what
it requires.  On a cyclic graph both modes make the same schedule.  The only fault that asking for
a strict order can meet is the one about cycles, which the fallback takes up. -/
theorem modes_agree (us : List (WorkUnit α)) :
    (∀ strict, IsExact us (ofGraph strict (ofUnits us)).1) ∧
      (Cyclic us → (ofGraph true (ofUnits us)).1 = (ofGraph false (ofUnits us)).1) ∧
      ∀ f, (ofUnits us).topological = .error f → f = .cyclic (ofUnits us).cycles := by
  refine ⟨fun strict => ?_, ofGraph_of_cyclic, fun f refused => (topological_error_iff.1 refused).2⟩
  cases strict with
  | false => exact isExact_bestEffort us
  | true =>
      by_cases cyclic : Cyclic us
      · rw [ofGraph_of_cyclic cyclic]
        exact isExact_bestEffort us
      · exact isExact_strict cyclic

end Schedule

/-! ## A small ring -/

namespace Sample

/-- Two units need each other, and a third one needs the first. -/
def ring : List (WorkUnit Unit) :=
  [{ key := ⟨"app.Egg", .type⟩, needs := [⟨"app.Hen", .type⟩] },
    { key := ⟨"app.Hen", .type⟩, needs := [⟨"app.Egg", .type⟩] },
    { key := ⟨"app.Omelet", .type⟩, needs := [⟨"app.Egg", .type⟩] }]

theorem ring_scheduled : Cyclic ring ∧
    (Schedule.ofGraph true (ofUnits ring)).1 = (Schedule.ofGraph false (ofUnits ring)).1 := by
  have eggHen : Depends ring ⟨"app.Egg", .type⟩ ⟨"app.Hen", .type⟩ := by
    unfold Depends
    decide +kernel
  have henEgg : Depends ring ⟨"app.Hen", .type⟩ ⟨"app.Egg", .type⟩ := by
    unfold Depends
    decide +kernel
  have cyclic : Cyclic ring := ⟨_, .tail (.single eggHen) henEgg⟩
  exact ⟨cyclic, (Schedule.modes_agree ring).2.1 cyclic⟩

/-- The egg is forced out, and what needs it is not. -/
example : ((ofUnits ring).bestEffort.forced.map UnitKey.name,
    (ofUnits ring).cycles.map (List.map UnitKey.name)) =
      (["app.Egg"], [["app.Egg", "app.Hen"]]) := by
  cbv

end Sample

end Marking
