/-
# Marking.Proofs.DependencyGraph.Forcing -- the best effort forces cycles, and only cycles

Read by keys, the best effort is an order in which `forced` tells exactly which units come
before something that they depend on (`IsSound`).  Units on a cycle may be forced, and every
cycle has a forced unit; a unit that merely depends on a cycle never is.

The effort always comes to its end, and the search for a cycle to break never comes back empty.
-/
import Marking.Proofs.DependencyGraph.BestEffort
import Marking.Proofs.Precedence.Forcing

set_option autoImplicit false

namespace Marking.DependencyGraph

open Precedence (Forced least)

variable {α : Type}

/-- The unit under the first key needs the second one, and some unit has it. -/
def Depends (us : List (WorkUnit α)) (k l : UnitKey) : Prop :=
  (∃ u ∈ firstUnits us, u.key = k ∧ l ∈ u.needs) ∧ ∃ v ∈ us, v.key = l

theorem requires_iff_depends {us : List (WorkUnit α)} {u v : WorkUnit α}
    (uMember : u ∈ firstUnits us) (vMember : v ∈ firstUnits us) :
    u.Requires v ↔ Depends us u.key v.key := by
  have known := mem_keys_firstUnits.1 (List.mem_map_of_mem (f := WorkUnit.key) vMember)
  constructor
  · exact fun requires => ⟨⟨u, uMember, rfl, requires⟩, known⟩
  · rintro ⟨⟨t, tMember, same, need⟩, -⟩
    rwa [(distinctKeys_firstUnits us).eq_of_key tMember uMember same] at need

/-- Keys of the graph depend on keys of the graph. -/
theorem Depends.known {us : List (WorkUnit α)} {k l : UnitKey} (depends : Depends us k l) :
    k ∈ (ofUnits us).keys ∧ l ∈ (ofUnits us).keys := by
  obtain ⟨⟨u, member, rfl, -⟩, known⟩ := depends
  exact ⟨List.mem_map_of_mem member, mem_keys_firstUnits.2 known⟩

/-- The best effort as an ordering of keys. -/
theorem sweeps_keys (us : List (WorkUnit α)) :
    Sweeps (Depends us) ((firstUnits us).map WorkUnit.key) [] []
      ((ofUnits us).bestEffort.order.map WorkUnit.key) (ofUnits us).bestEffort.forced := by
  obtain ⟨orderEq, forcedEq⟩ := bestEffort_eq_map us
  rw [orderEq, forcedEq]
  exact (sweeps_ofUnits us).map WorkUnit.key
    (fun u uMember v vMember => (distinctKeys_firstUnits us).eq_of_key uMember vMember)
    (fun u uMember v vMember => requires_iff_depends uMember vMember)
    (fun _ member => nomatch member)

/-- What the order and the forced keys of an effort say about the units. -/
structure Effort.IsSound (us : List (WorkUnit α)) (e : Effort α) : Prop where
  /-- The first unit of a key stands for it. -/
  first : ∀ u ∈ e.order, u ∈ firstUnits us
  /-- No key is ordered twice. -/
  once : (e.order.map WorkUnit.key).Nodup
  /-- Every key is ordered. -/
  complete : ∀ k, k ∈ e.order.map WorkUnit.key ↔ ∃ u ∈ us, u.key = k
  /-- Forced keys are listed in their order. -/
  sublist : e.forced.Sublist (e.order.map WorkUnit.key)
  /-- A key is forced exactly when it depends on something that is not before it. -/
  forced_iff : ∀ before k after, e.order.map WorkUnit.key = before ++ k :: after →
    (k ∈ e.forced ↔ ∃ l, Depends us k l ∧ l ∉ before)
  /-- A forced key depends on itself, directly or over others. -/
  cyclic : ∀ k ∈ e.forced, Relation.TransGen (Depends us) k k
  /-- Every cycle has a forced key. -/
  meets : ∀ k ks, List.IsChain (Depends us) (k :: (ks ++ [k])) → ∃ l ∈ k :: ks, l ∈ e.forced

theorem bestEffort_isSound (us : List (WorkUnit α)) : (ofUnits us).bestEffort.IsSound us := by
  obtain ⟨explained, all⟩ := (sweeps_keys us).explains explains_nil
  have known : ∀ k l, Depends us k l →
      k ∈ (ofUnits us).bestEffort.order.map WorkUnit.key ∧ l ∈ (ofUnits us).keys :=
    fun k _ depends => ⟨all k depends.known.1, depends.known.2⟩
  exact
    { first := fun u member => by
        obtain ⟨ordered, -⟩ := inside_passes us
        rw [(bestEffort_eq_map us).1] at member
        obtain ⟨i, inOrder, rfl⟩ := List.mem_map.1 member
        exact nodeAt_mem (mem_positions_ofUnits.2 (ordered i inOrder))
      once := explained.nodup
      complete := fun k => by
        rw [← mem_keys_firstUnits]
        exact ⟨explained.subset k, all k⟩
      sublist := explained.sublist
      forced_iff := fun before k after split => by
        rw [explained.forced_iff split]
        refine ⟨fun ⟨l, _, depends, missing⟩ => ⟨l, depends, missing⟩, ?_⟩
        rintro ⟨l, depends, missing⟩
        exact ⟨l, (known k l depends).2, depends, missing⟩
      cyclic := fun k isForced => explained.cyclic isForced
      meets := fun k ks cycle => explained.meets_cycle known cycle }

/-- **The best effort ends, orders every key once, and forces exactly what comes before one of
its dependencies**: members of cycles only, and one of every cycle at least.  Whenever it has to
force, it finds a component to break. -/
theorem bestEffort_forces_cycles (us : List (WorkUnit α)) :
    (ofUnits us).bestEffort.IsSound us ∧
      (∀ fuel, 2 * (ofUnits us).precedence.size ≤ fuel →
        (Precedence.Passes.start (ofUnits us).precedence).run (ofUnits us).precedence fuel =
          (ofUnits us).precedence.passes) ∧
      ∀ n, let p := (ofUnits us).precedence
        let s := (Precedence.Passes.start p).run p n
        s.IsStuck p →
          ∃ c, p.selfContained? (s.blocked p) = some c ∧ p.cycleBreaker (s.blocked p) = least c :=
  ⟨bestEffort_isSound us, (Precedence.passes_end _).2, fun n => Precedence.passes_break _ n⟩

end Marking.DependencyGraph
