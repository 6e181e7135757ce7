/-
# Marking.Proofs.Engine.Order -- what is required is called first

The order of a run is decided far from its calls: a dependency is named by a check, carried by
the unit of a delegate into the merged unit under its key, made an edge of the graph, and kept
by whichever ordering is used; only then are items called.  `CalledBefore` is the claim at the
far end, and `Run.Returns.required_first` carries a dependency all the way to it.

Two things may cancel a dependency, and the theorem names both: its unit may be forced out of a
cycle, and under `firstWins` a later delegate of a known unit brings no needs of its own.
-/
import Marking.Proofs.Engine.Running

set_option autoImplicit false

namespace Marking

variable {σ : Type}

def CalledBefore (cs : List (HandlerCall σ)) (y x : Delegate σ) : Prop :=
  ∃ before c after, cs = before ++ c :: after ∧ c.delegate = x ∧
    (∀ c' ∈ before, c'.delegate ≠ x) ∧ ∃ c' ∈ before, c'.delegate = y

/-- The delegate was the first to be discovered for its unit key. -/
def Run.Leads (r : Run σ) (x : Delegate σ) : Prop :=
  r.discovered.find? (fun z => z.unitKey = x.unitKey) = some x

/-- The delegate brings its needs into the unit under its key. -/
def Run.Brings (r : Run σ) (x : Delegate σ) : Prop :=
  r.engine.settings.mergePolicy = .union ∨ r.Leads x

namespace Planned

variable {r : Run σ} {plan : Plan σ} {e : Engine σ}

/-- Every delegate is an item of the merged unit under its key. -/
theorem unit_of (h : Planned r plan e) {x : Delegate σ} (member : x ∈ r.discovered) :
    ∃ u ∈ e.units.units, u.key = x.unitKey ∧ x ∈ u.items := by
  have added : x.unit ∈ r.discovered.map Delegate.unit := List.mem_map_of_mem member
  have known : x.unitKey ∈ e.units.keys := h.units.mem_keys.2 (List.mem_map_of_mem added)
  obtain ⟨u, inTable, key⟩ := List.mem_map.1 known
  refine ⟨u, inTable, key, ?_⟩
  rw [(h.units.merges u inTable).items, List.mem_flatMap]
  exact ⟨x.unit, mem_unitsUnder.2 ⟨added, key.symm⟩, List.mem_singleton.2 rfl⟩

/-- The merged unit needs what a delegate brings. -/
theorem needs_of_brings (h : Planned r plan e) {x : Delegate σ} (member : x ∈ r.discovered)
    (brings : r.Brings x) {u : WorkUnit (Delegate σ)} (inTable : u ∈ e.units.units)
    (key : u.key = x.unitKey) {k : UnitKey} (need : k ∈ x.needs.getD []) : k ∈ u.needs := by
  have merges := h.units.merges u inTable
  have added : x.unit ∈ r.discovered.map Delegate.unit := List.mem_map_of_mem member
  have under : x.unit ∈ unitsUnder u.key (r.discovered.map Delegate.unit) :=
    mem_unitsUnder.2 ⟨added, key.symm⟩
  cases policy : e.units.policy with
  | union => exact ((merges.union policy).1 k).2 ⟨x.unit, under, need⟩
  | firstWins =>
      obtain ⟨first, head, needs, -⟩ := merges.firstWins policy
      have leads : r.Leads x := by
        rcases brings with union | leads
        · rw [← h.policy, policy] at union
          cases union
        · exact leads
      have isFirst : first = x.unit := by
        rw [unitsUnder, List.head?_filter, List.find?_map, key] at head
        rw [Run.Leads] at leads
        have same : ((fun u : WorkUnit (Delegate σ) => decide (u.key = x.unitKey)) ∘ Delegate.unit) =
            fun z => decide (z.unitKey = x.unitKey) := rfl
        rw [same, leads] at head
        exact (Option.some.inj head).symm
      rw [needs, isFirst]
      exact need

end Planned

/-- **What a delegate requires is called before it**, unless its unit was forced. -/
theorem Run.Returns.required_first {r : Run σ} {report : Report} (returns : r.Returns report)
    {x y : Delegate σ} (xFound : x ∈ r.discovered) (yFound : y ∈ r.discovered)
    (requires : y.unitKey ∈ x.needs.getD []) (free : x.unitKey ∉ report.forced)
    (brings : r.Brings x) : CalledBefore r.calls y x := by
  obtain ⟨plan, e, e', first, later, n, h⟩ := returns.performed
  obtain ⟨u, uTable, uKey, xItem⟩ := h.planned.unit_of xFound
  obtain ⟨v, vTable, vKey, yItem⟩ := h.planned.unit_of yFound
  obtain ⟨forced, keys, explained, all⟩ := h.planned.explains
  have edge : u.Requires v := by
    rw [WorkUnit.Requires, vKey]
    exact h.planned.needs_of_brings xFound brings uTable uKey requires
  -- The unit of `y` stands before that of `x` in the order.
  obtain ⟨before, after, order⟩ := List.append_of_mem (all u uTable)
  have ready : v ∈ before := by
    rcases explained.placed before u after order with ⟨-, ready⟩ | ⟨isForced, -⟩
    · exact ready v vTable edge
    · refine absurd ?_ free
      rw [h.report_eq, ← uKey]
      show u.key ∈ plan.schedule.forced
      rw [← keys]
      exact List.mem_map_of_mem isForced
  -- So does `y` among the calls of the ordered pass.
  obtain ⟨left, right, items⟩ := List.append_of_mem xItem
  have works : first.map HandlerCall.delegate =
      (before.flatMap WorkUnit.items ++ left) ++ x :: (right ++ after.flatMap WorkUnit.items) := by
    rw [h.works, order, List.flatMap_append, List.flatMap_cons, items]
    simp only [List.append_assoc, List.cons_append]
  have nodup : (first.map HandlerCall.delegate).Nodup :=
    h.works_perm.nodup_iff.2 h.planned.discovered_nodup
  obtain ⟨early, rest, split, isEarly, isRest⟩ := List.map_eq_append_iff.1 works
  obtain ⟨c, late, rfl, isX, -⟩ := List.map_eq_cons_iff.1 isRest
  refine ⟨early, c, late ++ later, ?_, isX, fun c' member same => ?_, ?_⟩
  · rw [h.calls, split, List.append_assoc, List.cons_append]
  · rw [works, ← isEarly, List.nodup_append] at nodup
    exact nodup.2.2 x (same ▸ List.mem_map_of_mem member) x List.mem_cons_self rfl
  · have inEarly : y ∈ early.map HandlerCall.delegate := by
      rw [isEarly]
      exact List.mem_append_left _ (List.mem_flatMap.2 ⟨v, ready, yItem⟩)
    obtain ⟨c', member, isY⟩ := List.mem_map.1 inEarly
    exact ⟨c', member, isY⟩

/-- A handler that asks for the base is called for it first. -/
theorem Sample.base_called_first :
    ∃ top ∈ (Sample.run true).discovered, ∃ base ∈ (Sample.run true).discovered,
      base.unitKey ∈ top.needs.getD [] ∧ CalledBefore (Sample.run true).calls base top := by
  let top := (Sample.run true).discovered.get ⟨0, by decide +kernel⟩
  let base := (Sample.run true).discovered.get ⟨1, by decide +kernel⟩
  have topFound : top ∈ (Sample.run true).discovered := List.get_mem _ _
  have baseFound : base ∈ (Sample.run true).discovered := List.get_mem _ _
  have requires : base.unitKey ∈ top.needs.getD [] := by decide +kernel
  have calm : (Sample.run true).passes (fun report => report.forced.isEmpty) = true := by
    decide +kernel
  obtain ⟨report, returns, none⟩ := Run.returns_of_passes calm
  have free : top.unitKey ∉ report.forced := by
    rw [List.isEmpty_iff.1 none]
    exact List.not_mem_nil
  exact ⟨top, topFound, base, baseFound, requires,
    returns.required_first topFound baseFound requires free (.inl rfl)⟩

end Marking
