/-
# Marking.Proofs.DependencyGraph.Likeness -- units of like work are ordered alike

A graph is ordered by the keys and the needs of its units alone.  Graphs whose units differ in
nothing but their items, and there only by like ones, have one and the same precedence; so their
schedules name the same keys everywhere, and hold units that are alike again, place by place.
-/
import Marking.Proofs.DependencyGraph.Nodes
import Marking.Proofs.UnitTable.Likeness

set_option autoImplicit false

namespace Marking

variable {α β : Type} {D : α → β → Prop}

/-- The schedules differ in nothing but the items of their units. -/
structure Schedule.Alike (D : α → β → Prop) (s : Schedule α) (s' : Schedule β) : Prop where
  order : List.Forall₂ (WorkUnit.Alike D) s.order s'.order
  cycles : s.cycles = s'.cycles
  forced : s.forced = s'.forced
  strict : s.strict = s'.strict

theorem keys_alike {us : List (WorkUnit α)} {vs : List (WorkUnit β)}
    (like : List.Forall₂ (WorkUnit.Alike D) us vs) :
    us.map WorkUnit.key = vs.map WorkUnit.key := by
  induction like with
  | nil => rfl
  | cons first _ ih => rw [List.map_cons, List.map_cons, first.key, ih]

/-- The items of like units are alike, one after the other. -/
theorem items_alike {us : List (WorkUnit α)} {vs : List (WorkUnit β)}
    (like : List.Forall₂ (WorkUnit.Alike D) us vs) :
    List.Forall₂ D (us.flatMap WorkUnit.items) (vs.flatMap WorkUnit.items) := by
  induction like with
  | nil => exact .nil
  | cons first _ ih =>
      rw [List.flatMap_cons, List.flatMap_cons]
      exact List.rel_append first.items ih

namespace DependencyGraph

/-- The graphs have the same precedence, on like units. -/
structure Alike (D : α → β → Prop) (g : DependencyGraph α) (g' : DependencyGraph β) : Prop where
  units : List.Forall₂ (WorkUnit.Alike D) g.units g'.units
  precedence : g.precedence = g'.precedence

theorem any_key_alike {us : List (WorkUnit α)} {vs : List (WorkUnit β)}
    (like : List.Forall₂ (WorkUnit.Alike D) us vs) (k : UnitKey) :
    us.any (fun u => u.key = k) = vs.any fun v => v.key = k := by
  induction like with
  | nil => rfl
  | cons first _ ih => rw [List.any_cons, List.any_cons, first.key, ih]

theorem keepFirst_alike {kept : List (WorkUnit α)} {kept' : List (WorkUnit β)} {u : WorkUnit α}
    {v : WorkUnit β} (like : List.Forall₂ (WorkUnit.Alike D) kept kept') (new : WorkUnit.Alike D u v) :
    List.Forall₂ (WorkUnit.Alike D) (keepFirst kept u) (keepFirst kept' v) := by
  rw [keepFirst, keepFirst, any_key_alike like, new.key]
  split
  · exact like
  · exact List.rel_append like (.cons new .nil)

theorem firstUnits_alike {us : List (WorkUnit α)} {vs : List (WorkUnit β)}
    (like : List.Forall₂ (WorkUnit.Alike D) us vs) :
    List.Forall₂ (WorkUnit.Alike D) (firstUnits us) (firstUnits vs) := by
  have fold : ∀ {kept : List (WorkUnit α)} {kept' : List (WorkUnit β)},
      List.Forall₂ (WorkUnit.Alike D) kept kept' →
      List.Forall₂ (WorkUnit.Alike D) (us.foldl keepFirst kept) (vs.foldl keepFirst kept') := by
    induction like with
    | nil => exact fun keptLike => keptLike
    | cons first _ ih => exact fun keptLike => ih (keepFirst_alike keptLike first)
  exact fold .nil

theorem getElem?_alike {us : List (WorkUnit α)} {vs : List (WorkUnit β)}
    (like : List.Forall₂ (WorkUnit.Alike D) us vs) (i : Nat) :
    Option.Rel (WorkUnit.Alike D) us.toArray[i]? vs.toArray[i]? := by
  rw [List.getElem?_toArray, List.getElem?_toArray]
  induction like generalizing i with
  | nil => exact .none
  | cons first _ ih =>
      cases i with
      | zero => exact .some first
      | succ i => exact ih i

theorem ofUnits_alike {us : List (WorkUnit α)} {vs : List (WorkUnit β)}
    (like : List.Forall₂ (WorkUnit.Alike D) us vs) : Alike D (ofUnits us) (ofUnits vs) := by
  have first := firstUnits_alike like
  refine ⟨first, ?_⟩
  rw [ofUnits, ofUnits]
  dsimp only
  rw [first.length_eq]
  refine congrArg (Precedence.ofRelation _) (funext fun i => funext fun j => ?_)
  have atI := getElem?_alike first i
  have atJ := getElem?_alike first j
  generalize (firstUnits us).toArray[i]? = u? at atI ⊢
  generalize (firstUnits vs).toArray[i]? = v? at atI ⊢
  cases atI with
  | none => rfl
  | some likeI =>
      generalize (firstUnits us).toArray[j]? = u? at atJ ⊢
      generalize (firstUnits vs).toArray[j]? = v? at atJ ⊢
      cases atJ with
      | none => rfl
      | some likeJ =>
          dsimp only
          rw [likeI.needs, likeJ.key]

variable {g : DependencyGraph α} {g' : DependencyGraph β}

theorem unitsAt_alike (h : Alike D g g') (ps : List Nat) :
    List.Forall₂ (WorkUnit.Alike D) (g.unitsAt ps) (g'.unitsAt ps) := by
  rw [unitsAt, unitsAt]
  induction ps with
  | nil => exact .nil
  | cons i ps ih =>
      have here := getElem?_alike h.units i
      rw [List.filterMap_cons, List.filterMap_cons]
      generalize g.units.toArray[i]? = u? at here ⊢
      generalize g'.units.toArray[i]? = v? at here ⊢
      cases here with
      | none => exact ih
      | some like => exact .cons like ih

theorem keysAt_alike (h : Alike D g g') (ps : List Nat) : g.keysAt ps = g'.keysAt ps :=
  keys_alike (unitsAt_alike h ps)

theorem contains_alike (h : Alike D g g') (k : UnitKey) : g.contains k = g'.contains k := by
  have same : ∀ {us : List (WorkUnit α)} {vs : List (WorkUnit β)},
      List.Forall₂ (WorkUnit.Alike D) us vs →
      us.findIdx? (fun u => u.key = k) = vs.findIdx? fun v => v.key = k := by
    intro us vs like
    induction like with
    | nil => rfl
    | cons first _ ih => rw [List.findIdx?_cons, List.findIdx?_cons, first.key, ih]
  rw [contains, contains, position?, position?, same h.units]

theorem missing_alike (h : Alike D g g') : g.missing = g'.missing := by
  have each : ∀ {us : List (WorkUnit α)} {vs : List (WorkUnit β)},
      List.Forall₂ (WorkUnit.Alike D) us vs →
      us.map (fun u => (u.key, g.missingOf u)) = vs.map fun v => (v.key, g'.missingOf v) := by
    intro us vs like
    induction like with
    | nil => rfl
    | @cons u v us vs first _ ih =>
        have same : g.missingOf u = g'.missingOf v := by
          rw [missingOf, missingOf, first.needs]
          exact List.filter_congr fun k _ => by rw [contains_alike h]
        rw [List.map_cons, List.map_cons, first.key, same, ih]
  rw [missing, missing, each h.units]

theorem cycles_alike (h : Alike D g g') : g.cycles = g'.cycles := by
  rw [cycles, cycles, h.precedence]
  exact List.map_congr_left fun ps _ => keysAt_alike h ps

theorem notes_alike (h : Alike D g g') : g.bestEffort.notes = g'.bestEffort.notes := by
  rw [bestEffort, bestEffort, h.precedence]
  refine List.map_congr_left fun f _ => ?_
  rw [forcedNote, forcedNote, keysAt_alike h, keysAt_alike h]

theorem forced_alike (h : Alike D g g') : g.bestEffort.forced = g'.bestEffort.forced := by
  rw [bestEffort, bestEffort, h.precedence]
  exact keysAt_alike h _

theorem order_alike (h : Alike D g g') :
    List.Forall₂ (WorkUnit.Alike D) g.bestEffort.order g'.bestEffort.order := by
  rw [bestEffort, bestEffort, h.precedence]
  exact unitsAt_alike h _

/-- **Like graphs are ordered alike**, and the same is noted. -/
theorem ofGraph_alike (strict : Bool) (h : Alike D g g') :
    Schedule.Alike D (Schedule.ofGraph strict g).1 (Schedule.ofGraph strict g').1 ∧
      (Schedule.ofGraph strict g).2 = (Schedule.ofGraph strict g').2 := by
  have effort : Schedule.Alike D (Schedule.ofEffort g).1 (Schedule.ofEffort g').1 := by
    refine ⟨order_alike h, ?_, forced_alike h, ?_⟩
    · show (if g.bestEffort.forced.isEmpty then [] else g.cycles) =
        if g'.bestEffort.forced.isEmpty then [] else g'.cycles
      rw [forced_alike h, cycles_alike h]
    · show g.bestEffort.forced.isEmpty = g'.bestEffort.forced.isEmpty
      rw [forced_alike h]
  cases strict with
  | false => exact ⟨effort, notes_alike h⟩
  | true =>
      rw [Schedule.ofGraph, Schedule.ofGraph, if_pos rfl, if_pos rfl, topological, topological,
        h.precedence]
      cases g'.precedence.leastOrder? with
      | some ps => exact ⟨⟨unitsAt_alike h ps, rfl, rfl, rfl⟩, rfl⟩
      | none =>
          refine ⟨⟨order_alike h, cycles_alike h, forced_alike h, rfl⟩, ?_⟩
          dsimp only
          rw [cycles_alike h, notes_alike h]

end DependencyGraph

end Marking
