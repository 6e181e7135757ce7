/-
# Marking.Proofs.Engine.Planning -- what a run knows before it works

Discovery visits the stations in turn (`Tour`), and at each it enlists delegates.  From a tour
everything about the delegates of a run can be read: serial numbers tell them apart, each knows
its station, and the units that were merged are theirs.  `Planned` is what planning leaves; the
stages after it start from there.
-/
import Marking.Proofs.DependencyGraph.Schedule
import Marking.Proofs.Discovery.Enlisting
import Marking.Proofs.Engine.Ledger
import Marking.Proofs.Engine.Recording
import Marking.Proofs.UnitTable.Fold

set_option autoImplicit false

namespace Marking

variable {σ : Type}

open Discovery (Enlists chosen)

/-- Discovery at the stations in turn, from the first position on. -/
inductive Tour : Nat → Discovery → List (Station σ) → List (List (Delegate σ)) →
    List (Station σ) → Prop
  | done {position : Nat} {d : Discovery} : Tour position d [] [] []
  | station {position : Nat} {d mid : Discovery} {s s' : Station σ} {ds : List (Delegate σ)}
      {ss ss' : List (Station σ)} {dss : List (List (Delegate σ))} :
      Enlists position d s ds mid s' →
      (∀ decls, d.scanner.Serves d.context.packages decls →
        mid.scanner.Serves d.context.packages decls ∧ ds.map Delegate.declaration =
          chosen d.context s.entry.marker s.entry.marker.kinds decls) →
      Tour (position + 1) mid ss dss ss' → Tour position d (s :: ss) (ds :: dss) (s' :: ss')

namespace Tour

variable {position : Nat} {d : Discovery} {ss ss' : List (Station σ)}
  {dss : List (List (Delegate σ))}

/-- Delegates are numbered on. -/
theorem serials (h : Tour position d ss dss ss') :
    dss.flatten.map Delegate.serial = List.range' d.made dss.flatten.length := by
  induction h with
  | done => rfl
  | station enlists _ _ ih =>
      rw [List.flatten_cons, List.map_append, ih, enlists.serials, enlists.made,
        List.length_append, List.range'_append_1]

theorem entries (h : Tour position d ss dss ss') :
    ∀ (i : Nat) (q : List (Delegate σ)), dss[i]? = some q → ∀ x ∈ q, x.entry = position + i := by
  induction h with
  | done => exact fun i q found => nomatch found
  | station enlists _ _ ih =>
      intro i q found x member
      cases i with
      | zero =>
          cases found
          exact enlists.entries x member
      | succ i =>
          have := ih i q found x member
          omega

theorem markers (h : Tour position d ss dss ss') :
    ss'.map (fun s => s.entry.marker) = ss.map fun s => s.entry.marker := by
  induction h with
  | done => rfl
  | station enlists _ _ ih => rw [List.map_cons, List.map_cons, enlists.marker, ih]

theorem owned (h : Tour position d ss dss ss') : ∀ x ∈ dss.flatten, x.Owned := by
  induction h with
  | done => exact fun x member => nomatch member
  | station enlists _ _ ih =>
      intro x member
      rw [List.flatten_cons] at member
      exact (List.mem_append.1 member).elim (enlists.owned x) (ih x)

/-- Entries that have done nothing have done nothing afterwards. -/
theorem isNew (h : Tour position d ss dss ss') (isNew : ∀ s ∈ ss, s.entry.IsNew) :
    ∀ s ∈ ss', s.entry.IsNew := by
  induction h with
  | done => exact fun s member => nomatch member
  | station enlists _ _ ih =>
      intro t member
      rcases List.mem_cons.1 member with rfl | later
      · rw [enlists.station]
        exact (isNew _ List.mem_cons_self).addAll _
      · exact ih (fun s inRest => isNew s (List.mem_cons_of_mem _ inRest)) t later

/-- Stations that begin empty end with their delegates. -/
theorem queues (h : Tour position d ss dss ss') (empty : ∀ s ∈ ss, s.entry.queue = []) :
    ss'.map (fun s => s.entry.queue) = dss := by
  induction h with
  | done => rfl
  | station enlists _ _ ih =>
      rw [List.map_cons, ih fun s inRest => empty s (List.mem_cons_of_mem _ inRest),
        enlists.station, Entry.queue_addAll, empty _ List.mem_cons_self, List.nil_append]

/-- A scanner that serves a list has the delegates of every station chosen from it. -/
theorem declarations (h : Tour position d ss dss ss') (empty : ∀ s ∈ ss, s.entry.queue = [])
    {decls : List Declaration} (serves : d.scanner.Serves d.context.packages decls) :
    ∀ s ∈ ss', s.entry.queue.map Delegate.declaration =
      chosen d.context s.entry.marker s.entry.marker.kinds decls := by
  induction h with
  | done => exact fun s member => nomatch member
  | station enlists scanned _ ih =>
      obtain ⟨goesOn, isChosen⟩ := scanned decls serves
      intro t member
      rcases List.mem_cons.1 member with rfl | later
      · rw [enlists.marker, ← isChosen, enlists.station, Entry.queue_addAll,
          empty _ List.mem_cons_self, List.nil_append]
      · rw [← enlists.context] at goesOn ⊢
        exact ih (fun s inRest => empty s (List.mem_cons_of_mem _ inRest)) goesOn t later

theorem homes (h : Tour 0 d ss dss ss') : Engine.Homes dss where
  nodup := by
    rw [h.serials]
    exact List.nodup_range'
  home i q found x member := (h.entries i q found x member).trans (Nat.zero_add i)

end Tour

namespace Engine

variable {e e' : Engine σ} {w w' : World σ}

theorem take_set_succ {α : Type} {xs : List α} {i : Nat} (inside : i < xs.length) (a : α) :
    (xs.set i a).take (i + 1) = xs.take i ++ [a] := by
  rw [List.set_eq_take_append_cons_drop, if_pos inside]
  have length : (xs.take i).length = i := List.length_take_of_le inside.le
  rw [List.take_append, length, Nat.add_sub_cancel_left, List.take_of_length_le (by omega)]
  rfl

/-- Discovery at the stations is a tour, and the units of its delegates are merged. -/
theorem discoverFrom_spec {d d' : Discovery} {position : Nat} {ss : List (Station σ)}
    (remaining : e.stations.drop position = ss)
    (ok : discoverFrom e d position ss w = (.ok (), d', e', w')) :
    ∃ dss ss', Tour position d ss dss ss' ∧ e' = { e with
      stations := e.stations.take position ++ ss'
      units := (e.units.addAll (dss.flatten.map Delegate.unit)).1 } := by
  induction ss generalizing e d position w with
  | nil =>
      have whole : e.stations.take position = e.stations :=
        List.take_of_length_le (List.drop_eq_nil_iff.1 remaining)
      cases ok
      refine ⟨[], [], .done, ?_⟩
      rw [whole, List.append_nil]
      rfl
  | cons s ss ih =>
      have inside : position < e.stations.length := by
        by_contra outside
        rw [List.drop_of_length_le (Nat.le_of_not_lt outside)] at remaining
        cases remaining
      have tail : e.stations.drop (position + 1) = ss := by
        rw [← List.tail_drop, remaining]
        rfl
      rw [discoverFrom] at ok
      cases found : d.discover position s w with
      | mk result rest =>
          obtain ⟨mid, t, next⟩ := rest
          simp only [found] at ok
          cases result with
          | error f => cases ok
          | ok units =>
              obtain ⟨ds, rfl, enlists, served⟩ := Discovery.discover_spec found
              obtain ⟨dss, ss', tour, rfl⟩ := ih (by
                show (e.stations.set position t).drop (position + 1) = ss
                rw [List.drop_set_of_lt (Nat.lt_succ_self position), tail]) ok
              refine ⟨ds :: dss, t :: ss', .station enlists served tour, ?_⟩
              dsimp only
              rw [take_set_succ inside, List.append_assoc, List.singleton_append,
                List.flatten_cons, List.map_append, UnitTable.addAll_append]

theorem registrationsOf_markers {registry : Registry σ} {ts : List MarkerType}
    {rs : List (Registry.Registration σ)} (ok : registry.registrationsOf ts = .ok rs) :
    rs.map Registry.Registration.marker = ts := by
  induction ts generalizing rs with
  | nil =>
      cases ok
      rfl
  | cons t ts ih =>
      rw [Registry.registrationsOf] at ok
      split at ok
      · cases others : registry.registrationsOf ts with
        | error f =>
            rw [others] at ok
            cases ok
        | ok rest =>
            rw [others] at ok
            cases ok
            rw [List.map_cons, ih others]
      · cases ok

/-- Preparation sets up an empty station for every marker type that the registry lists. -/
theorem prepare_spec (ok : e.prepare w = (.ok (), e', w')) :
    ∃ rs : List (Registry.Registration σ),
      e.registry.markerTypes.1 = .ok (rs.map Registry.Registration.marker) ∧
      e'.stations = rs.map Station.ofRegistration ∧ e'.units = e.units ∧
      e'.settings = e.settings := by
  unfold prepare Registry.registrations at ok
  cases listed : e.registry.markerTypes with
  | mk result rest =>
      obtain ⟨registry, notes⟩ := rest
      simp only [listed] at ok
      cases result with
      | error f => cases ok
      | ok ts =>
          dsimp only at ok
          cases registered : registry.registrationsOf ts with
          | error f =>
              rw [registered] at ok
              cases ok
          | ok rs =>
              rw [registered] at ok
              cases ok
              refine ⟨rs, ?_, rfl, rfl, rfl⟩
              rw [registrationsOf_markers registered]

theorem arrange_spec {plan : Plan σ} {structural : List StructuralFault}
    (ok : e.arrange structural w = (plan, e', w')) :
    plan.schedule =
        (Schedule.ofGraph e.settings.strictOrder (DependencyGraph.ofUnits e.units.units)).1 ∧
      e'.stations = e.stations ∧ e'.units = e.units ∧ e'.settings = e.settings := by
  cases ok
  exact ⟨rfl, rfl, rfl, rfl⟩

end Engine

/-- What planning leaves of a run. -/
structure Planned (r : Run σ) (plan : Plan σ) (e : Engine σ) : Prop where
  queues : e.stations.map (fun s => s.entry.queue) = r.queues
  homes : Engine.Homes r.queues
  ledger : Engine.Ledger r.queues [] e
  owned : ∀ x ∈ r.discovered, x.Owned
  isNew : ∀ s ∈ e.stations, s.entry.IsNew
  markers : r.engine.registry.markerTypes.1 = .ok (e.stations.map fun s => s.entry.marker)
  policy : e.units.policy = r.engine.settings.mergePolicy
  units : e.units.Folds (r.discovered.map Delegate.unit)
  schedule : plan.schedule =
    (Schedule.ofGraph r.engine.settings.strictOrder (DependencyGraph.ofUnits e.units.units)).1
  settings : e.settings = r.engine.settings
  declarations : ∀ decls, r.scanner.Serves r.context.packages decls → ∀ s ∈ e.stations,
    s.entry.queue.map Delegate.declaration =
      chosen r.context s.entry.marker s.entry.marker.kinds decls

/-- The stations of registrations have done nothing. -/
theorem Station.ofRegistration_entry {rs : List (Registry.Registration σ)} {s : Station σ}
    (member : s ∈ rs.map Station.ofRegistration) :
    s.entry.queue = [] ∧ s.entry.IsNew := by
  obtain ⟨registration, -, rfl⟩ := List.mem_map.1 member
  exact ⟨rfl, rfl⟩

/-- Stations that have done nothing begin a ledger. -/
theorem Engine.Ledger.begin {queues : List (List (Delegate σ))} {e : Engine σ}
    (same : e.stations.map (fun s => s.entry.queue) = queues)
    (isNew : ∀ s ∈ e.stations, s.entry.IsNew) : Ledger queues [] e where
  length := by
    rw [← same, List.length_map]
  tallied i s q there found := by
    rw [← same, List.getElem?_map, there] at found
    cases found
    refine ⟨?_, ?_⟩
    · exact (List.filter_eq_self.2 fun d _ => rfl).symm
    · have idle : s.entry.succeeded = 0 := congrArg Entry.succeeded (isNew s (List.mem_of_getElem? there))
      rw [idle]
      exact (List.countP_eq_zero.2 fun d _ => Bool.false_ne_true).symm

/-- What a tour from empty stations leaves is planned. -/
theorem Run.planned_of_tour (r : Run σ) {plan : Plan σ} {e : Engine σ}
    {rs : List (Registry.Registration σ)} {dss : List (List (Delegate σ))} {ss : List (Station σ)}
    (tour : Tour 0 { scanner := r.scanner, context := r.context } (rs.map Station.ofRegistration)
      dss ss)
    (stations : e.stations = ss)
    (listed : r.engine.registry.markerTypes.1 = .ok (rs.map Registry.Registration.marker))
    (units : e.units = (({ policy := r.engine.settings.mergePolicy } :
      UnitTable (Delegate σ)).addAll (dss.flatten.map Delegate.unit)).1)
    (settings : e.settings = r.engine.settings)
    (schedule : plan.schedule = (Schedule.ofGraph r.engine.settings.strictOrder
      (DependencyGraph.ofUnits e.units.units)).1)
    (queues : e.stations.map (fun s => s.entry.queue) = r.queues) : Planned r plan e := by
  have empty : ∀ s ∈ rs.map Station.ofRegistration, s.entry.queue = [] :=
    fun s member => (Station.ofRegistration_entry member).1
  have isNew : ∀ s ∈ e.stations, s.entry.IsNew :=
    stations ▸ tour.isNew fun s member => (Station.ofRegistration_entry member).2
  have same : dss = r.queues := by
    rw [← queues, stations, tour.queues empty]
  rw [same] at tour units
  refine
    { queues, homes := tour.homes, ledger := Engine.Ledger.begin queues isNew, owned := tour.owned
      isNew, markers := ?_, policy := ?_, units := ?_, schedule, settings, declarations := ?_ }
  · rw [stations, tour.markers, List.map_map]
    exact listed
  · rw [units, UnitTable.policy_addAll]
  · rw [units]
    exact (UnitTable.folds_empty _).addAll _
  · intro decls serves s member
    exact tour.declarations empty serves s (stations ▸ member)

/-- **Planning enlists delegates, merges their units and orders the graph of them.** -/
theorem Run.planned_spec {r : Run σ} {plan : Plan σ} {e : Engine σ} {w : World σ}
    (ok : r.planned = (.ok plan, e, w)) : Planned r plan e := by
  have queues : e.stations.map (fun s => s.entry.queue) = r.queues := by
    rw [Run.queues, ok]
  unfold Run.planned Engine.planStages at ok
  cases prepared : Engine.prepare { r.engine.cleared with running := true } r.world with
  | mk result rest =>
      obtain ⟨e₁, w₁⟩ := rest
      simp only [prepared] at ok
      cases result with
      | error f => cases ok
      | ok _ =>
          obtain ⟨rs, listed, stations, empty, settings⟩ := Engine.prepare_spec prepared
          dsimp only at ok
          cases found : Engine.discoverFrom e₁ { scanner := r.scanner, context := r.context } 0
              e₁.stations w₁ with
          | mk result rest =>
              obtain ⟨d, e₂, w₂⟩ := rest
              simp only [found] at ok
              cases result with
              | error f => cases ok
              | ok _ =>
                  obtain ⟨dss, ss, tour, merged⟩ := Engine.discoverFrom_spec List.drop_zero found
                  rw [stations] at tour
                  dsimp only at ok
                  cases arranged : e₂.arrange d.structural w₂ with
                  | mk plan' rest =>
                      obtain ⟨e₃, w₃⟩ := rest
                      simp only [arranged] at ok
                      cases ok
                      obtain ⟨schedule, stations₃, units₃, settings₃⟩ := Engine.arrange_spec arranged
                      refine r.planned_of_tour tour ?_ listed ?_ ?_ ?_ queues
                      · rw [stations₃, merged]
                        rfl
                      · rw [units₃, merged, empty]
                        rfl
                      · rw [settings₃, merged]
                        exact settings
                      · rw [units₃, schedule, merged]
                        exact congrArg (fun x => (Schedule.ofGraph x.strictOrder _).1) settings

end Marking
