/-
# Marking.Proofs.Engine.Running -- a run that returns, from its plan to its report

`Performed` puts the pieces of a run that returns together: it was planned; its first calls
are those of the planned work, in order; the others are those of the rounds; and the report is
made from the engine at the end.  The planned work is the discovered work in another order
(`Performed.works_perm`), so the ledger that planning begins is kept to the end
(`Performed.ledger`), and no call is on work that succeeded before.
-/
import Marking.Proofs.Engine.Planning

set_option autoImplicit false

namespace Marking

open Entry (isDone Fresh)

variable {σ : Type}

/-! ## Units and their items -/

/-- A list falls into the parts under the keys. -/
theorem flatMap_unitsUnder_perm {α : Type} {ks : List UnitKey} (nodup : ks.Nodup)
    {us : List (WorkUnit α)} (known : ∀ u ∈ us, u.key ∈ ks) :
    (ks.flatMap fun k => unitsUnder k us).Perm us := by
  induction ks generalizing us with
  | nil =>
      have none : us = [] := List.eq_nil_iff_forall_not_mem.2 fun u member => nomatch known u member
      rw [none]
      exact List.Perm.refl _
  | cons k ks ih =>
      obtain ⟨fresh, rest⟩ := List.nodup_cons.1 nodup
      rw [List.flatMap_cons]
      let others := us.filter fun u => !decide (u.key = k)
      have parts : (unitsUnder k us ++ others).Perm us := List.filter_append_perm _ us
      have same : (ks.flatMap fun l => unitsUnder l us) = ks.flatMap fun l => unitsUnder l others := by
        refine List.flatMap_congr fun l member => ?_
        have differ : l ≠ k := fun eq => fresh (eq ▸ member)
        rw [unitsUnder, unitsUnder, List.filter_filter]
        refine List.filter_congr fun u _ => ?_
        by_cases here : u.key = l
        · simp [here, differ]
        · simp [here]
      rw [same]
      refine (List.Perm.append_left _ (ih rest fun u member => ?_)).trans parts
      obtain ⟨inList, other⟩ := List.mem_filter.1 member
      have differ : u.key ≠ k := by simpa using other
      exact (List.mem_cons.1 (known u inList)).resolve_left differ

/-- The items of a table are those of everything that was added. -/
theorem UnitTable.Folds.items_perm {α : Type} {t : UnitTable α} {added : List (WorkUnit α)}
    (h : t.Folds added) :
    (t.units.flatMap WorkUnit.items).Perm (added.flatMap WorkUnit.items) := by
  have byKey : t.units.flatMap WorkUnit.items =
      (t.keys.flatMap fun k => unitsUnder k added).flatMap WorkUnit.items := by
    rw [List.flatMap_assoc, UnitTable.keys, List.flatMap_map]
    exact List.flatMap_congr fun u member => (h.merges u member).items
  rw [byKey]
  have nodup : t.keys.Nodup := h.distinctKeys
  exact (flatMap_unitsUnder_perm nodup fun u member =>
    h.mem_keys.2 (List.mem_map_of_mem member)).flatMap_right _

theorem flatMap_items_unit (ds : List (Delegate σ)) :
    (ds.map Delegate.unit).flatMap WorkUnit.items = ds := by
  rw [List.flatMap_map]
  exact List.flatMap_singleton' ds

/-! ## The planned work -/

namespace Planned

variable {r : Run σ} {plan : Plan σ} {e : Engine σ}

theorem discovered_nodup (h : Planned r plan e) : r.discovered.Nodup :=
  List.Nodup.of_map _ h.homes.nodup

/-- The scheduled units are those of the table, each that is not forced after what it
requires. -/
theorem explains (h : Planned r plan e) :
    ∃ forced : List (WorkUnit (Delegate σ)), forced.map WorkUnit.key = plan.schedule.forced ∧
      Explains WorkUnit.Requires e.units.units plan.schedule.order forced ∧
      ∀ u ∈ e.units.units, u ∈ plan.schedule.order := by
  have nodes := DependencyGraph.firstUnits_of_distinct h.units.distinctKeys
  have spec := Schedule.ofGraph_explains r.engine.settings.strictOrder e.units.units
  rw [nodes] at spec
  rw [h.schedule]
  exact spec

theorem order_perm (h : Planned r plan e) : plan.schedule.order.Perm e.units.units := by
  obtain ⟨forced, -, explained, all⟩ := h.explains
  exact (List.perm_ext_iff_of_nodup explained.nodup h.units.distinctKeys.nodup).2 fun u =>
    ⟨explained.subset u, all u⟩

/-- The planned work is the discovered work. -/
theorem works_perm (h : Planned r plan e) :
    (plan.schedule.order.flatMap WorkUnit.items).Perm r.discovered := by
  have items := (h.order_perm.flatMap_right WorkUnit.items).trans h.units.items_perm
  rwa [flatMap_items_unit] at items

/-- Calls of the planned work keep the ledger, and none is on work that is done. -/
theorem ledger_first (h : Planned r plan e) {first : List (HandlerCall σ)}
    (works : first.map HandlerCall.delegate = plan.schedule.order.flatMap WorkUnit.items) :
    Engine.Ledger r.queues (first.map HandlerCall.toCall)
        (e.settleAll (first.map HandlerCall.toCall)) ∧
      Fresh [] (first.map HandlerCall.toCall) := by
  have perm : (first.map HandlerCall.delegate).Perm r.discovered := works ▸ h.works_perm
  have serials : ((first.map HandlerCall.toCall).map fun c => c.work.serial) =
      (first.map HandlerCall.delegate).map Delegate.serial := by
    rw [List.map_map, List.map_map]
    rfl
  refine h.ledger.settleAll h.homes ?_ fun c member => ?_
  · rw [serials]
    exact ((perm.map _).nodup_iff).2 h.homes.nodup
  · obtain ⟨call, isFirst, rfl⟩ := List.mem_map.1 member
    refine Engine.mem_left.2 ⟨perm.mem_iff.1 ?_, rfl⟩
    exact List.mem_map.2 ⟨call, isFirst, rfl⟩

end Planned

/-! ## The run -/

/-- A run that returns the report: what was planned, the calls of the ordered pass and of the
rounds, and the engine at the end. -/
structure Performed (r : Run σ) (report : Report) (plan : Plan σ) (e e' : Engine σ)
    (first later : List (HandlerCall σ)) (n : Nat) : Prop where
  planned : Planned r plan e
  calls : r.calls = first ++ later
  works : first.map HandlerCall.delegate = plan.schedule.order.flatMap WorkUnit.items
  rounds : Engine.Rounds r.engine.settings.maxRounds.toNat
    (e.settleAll (first.map HandlerCall.toCall)) (later.map HandlerCall.toCall) e' n
  report_eq : report = Engine.reportOn plan e' n
  finished : r.finished = { e' with running := false }
  regular : ∀ c ∈ r.calls, c.toCall.Regular

/-- The plan of a run, the engine that it was made with, the calls of the ordered pass, and the
world after it. -/
structure Ordered (r : Run σ) (plan : Plan σ) (e : Engine σ) (first : List (HandlerCall σ))
    (w : World (Recorded σ)) : Prop where
  planned : Planned r plan e
  works : first.map HandlerCall.delegate = plan.schedule.order.flatMap WorkUnit.items
  ordered : r.ordered = (.ok (), e.settleAll (first.map HandlerCall.toCall), w)
  record : w.own.2 = first
  regular : ∀ c ∈ first, c.toCall.Regular

/-- A run that returns the report: its ordered pass, and how it retried in the end. -/
structure Retrying (r : Run σ) (report : Report) (plan : Plan σ) (e : Engine σ)
    (first : List (HandlerCall σ)) (w : World (Recorded σ)) (e' : Engine σ)
    (w' : World (Recorded σ)) (n : Nat) : Prop where
  ordered : Ordered r plan e first w
  retried : Engine.retry (Engine.recordedWork r.context) r.engine.settings.maxRounds.toNat 0
    (e.settleAll (first.map HandlerCall.toCall)) w = (.ok n, e', w')
  calls : r.calls = w'.own.2
  report_eq : report = Engine.reportOn plan e' n
  finished : r.finished = { e' with running := false }

namespace Engine

variable {e e' : Engine σ}

theorem settings_settleAll (e : Engine σ) (cs : List (Call σ)) :
    (e.settleAll cs).settings = e.settings := by
  induction cs generalizing e with
  | nil => rfl
  | cons c cs ih => exact ih (e.settle c)

theorem units_settleAll (e : Engine σ) (cs : List (Call σ)) :
    (e.settleAll cs).units = e.units := by
  induction cs generalizing e with
  | nil => rfl
  | cons c cs ih => exact ih (e.settle c)

theorem Round.units {is : List Nat} {cs : List (Call σ)} {b : Bool} (round : Round is e cs e' b) :
    e'.units = e.units := by
  induction round with
  | done => rfl
  | absent _ _ ih => exact ih
  | station _ _ _ ih => exact ih

theorem Rounds.units {limit n : Nat} {cs : List (Call σ)} (rounds : Rounds limit e cs e' n) :
    e'.units = e.units := by
  induction rounds with
  | out => rfl
  | finished _ => rfl
  | stalled _ round => exact round.units
  | again _ round _ ih => exact ih.trans round.units

end Engine

theorem Planned.home {r : Run σ} {plan : Plan σ} {e : Engine σ} (h : Planned r plan e)
    {d : Delegate σ} (member : d ∈ r.discovered) : d.entry < e.stations.length := by
  obtain ⟨q, found, -⟩ := h.homes.queue_of_mem member
  obtain ⟨inside, -⟩ := List.getElem?_eq_some_iff.1 found
  rwa [h.ledger.length]

/-- The ordered pass of a planned run calls the planned work in turn. -/
theorem Run.ordered_spec {r : Run σ} {plan : Plan σ} {e e' : Engine σ} {w : World σ}
    {w' : World (Recorded σ)} (planned : r.planned = (.ok plan, e, w))
    (ok : Engine.execute (Engine.recordedWork r.context)
      (plan.schedule.order.flatMap WorkUnit.items) e (w.recording []) = (.ok (), e', w')) :
    Ordered r plan e w'.own.2 w' ∧ e' = e.settleAll (w'.own.2.map HandlerCall.toCall) := by
  have spec := Run.planned_spec planned
  have home : ∀ d ∈ plan.schedule.order.flatMap WorkUnit.items, d.entry < e.stations.length :=
    fun d member => spec.home (spec.works_perm.mem_iff.1 member)
  obtain ⟨cs, works, logged, rfl⟩ := Engine.execute_spec (recordedWork_logs r.context) home ok
  obtain ⟨first, record, rfl⟩ := Engine.recorded_of_logged logged
  obtain rfl : w'.own.2 = first := record
  refine ⟨⟨spec, ?_, ?_, rfl, fun c member => ?_⟩, rfl⟩
  · rw [← works, List.map_map]
    rfl
  · rw [Run.ordered, planned]
    exact ok
  · exact logged.regular c.toCall (List.mem_map_of_mem member)

/-- **A run that returns made its ordered pass and retried.** -/
theorem Run.Returns.retrying {r : Run σ} {report : Report} (returns : r.Returns report) :
    ∃ plan e first w e' w' n, Retrying r report plan e first w e' w' n := by
  obtain ⟨plan, e, w, e', w', planned, ran, calls, finished⟩ := returns.recorded
  unfold Engine.perform at ran
  cases executed : Engine.execute (Engine.recordedWork r.context)
      (plan.schedule.order.flatMap WorkUnit.items) e (w.recording []) with
  | mk result rest =>
      obtain ⟨mid, next⟩ := rest
      simp only [executed] at ran
      cases result with
      | error f => cases ran
      | ok _ =>
          obtain ⟨ordered, rfl⟩ := Run.ordered_spec planned executed
          dsimp only at ran
          rw [Engine.settings_settleAll, ordered.planned.settings] at ran
          cases retried : Engine.retry (Engine.recordedWork r.context)
              r.engine.settings.maxRounds.toNat 0
              (e.settleAll (next.own.2.map HandlerCall.toCall)) next with
          | mk result rest =>
              obtain ⟨mid, final⟩ := rest
              simp only [retried] at ran
              cases result with
              | error f => cases ran
              | ok n =>
                  cases ran
                  exact ⟨plan, e, _, next, _, _, n, ordered, retried, calls, rfl, finished⟩

/-- Retrying makes calls, round by round. -/
theorem Retrying.performed {r : Run σ} {report : Report} {plan : Plan σ} {e e' : Engine σ}
    {first : List (HandlerCall σ)} {w w' : World (Recorded σ)} {n : Nat}
    (h : Retrying r report plan e first w e' w' n) :
    ∃ later, Performed r report plan e e' first later n := by
  obtain ⟨cs, k, logged, rounds, count⟩ :=
    Engine.retry_spec (recordedWork_logs r.context) h.retried
  rw [Nat.zero_add] at count
  obtain rfl : n = k := count
  obtain ⟨later, record, rfl⟩ := Engine.recorded_of_logged logged
  have split : r.calls = first ++ later := by
    rw [h.calls, record, h.ordered.record]
  refine ⟨later, h.ordered.planned, split, h.ordered.works, rounds, h.report_eq, h.finished,
    fun c member => ?_⟩
  rw [split] at member
  rcases List.mem_append.1 member with early | late
  · exact h.ordered.regular c early
  · exact logged.regular c.toCall (List.mem_map_of_mem late)

/-- **A run that returns performed its plan.** -/
theorem Run.Returns.performed {r : Run σ} {report : Report} (returns : r.Returns report) :
    ∃ plan e e' first later n, Performed r report plan e e' first later n := by
  obtain ⟨plan, e, first, w, e', w', n, retrying⟩ := returns.retrying
  obtain ⟨later, performed⟩ := retrying.performed
  exact ⟨plan, e, e', first, later, n, performed⟩

/-- Settings that were let through allow a round. -/
theorem Settings.one_le_maxRounds {s : Settings} (accepted : s.checked = .ok s) :
    1 ≤ s.maxRounds := by
  unfold Settings.checked at accepted
  by_contra few
  rw [if_pos (by omega)] at accepted
  cases accepted

/-! ## The account of the calls -/

namespace Performed

variable {r : Run σ} {report : Report} {plan : Plan σ} {e e' : Engine σ}
  {first later : List (HandlerCall σ)} {n : Nat}

theorem works_perm (h : Performed r report plan e e' first later n) :
    (first.map HandlerCall.delegate).Perm r.discovered := by
  rw [h.works]
  exact h.planned.works_perm

theorem entries_eq (h : Performed r report plan e e' first later n) :
    report.entries = e'.stations.map fun s => EntrySummary.ofEntry s.entry := by
  rw [h.report_eq]
  rfl

/-- The ledger after the ordered pass. -/
theorem ledger_first (h : Performed r report plan e e' first later n) :
    Engine.Ledger r.queues (first.map HandlerCall.toCall)
        (e.settleAll (first.map HandlerCall.toCall)) ∧
      Fresh [] (first.map HandlerCall.toCall) :=
  h.planned.ledger_first h.works

/-- **The ledger is kept to the end, and no call is on work that is done.** -/
theorem ledger (h : Performed r report plan e e' first later n) :
    Engine.Ledger r.queues (r.calls.map HandlerCall.toCall) e' ∧
      Fresh [] (r.calls.map HandlerCall.toCall) := by
  obtain ⟨ledger, fresh⟩ := h.ledger_first
  obtain ⟨final, freshLater⟩ := h.rounds.ledger h.planned.homes ledger
  rw [h.calls, List.map_append]
  exact ⟨final, fresh.append freshLater⟩

end Performed

end Marking
