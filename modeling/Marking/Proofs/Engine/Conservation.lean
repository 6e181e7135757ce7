/-
# Marking.Proofs.Engine.Conservation -- no work is lost, doubled or done twice

A delegate is held by the queue of its entry and by the items of a unit at once; units are
merged and ordered, and queues shrink while passes run over them.  `Conserved` says what a run
that returns keeps through all of this: it calls all that it discovered once, in the reported
order; it calls again only what has not succeeded; and what is reported as pending is exactly
what never did.
-/
import Marking.Proofs.Engine.Running

set_option autoImplicit false

namespace Marking

open Entry (isDone Fresh)

variable {σ : Type}

def UnitTable.itemsAt {α : Type} (t : UnitTable α) (k : UnitKey) : List α :=
  ((t.get? k).map WorkUnit.items).getD []

/-- Of the calls of the delegate exactly one succeeds. -/
def SucceedsOnce (cs : List (HandlerCall σ)) (x : Delegate σ) : Prop :=
  ∃ before c after, cs = before ++ c :: after ∧ c.delegate = x ∧ c.succeeded = true ∧
    ∀ c' ∈ before ++ after, c'.delegate = x → c'.succeeded = false

/-- What a run that returns the report keeps of its work. -/
structure Conserved (r : Run σ) (report : Report) : Prop where
  /-- The delegates are told apart. -/
  distinct : r.discovered.Nodup
  /-- The first calls go through the units in the reported order, item by item. -/
  ordered : ∃ later, r.calls.map HandlerCall.delegate =
    report.order.flatMap r.finished.units.itemsAt ++ later
  /-- These are one call for every delegate. -/
  complete : (report.order.flatMap r.finished.units.itemsAt).Perm r.discovered
  /-- Only what was discovered is called. -/
  within : ∀ c ∈ r.calls, c.delegate ∈ r.discovered
  /-- Every call is on a delegate whose calls have all failed so far. -/
  fresh : ∀ before c after, r.calls = before ++ c :: after →
    ∀ c' ∈ before, c'.delegate = c.delegate → c'.succeeded = false
  /-- A success is the last call of its delegate. -/
  last : ∀ before c after, r.calls = before ++ c :: after → c.succeeded = true →
    ∀ c' ∈ after, c'.delegate ≠ c.delegate
  /-- Successes and pending keys of every entry make up what was discovered for it. -/
  counted : report.entries.map (fun s => s.succeeded + s.pending.length) =
    r.queues.map List.length
  /-- The pending keys are those of the delegates that are still queued. -/
  pending_keys : report.entries.map EntrySummary.pending =
    r.finished.stations.map fun s => s.entry.queue.map Delegate.key
  /-- A delegate is queued in the end exactly when it never succeeded. -/
  pending_iff : ∀ x, (∃ s ∈ r.finished.stations, x ∈ s.entry.queue) ↔
    x ∈ r.discovered ∧ ∀ c ∈ r.calls, c.delegate = x → c.succeeded = false
  /-- Success is reported when every delegate succeeded once. -/
  succeeded_iff : report.succeeded = true ↔ ∀ x ∈ r.discovered, SucceedsOnce r.calls x

/-! ## Calls and the work that they did -/

theorem isDone_calls_iff {cs : List (HandlerCall σ)} {x : Delegate σ} :
    isDone (cs.map HandlerCall.toCall) x = true ↔
      ∃ c ∈ cs, c.succeeded = true ∧ c.delegate.serial = x.serial := by
  rw [Entry.isDone_iff]
  constructor
  · rintro ⟨c, member, succeeded, same⟩
    obtain ⟨call, inCalls, rfl⟩ := List.mem_map.1 member
    exact ⟨call, inCalls, succeeded, same⟩
  · rintro ⟨c, member, succeeded, same⟩
    exact ⟨c.toCall, List.mem_map_of_mem member, succeeded, same⟩

namespace Performed

variable {r : Run σ} {report : Report} {plan : Plan σ} {e e' : Engine σ}
  {first later : List (HandlerCall σ)} {n : Nat}

theorem within (h : Performed r report plan e e' first later n) :
    ∀ c ∈ r.calls, c.delegate ∈ r.discovered := by
  intro c member
  rw [h.calls] at member
  rcases List.mem_append.1 member with early | late
  · exact h.works_perm.mem_iff.1 (List.mem_map_of_mem early)
  · exact h.rounds.within h.planned.homes h.ledger_first.1 c.toCall (List.mem_map_of_mem late)

/-- Calls of the run that did no work of the delegate are its failures. -/
theorem isDone_eq_false_iff (h : Performed r report plan e e' first later n)
    {cs : List (HandlerCall σ)} (inCalls : ∀ c ∈ cs, c ∈ r.calls) {x : Delegate σ}
    (member : x ∈ r.discovered) :
    isDone (cs.map HandlerCall.toCall) x = false ↔
      ∀ c ∈ cs, c.delegate = x → c.succeeded = false := by
  rw [Bool.eq_false_iff, Ne, isDone_calls_iff]
  constructor
  · intro none c inCs same
    rw [Bool.eq_false_iff]
    exact fun succeeded => none ⟨c, inCs, succeeded, congrArg Delegate.serial same⟩
  · rintro failed ⟨c, inCs, succeeded, same⟩
    have equal : c.delegate = x :=
      h.planned.homes.eq_of_serial (h.within c (inCalls c inCs)) member same
    rw [failed c inCs equal] at succeeded
    cases succeeded

theorem fresh (h : Performed r report plan e e' first later n) {before after : List (HandlerCall σ)}
    {c : HandlerCall σ} (split : r.calls = before ++ c :: after) :
    ∀ c' ∈ before, c'.delegate = c.delegate → c'.succeeded = false := by
  have inCalls : ∀ c' ∈ before ++ c :: after, c' ∈ r.calls := fun c' member => split ▸ member
  have notDone : isDone (before.map HandlerCall.toCall) c.delegate = false := by
    have calls : r.calls.map HandlerCall.toCall =
        before.map HandlerCall.toCall ++ c.toCall :: after.map HandlerCall.toCall := by
      rw [split, List.map_append, List.map_cons]
    exact h.ledger.2.not_done calls
  refine (h.isDone_eq_false_iff (fun c' member => inCalls c' ?_) ?_).1 notDone
  · exact List.mem_append_left _ member
  · exact h.within c (inCalls c (by simp))

theorem last (h : Performed r report plan e e' first later n) {before after : List (HandlerCall σ)}
    {c : HandlerCall σ} (split : r.calls = before ++ c :: after) (succeeded : c.succeeded = true) :
    ∀ c' ∈ after, c'.delegate ≠ c.delegate := by
  intro c' member same
  obtain ⟨left, right, rfl⟩ := List.append_of_mem member
  have split' : r.calls = (before ++ c :: left) ++ c' :: right := by
    rw [split, List.append_assoc, List.cons_append]
  have failed := h.fresh split' c (by simp) same.symm
  rw [failed] at succeeded
  cases succeeded

/-- What some entry still holds never succeeded. -/
theorem pending_iff (h : Performed r report plan e e' first later n) {x : Delegate σ} :
    (∃ s ∈ e'.stations, x ∈ s.entry.queue) ↔
      x ∈ r.discovered ∧ ∀ c ∈ r.calls, c.delegate = x → c.succeeded = false := by
  have queued := h.ledger.1.mem_left_iff h.planned.homes (d := x)
  have found : (∃ s ∈ e'.stations, x ∈ s.entry.queue) ↔
      ∃ (i : Nat) (s : Station σ), e'.stations[i]? = some s ∧ x ∈ s.entry.queue := by
    constructor
    · rintro ⟨s, member, inQueue⟩
      obtain ⟨i, there⟩ := List.mem_iff_getElem?.1 member
      exact ⟨i, s, there, inQueue⟩
    · rintro ⟨i, s, there, inQueue⟩
      exact ⟨s, List.mem_of_getElem? there, inQueue⟩
  rw [found, ← queued, Engine.mem_left]
  constructor
  · rintro ⟨member, notDone⟩
    exact ⟨member, (h.isDone_eq_false_iff (fun _ inCalls => inCalls) member).1 notDone⟩
  · rintro ⟨member, failed⟩
    exact ⟨member, (h.isDone_eq_false_iff (fun _ inCalls => inCalls) member).2 failed⟩

/-- A delegate that succeeded did so once. -/
theorem succeedsOnce (h : Performed r report plan e e' first later n) {c : HandlerCall σ}
    (member : c ∈ r.calls) (succeeded : c.succeeded = true) :
    SucceedsOnce r.calls c.delegate := by
  obtain ⟨before, after, split⟩ := List.append_of_mem member
  refine ⟨before, c, after, split, rfl, succeeded, fun c' inOthers same => ?_⟩
  rcases List.mem_append.1 inOthers with early | late
  · exact h.fresh split c' early same
  · exact absurd same (h.last split succeeded c' late)

theorem units_eq (h : Performed r report plan e e' first later n) :
    r.finished.units = e.units := by
  rw [h.finished]
  exact h.rounds.units.trans (Engine.units_settleAll _ _)

/-- The planned work, read off the report and the engine at the end. -/
theorem works_eq (h : Performed r report plan e e' first later n) :
    report.order.flatMap r.finished.units.itemsAt =
      plan.schedule.order.flatMap WorkUnit.items := by
  rw [h.units_eq, h.report_eq]
  show (plan.schedule.order.map WorkUnit.key).flatMap _ = _
  rw [List.flatMap_map]
  refine List.flatMap_congr fun u member => ?_
  have inTable : u ∈ e.units.units := h.planned.order_perm.mem_iff.1 member
  rw [UnitTable.itemsAt, h.planned.units.get?_eq inTable]
  rfl

theorem counted (h : Performed r report plan e e' first later n) :
    report.entries.map (fun s => s.succeeded + s.pending.length) = r.queues.map List.length := by
  have ledger := h.ledger.1
  rw [h.entries_eq, List.map_map]
  refine List.ext_getElem (by simp [ledger.length]) fun i inside _ => ?_
  rw [List.length_map] at inside
  have there := List.getElem?_eq_getElem inside
  have found := List.getElem?_eq_getElem (ledger.length ▸ inside)
  have tallied := ledger.tallied i _ _ there found
  rw [List.getElem_map, List.getElem_map, ← tallied.length_eq]
  simp [EntrySummary.ofEntry, Entry.pendingKeys]

/-- Success is reported when no entry holds anything. -/
theorem report_succeeded_iff (h : Performed r report plan e e' first later n) :
    report.succeeded = true ↔ ∀ s ∈ e'.stations, s.entry.queue = [] := by
  rw [Report.succeeded, Report.unfinished, h.entries_eq, List.isEmpty_iff, List.filter_eq_nil_iff]
  constructor
  · intro none s member
    have := none _ (List.mem_map_of_mem member)
    simpa [EntrySummary.ofEntry, Entry.pendingKeys] using this
  · intro empty x member
    obtain ⟨s, inStations, rfl⟩ := List.mem_map.1 member
    simp [EntrySummary.ofEntry, Entry.pendingKeys, empty s inStations]

theorem succeeded_iff (h : Performed r report plan e e' first later n) :
    report.succeeded = true ↔ ∀ x ∈ r.discovered, SucceedsOnce r.calls x := by
  rw [h.report_succeeded_iff]
  constructor
  · intro empty x member
    by_contra never
    have failed : ∀ c ∈ r.calls, c.delegate = x → c.succeeded = false := by
      rintro c inCalls rfl
      rw [Bool.eq_false_iff]
      exact fun succeeded => never (h.succeedsOnce inCalls succeeded)
    obtain ⟨s, inStations, inQueue⟩ := h.pending_iff.2 ⟨member, failed⟩
    rw [empty s inStations] at inQueue
    cases inQueue
  · intro all s inStations
    rw [List.eq_nil_iff_forall_not_mem]
    intro x inQueue
    obtain ⟨member, failed⟩ := h.pending_iff.1 ⟨s, inStations, inQueue⟩
    obtain ⟨before, c, after, split, isCall, succeeded, -⟩ := all x member
    have inCalls : c ∈ r.calls := split ▸ by simp
    rw [failed c inCalls isCall] at succeeded
    cases succeeded

end Performed

/-- **No work is lost, doubled or done twice.** -/
theorem Run.Returns.conserved {r : Run σ} {report : Report} (returns : r.Returns report) :
    Conserved r report := by
  obtain ⟨plan, e, e', first, later, n, h⟩ := returns.performed
  have stations : r.finished.stations = e'.stations := by
    rw [h.finished]
  exact
    { distinct := h.planned.discovered_nodup
      ordered := ⟨later.map HandlerCall.delegate, by
        rw [h.works_eq, ← h.works, h.calls, List.map_append]⟩
      complete := h.works_eq ▸ h.planned.works_perm
      within := h.within
      fresh := fun before c after split => h.fresh split
      last := fun before c after split succeeded => h.last split succeeded
      counted := h.counted
      pending_keys := by
        rw [h.entries_eq, stations, List.map_map]
        rfl
      pending_iff := fun x => stations ▸ h.pending_iff
      succeeded_iff := h.succeeded_iff }

/-- A run that calls one of its delegates twice. -/
theorem Sample.conserved_with_retry :
    (Sample.run false).calls.length = 3 ∧ (Sample.run false).discovered.length = 2 ∧
      ∃ report, report.succeeded = true ∧ Conserved (Sample.run false) report := by
  have done : (Sample.run false).passes Report.succeeded = true := by decide +kernel
  obtain ⟨report, returns, succeeded⟩ := Run.returns_of_passes done
  exact ⟨by decide +kernel, by decide +kernel, report, succeeded, returns.conserved⟩

end Marking
