/-
# Marking.Proofs.Entry.Tally -- what is queued is what never succeeded

`Tallied queue cs e` is the invariant of an entry that began with `queue`, when `cs` is every
call that was made anywhere since: what is left in its queue is the work that no call finished,
in the old order, and its count of successes is the number of the others.  Every call of queued
work keeps it, and so do the calls at other entries; the retry loop is made of such calls
(`Retries.tallied`), none of them on work that is done (`Fresh`).

A loop that leaves the queue as long as it was has called all of it once, and everything failed
(`Retries.still`).
-/
import Mathlib.Data.List.Nodup
import Mathlib.Data.List.Sublists
import Marking.Proofs.Entry.Calls

set_option autoImplicit false

namespace Marking.Entry

variable {δ : Type} [Work δ]

/-! ## Done and fresh work -/

def isDone (cs : List (Call δ)) (d : δ) : Bool :=
  cs.any fun c => c.succeeded && Work.serial c.work == Work.serial d

theorem isDone_append (cs ds : List (Call δ)) (d : δ) :
    isDone (cs ++ ds) d = (isDone cs d || isDone ds d) :=
  List.any_append

theorem isDone_iff {cs : List (Call δ)} {d : δ} :
    isDone cs d = true ↔
      ∃ c ∈ cs, c.succeeded = true ∧ Work.serial c.work = Work.serial d := by
  simp [isDone]

theorem isDone_of_failed {cs : List (Call δ)} (failed : ∀ c ∈ cs, c.succeeded = false) (d : δ) :
    isDone cs d = false := by
  rw [Bool.eq_false_iff]
  intro done
  obtain ⟨c, member, succeeded, -⟩ := isDone_iff.1 done
  rw [failed c member] at succeeded
  cases succeeded

/-- Each of the calls is on work that is not done, neither by the calls before the list nor by
those before it in the list. -/
def Fresh : List (Call δ) → List (Call δ) → Prop
  | _, [] => True
  | before, c :: cs => isDone before c.work = false ∧ Fresh (before ++ [c]) cs

theorem Fresh.append {before cs ds : List (Call δ)} (first : Fresh before cs)
    (second : Fresh (before ++ cs) ds) : Fresh before (cs ++ ds) := by
  induction cs generalizing before with
  | nil => rwa [List.append_nil] at second
  | cons c cs ih =>
      refine ⟨first.1, ih first.2 ?_⟩
      rwa [List.append_assoc, List.singleton_append]

theorem Fresh.not_done {before cs left right : List (Call δ)} {c : Call δ}
    (fresh : Fresh before cs) (split : cs = left ++ c :: right) :
    isDone (before ++ left) c.work = false := by
  induction left generalizing before cs with
  | nil =>
      rw [split] at fresh
      rw [List.append_nil]
      exact fresh.1
  | cons l left ih =>
      rw [split] at fresh
      have rest := ih fresh.2 rfl
      rwa [List.append_assoc, List.singleton_append] at rest

/-! ## The first element that passes a test -/

theorem removeFirst_serial {ds : List δ} (nodup : (ds.map Work.serial).Nodup) (s : Nat) :
    removeFirst (fun x => Work.serial x == s) ds = ds.filter fun x => !(Work.serial x == s) := by
  induction ds with
  | nil => rfl
  | cons d ds ih =>
      obtain ⟨fresh, rest⟩ := List.nodup_cons.1 nodup
      by_cases same : Work.serial d = s
      · have others : ds.filter (fun x => !(Work.serial x == s)) = ds := by
          rw [List.filter_eq_self]
          intro x member
          have differ : Work.serial x ≠ s := fun eq =>
            fresh (List.mem_map.2 ⟨x, member, eq.trans same.symm⟩)
          simpa using differ
        rw [removeFirst, if_pos (beq_iff_eq.2 same), List.filter_cons, if_neg (by simp [same]), others]
      · rw [removeFirst, if_neg (by simpa using same), List.filter_cons, if_pos (by simpa using same),
          ih rest]

/-- One more member counts when the serial number of one that did not count is added. -/
theorem countP_or_serial {ds : List δ} (nodup : (ds.map Work.serial).Nodup) {x : δ}
    (member : x ∈ ds) {test : δ → Bool} (fresh : test x = false) :
    ds.countP (fun d => test d || Work.serial x == Work.serial d) = ds.countP test + 1 := by
  induction ds with
  | nil => cases member
  | cons d ds ih =>
      obtain ⟨notLater, rest⟩ := List.nodup_cons.1 nodup
      rw [List.countP_cons, List.countP_cons]
      rcases List.mem_cons.1 member with rfl | later
      · have others : ds.countP (fun d => test d || Work.serial x == Work.serial d) =
            ds.countP test := by
          refine List.countP_congr fun d inRest => ?_
          have differ : Work.serial x ≠ Work.serial d := fun same =>
            notLater (List.mem_map.2 ⟨d, inRest, same.symm⟩)
          simp [differ]
        rw [others]
        simp [fresh]
      · have differ : Work.serial x ≠ Work.serial d := fun same =>
          notLater (List.mem_map.2 ⟨x, later, same⟩)
        rw [ih rest later]
        simp only [beq_eq_false_iff_ne.2 differ, Bool.or_false]
        omega

/-! ## The tally -/

/-- The entry began with `queue`; `cs` are the calls since. -/
structure Tallied (queue : List δ) (cs : List (Call δ)) (e : Entry δ) : Prop where
  queue_eq : e.queue = queue.filter fun d => !isDone cs d
  succeeded_eq : e.succeeded = queue.countP (isDone cs)

variable {queue : List δ} {cs before : List (Call δ)} {e e' : Entry δ}

theorem Tallied.mem_queue (h : Tallied queue cs e) {d : δ} :
    d ∈ e.queue ↔ d ∈ queue ∧ isDone cs d = false := by
  rw [h.queue_eq, List.mem_filter]
  simp

theorem Tallied.nodup_queue (h : Tallied queue cs e) (nodup : (queue.map Work.serial).Nodup) :
    (e.queue.map Work.serial).Nodup := by
  rw [h.queue_eq]
  exact nodup.sublist (List.filter_sublist.map _)

/-- Success and what is left make up what there was. -/
theorem Tallied.length_eq (h : Tallied queue cs e) :
    e.succeeded + e.queue.length = queue.length := by
  rw [h.queue_eq, h.succeeded_eq, ← List.countP_eq_length_filter]
  have := List.length_eq_countP_add_countP (isDone cs) (l := queue)
  simpa using this.symm

theorem Tallied.congr (h : Tallied queue cs e) (sameQueue : e'.queue = e.queue)
    (sameCount : e'.succeeded = e.succeeded) : Tallied queue cs e' :=
  ⟨sameQueue.trans h.queue_eq, sameCount.trans h.succeeded_eq⟩

/-- The entry did nothing about calls of the work of others. -/
theorem Tallied.others (h : Tallied queue before e)
    (elsewhere : ∀ c ∈ cs, ∀ d ∈ queue, Work.serial c.work ≠ Work.serial d) :
    Tallied queue (before ++ cs) e := by
  have same : ∀ d ∈ queue, isDone (before ++ cs) d = isDone before d := by
    intro d member
    have untouched : isDone cs d = false := by
      rw [Bool.eq_false_iff]
      intro done
      obtain ⟨c, inCalls, -, sameSerial⟩ := isDone_iff.1 done
      exact elsewhere c inCalls d member sameSerial
    rw [isDone_append, untouched, Bool.or_false]
  refine ⟨h.queue_eq.trans (List.filter_congr fun d member => ?_),
    h.succeeded_eq.trans (List.countP_congr fun d member => ?_)⟩
  · rw [same d member]
  · rw [same d member]

/-- A call of queued work is settled rightly. -/
theorem Tallied.settle (h : Tallied queue before e) (nodup : (queue.map Work.serial).Nodup)
    {c : Call δ} (queued : c.work ∈ e.queue) : Tallied queue (before ++ [c]) (e.settle c) := by
  obtain ⟨member, fresh⟩ := h.mem_queue.1 queued
  have sorted := h.nodup_queue nodup
  have step : ∀ d, isDone (before ++ [c]) d =
      (isDone before d || (c.succeeded && Work.serial c.work == Work.serial d)) := by
    intro d
    simp [isDone]
  cases outcome : c.succeeded with
  | false =>
      refine ⟨?_, ?_⟩
      · rw [queue_settle, outcome, if_neg Bool.false_ne_true, h.queue_eq]
        refine List.filter_congr fun d _ => ?_
        rw [step, outcome, Bool.false_and, Bool.or_false]
      · rw [succeeded_settle, outcome, if_neg Bool.false_ne_true, Nat.add_zero, h.succeeded_eq]
        refine List.countP_congr fun d _ => ?_
        rw [step, outcome, Bool.false_and, Bool.or_false]
  | true =>
      refine ⟨?_, ?_⟩
      · rw [queue_settle, outcome, if_pos rfl, removeFirst_serial sorted, h.queue_eq,
          List.filter_filter]
        refine List.filter_congr fun d _ => ?_
        rw [step, outcome, Bool.true_and, Bool.not_or, Bool.and_comm, Bool.beq_comm]
      · rw [succeeded_settle, outcome, if_pos rfl, h.succeeded_eq]
        have counts : queue.countP (isDone (before ++ [c])) =
            queue.countP (fun d => isDone before d || Work.serial c.work == Work.serial d) := by
          refine List.countP_congr fun d _ => ?_
          rw [step, outcome, Bool.true_and]
        rw [counts, countP_or_serial nodup member fresh]

/-- Calls of distinct queued work are settled rightly, and are fresh. -/
theorem Tallied.settleAll (nodup : (queue.map Work.serial).Nodup) (h : Tallied queue before e)
    (distinct : (cs.map fun c => Work.serial c.work).Nodup)
    (queued : ∀ c ∈ cs, c.work ∈ e.queue) :
    Tallied queue (before ++ cs) (e.settleAll cs) ∧ Fresh before cs := by
  induction cs generalizing before e with
  | nil => exact ⟨(List.append_nil before).symm ▸ h, trivial⟩
  | cons c cs ih =>
      obtain ⟨notLater, rest⟩ := List.nodup_cons.1 distinct
      have head := queued c List.mem_cons_self
      have settled := h.settle nodup head
      obtain ⟨tallied, fresh⟩ := ih settled rest fun d member => by
        obtain ⟨old, notDone⟩ := h.mem_queue.1 (queued d (List.mem_cons_of_mem c member))
        refine settled.mem_queue.2 ⟨old, ?_⟩
        have differ : Work.serial c.work ≠ Work.serial d.work := fun same =>
          notLater (List.mem_map.2 ⟨d, member, same.symm⟩)
        rw [isDone_append, notDone]
        simp [isDone, differ]
      rw [List.append_assoc, List.singleton_append] at tallied
      exact ⟨tallied, (h.mem_queue.1 head).2, fresh⟩

/-! ## The retry loop -/

/-- A pass settles the calls of the whole queue. -/
theorem Tallied.pass (nodup : (queue.map Work.serial).Nodup) (h : Tallied queue before e)
    (works : cs.map Call.work = e.queue) :
    Tallied queue (before ++ cs) (e.beginPass.settleAll cs) ∧ Fresh before cs := by
  have begun : Tallied queue before e.beginPass := h.congr rfl rfl
  refine begun.settleAll nodup ?_ fun c member => ?_
  · have serials : (cs.map fun c => Work.serial c.work) = e.queue.map Work.serial := by
      rw [← works, List.map_map]
      rfl
    rw [serials]
    exact h.nodup_queue nodup
  · show c.work ∈ e.queue
    rw [← works]
    exact List.mem_map_of_mem member

/-- The queue only loses members. -/
theorem Tallied.queue_sublist (h : Tallied queue before e) (later : Tallied queue (before ++ cs) e') :
    e'.queue.Sublist e.queue := by
  rw [h.queue_eq, later.queue_eq]
  refine List.monotone_filter_right queue fun d left => ?_
  rw [isDone_append, Bool.not_or, Bool.and_eq_true] at left
  exact left.1

/-- Calls of queued work that leave the queue as long as it was have all failed. -/
theorem Tallied.failed (h : Tallied queue before e) (later : Tallied queue (before ++ cs) e')
    (queued : ∀ c ∈ cs, c.work ∈ e.queue) (same : e.queue.length ≤ e'.queue.length) :
    e'.queue = e.queue ∧ ∀ c ∈ cs, c.succeeded = false := by
  have kept : e'.queue = e.queue := (h.queue_sublist later).eq_of_length_le same
  refine ⟨kept, fun c member => ?_⟩
  have notDone := (later.mem_queue.1 (kept ▸ queued c member)).2
  rw [Bool.eq_false_iff]
  intro succeeded
  rw [isDone_append, Bool.or_eq_false_iff] at notDone
  have done := isDone_iff.2 ⟨c, member, succeeded, rfl⟩
  rw [notDone.2] at done
  cases done

/-- **The retry loop keeps the tally and calls nothing that is done.** -/
theorem Retries.tallied (retries : Retries e cs e') (nodup : (queue.map Work.serial).Nodup)
    (h : Tallied queue before e) : Tallied queue (before ++ cs) e' ∧ Fresh before cs := by
  induction retries generalizing before with
  | done _ => exact ⟨(List.append_nil before).symm ▸ h, trivial⟩
  | stuck _ works _ => exact h.pass nodup works
  | again _ works _ _ ih =>
      obtain ⟨tallied, fresh⟩ := h.pass nodup works
      obtain ⟨final, freshRest⟩ := ih tallied
      rw [List.append_assoc] at final
      exact ⟨final, fresh.append freshRest⟩

/-- The retry loop calls queued work only. -/
theorem Retries.queued (retries : Retries e cs e') (nodup : (queue.map Work.serial).Nodup)
    (h : Tallied queue before e) : ∀ c ∈ cs, c.work ∈ e.queue := by
  induction retries generalizing before with
  | done _ => exact fun c member => nomatch member
  | stuck _ works _ => exact fun c member => works ▸ List.mem_map_of_mem member
  | again _ works _ _ ih =>
      intro c member
      obtain ⟨tallied, -⟩ := h.pass nodup works
      rcases List.mem_append.1 member with first | later
      · exact works ▸ List.mem_map_of_mem first
      · exact (h.queue_sublist tallied).subset (ih tallied c later)

/-- A run over the queue that does not shorten it is one pass in which everything fails. -/
theorem Retries.still (retries : Retries e cs e') (nodup : (queue.map Work.serial).Nodup)
    (h : Tallied queue before e) (same : e.queue.length ≤ e'.queue.length) :
    cs.map Call.work = e.queue ∧ (∀ c ∈ cs, c.succeeded = false) ∧ e'.queue = e.queue := by
  obtain ⟨final, -⟩ := retries.tallied nodup h
  have queued := retries.queued nodup h
  obtain ⟨kept, failed⟩ := h.failed final queued same
  refine ⟨?_, failed, kept⟩
  cases retries with
  | done none => exact none.symm
  | stuck _ works _ => exact works
  | again _ works shorter rest =>
      obtain ⟨mid, -⟩ := h.pass nodup works
      obtain ⟨last, -⟩ := rest.tallied nodup mid
      have first := (h.queue_sublist mid).length_le
      have second := (mid.queue_sublist last).length_le
      omega

end Marking.Entry
