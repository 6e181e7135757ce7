/-
# Marking.Proofs.Engine.Truthfulness -- the report says what is left

Failures are remembered by single attempts and by passes, and dropped whenever a run over a queue
begins.  Still every station answers in the end for all that it holds (`Answered`): the ordered
pass calls everything, and a round calls again everything that it leaves.  Where no round comes,
nothing was left.

With the states of the entries, which every round puts to rest (`AtRest`), this is what the
summaries of a report are made of (`Truthful`).
-/
import Marking.Proofs.Engine.Running
import Marking.Proofs.Engine.Stations
import Marking.Proofs.Entry.Failures

set_option autoImplicit false

namespace Marking

open Entry (lastCall? Answers AtRest Closes)

variable {σ : Type}

namespace Engine

variable {queues : List (List (Delegate σ))} {before cs : List (Call σ)} {e e' : Engine σ}
  {is : List Nat} {b : Bool} {limit n : Nat}

/-! ## Failures -/

/-- Every delegate that is still queued was called, and its station remembers the failure of its
last call. -/
def Answered (cs : List (Call σ)) (e : Engine σ) : Prop :=
  ∀ (i : Nat) (s : Station σ), e.stations[i]? = some s → ∀ d ∈ s.entry.queue,
    ∃ c f, lastCall? cs d = some c ∧ c.failure? = some f ∧ f.key.isSome ∧
      s.entry.failureOf? d.serial = some f

/-- The calls of a delegate are among those of its station. -/
theorem lastCall?_callsAt (homes : Homes queues) (within : ∀ c ∈ cs, c.work ∈ queues.flatten)
    {d : Delegate σ} (member : d ∈ queues.flatten) :
    lastCall? (callsAt d.entry cs) d = lastCall? cs d := by
  rw [lastCall?, callsAt, List.filter_filter, lastCall?]
  congr 1
  refine List.filter_congr fun c isCall => ?_
  by_cases same : c.work.serial = d.serial
  · have equal : c.work = d := homes.eq_of_serial (within c isCall) member same
    rw [equal]
    simp
  · have differ : (Work.serial c.work == Work.serial d) = false := beq_eq_false_iff_ne.2 same
    rw [differ, Bool.false_and]

/-- What a station holds after calls of its own that it answers for. -/
theorem answered_at (homes : Homes queues) (within : ∀ c ∈ cs, c.work ∈ queues.flatten)
    {d : Delegate σ} (member : d ∈ queues.flatten) {entry : Entry (Delegate σ)}
    (queued : d ∈ entry.queue) (answers : Answers (callsAt d.entry cs) entry)
    (called : d ∈ (callsAt d.entry cs).map Entry.Call.work) :
    ∃ c f, lastCall? cs d = some c ∧ c.failure? = some f ∧ f.key.isSome ∧
      entry.failureOf? d.serial = some f := by
  obtain ⟨c, last⟩ := Entry.exists_lastCall called
  obtain ⟨f, leaves, hasKey, remembered⟩ := answers d queued c last
  rw [lastCall?_callsAt homes within member] at last
  exact ⟨c, f, last, leaves, hasKey, remembered⟩

theorem Round.answered (round : Round is e cs e' b) (homes : Homes queues)
    (h : Ledger queues before e) (nodup : is.Nodup) (regular : ∀ c ∈ cs, c.Regular)
    (answered : Answered before e) : Answered (before ++ cs) e' := by
  intro i s' there' d queued
  have within := round.within homes h
  obtain ⟨ended, -⟩ := round.ledger homes h
  have member : d ∈ queues.flatten :=
    (mem_left.1 ((ended.mem_left_iff homes).2 ⟨i, s', there', queued⟩)).1
  have home : d.entry = i := by
    obtain ⟨q, found, tallied⟩ := ended.queue_at there'
    exact homes.home i q found d (tallied.mem_queue.1 queued).1
  subst home
  by_cases here : d.entry ∈ is
  · have inside : d.entry < e.stations.length := by
      obtain ⟨inside, -⟩ := List.getElem?_eq_some_iff.1 there'
      exact round.length ▸ inside
    have there := List.getElem?_eq_getElem inside
    obtain ⟨mid, retries, visited⟩ := round.visited homes h nodup here there
    rw [visited] at there'
    cases there'
    obtain ⟨q, found, distinct, begun⟩ := h.begun homes there
    have own : ∀ c ∈ callsAt d.entry cs, c.Regular := fun c isOwn =>
      regular c (List.mem_of_mem_filter isOwn)
    have answers : Answers (callsAt d.entry cs) mid := by
      have run := retries.answers (begun.nodup_queue distinct) own (Entry.answers_nil _)
      rwa [List.nil_append] at run
    obtain ⟨c, f, last, leaves⟩ :=
      answered_at homes within member queued answers (retries.called d queued)
    exact ⟨c, f, Entry.lastCall?_append_of_some last, leaves⟩
  · rw [round.elsewhere here] at there'
    have silent : lastCall? cs d = none := by
      rw [← lastCall?_callsAt homes within member, round.silent homes h here]
      rfl
    rw [Entry.lastCall?_append_of_none silent]
    exact answered d.entry s' there' d queued

theorem Rounds.answered (rounds : Rounds limit e cs e' n) (homes : Homes queues)
    (h : Ledger queues before e) (regular : ∀ c ∈ cs, c.Regular) (answered : Answered before e) :
    Answered (before ++ cs) e' := by
  induction rounds generalizing before with
  | out => exact (List.append_nil before).symm ▸ answered
  | finished _ => exact (List.append_nil before).symm ▸ answered
  | stalled _ round => exact round.answered homes h (unfinished_nodup _) regular answered
  | @again limit n e mid e' cs rest _ round _ ih =>
      obtain ⟨ledger, -⟩ := round.ledger homes h
      have first := round.answered homes h (unfinished_nodup _)
        (fun c member => regular c (List.mem_append_left rest member)) answered
      rw [← List.append_assoc]
      exact ih ledger (fun c member => regular c (List.mem_append_right cs member)) first

/-! ## States -/

/-- The relation holds between every queue and the entry that began with it. -/
def Everywhere (queues : List (List (Delegate σ)))
    (R : List (Delegate σ) → Entry (Delegate σ) → Prop) (e : Engine σ) : Prop :=
  ∀ (i : Nat) (s : Station σ) (q : List (Delegate σ)), e.stations[i]? = some s →
    queues[i]? = some q → R q s.entry

/-- A round puts every station to rest. -/
theorem Round.atRest (round : Round e.unfinished e cs e' b) (homes : Homes queues)
    (h : Ledger queues before e) (closes : Everywhere queues Closes e) :
    Everywhere queues AtRest e' := by
  intro i s' q there' found
  obtain ⟨s, there, tallied⟩ := h.station_at found
  by_cases here : i ∈ e.unfinished
  · obtain ⟨mid, retries, visited⟩ := round.visited homes h (unfinished_nodup e) here there
    rw [visited] at there'
    cases there'
    refine Entry.atRest_concluded (fun none => ?_) _ mid
    obtain ⟨t, found', some⟩ := mem_unfinished.1 here
    rw [there] at found'
    cases found'
    rw [tallied.queue_eq, none] at some
    exact some rfl
  · rw [round.elsewhere here] at there'
    refine ⟨closes i s' q there' found, fun some => ?_⟩
    exact absurd (mem_unfinished.2 ⟨s', there', some⟩) here

/-- Where no station has work left, all are at rest. -/
theorem atRest_of_finished (none : e.unfinished = []) (closes : Everywhere queues Closes e) :
    Everywhere queues AtRest e := by
  intro i s q there found
  refine ⟨closes i s q there found, fun some => ?_⟩
  have open' := mem_unfinished.2 ⟨s, there, some⟩
  rw [none] at open'
  cases open'

/-- Rounds put every station to rest, unless none is allowed and it is not at rest before. -/
theorem Rounds.atRest (rounds : Rounds limit e cs e' n) (homes : Homes queues)
    (h : Ledger queues before e) (closes : Everywhere queues Closes e)
    (start : limit = 0 → Everywhere queues AtRest e) : Everywhere queues AtRest e' := by
  induction rounds generalizing before with
  | out => exact start rfl
  | finished none => exact atRest_of_finished none closes
  | stalled _ round => exact round.atRest homes h closes
  | again _ round _ ih =>
      have rest := round.atRest homes h closes
      refine ih (round.ledger homes h).1 (fun i s q there found => ?_) fun _ => rest
      exact (rest i s q there found).toCloses

end Engine

/-! ## The ordered pass -/

namespace Planned

variable {r : Run σ} {plan : Plan σ} {e : Engine σ} {cs : List (Engine.Call σ)}

/-- The ordered pass settles the calls of a station at the entry that was planned. -/
theorem station_first (h : Planned r plan e) {i : Nat} {s : Station σ}
    (there : (e.settleAll cs).stations[i]? = some s) :
    ∃ entry : Entry (Delegate σ), r.queues[i]? = some entry.queue ∧ entry.state = .pending ∧
      s.entry = entry.settleAll (Engine.callsAt i cs) := by
  rw [Engine.station_settleAll] at there
  obtain ⟨t, old, rfl⟩ := Option.map_eq_some_iff.1 there
  refine ⟨t.entry, ?_, ?_, rfl⟩
  · rw [← h.queues, List.getElem?_map, old]
    rfl
  · rw [h.isNew t (List.mem_of_getElem? old)]

theorem closes_first (h : Planned r plan e) (within : ∀ c ∈ cs, c.work ∈ r.discovered) :
    Engine.Everywhere r.queues Closes (e.settleAll cs) := by
  intro i s q there found
  obtain ⟨entry, isQueue, isPending, settled⟩ := h.station_first there
  obtain rfl : entry.queue = q := Option.some.inj (isQueue.symm.trans found)
  rw [settled]
  have begun : Closes entry.queue entry := ⟨fun _ => isPending, fun some none => absurd none some⟩
  refine begun.settleAll fun none => ?_
  -- The calls of a station are of the delegates found for it.
  refine List.filter_eq_nil_iff.2 fun c member here => ?_
  obtain ⟨p, inQueues, inP⟩ := h.homes.queue_of_mem (within c member)
  rw [beq_iff_eq.1 here, found] at inQueues
  cases inQueues
  rw [none] at inP
  cases inP

/-- An ordered pass that calls everything answers for what it leaves. -/
theorem answered_first (h : Planned r plan e) (within : ∀ c ∈ cs, c.work ∈ r.discovered)
    (complete : ∀ d ∈ r.discovered, d ∈ cs.map Entry.Call.work)
    (regular : ∀ c ∈ cs, c.Regular) : Engine.Answered cs (e.settleAll cs) := by
  intro i s there d queued
  obtain ⟨entry, isQueue, -, settled⟩ := h.station_first there
  rw [settled] at queued ⊢
  have inQueue : d ∈ entry.queue := (Entry.queue_settleAll_sublist _ _).subset queued
  have member : d ∈ r.discovered := Engine.mem_flatten isQueue inQueue
  have home : d.entry = i := h.homes.home i _ isQueue d inQueue
  subst home
  have nodup := h.homes.nodup_queue (List.mem_of_getElem? isQueue)
  have answers := (Entry.answers_nil entry).settleAll nodup fun c isOwn =>
    regular c (List.mem_of_mem_filter (p := fun c => c.work.entry == d.entry) isOwn)
  obtain ⟨c, isCall, isWork⟩ := List.mem_map.1 (complete d member)
  have own : c ∈ Engine.callsAt d.entry cs :=
    List.mem_filter.2 ⟨isCall, by rw [isWork]; exact beq_self_eq_true _⟩
  have called : d ∈ (Engine.callsAt d.entry cs).map Entry.Call.work :=
    List.mem_map.2 ⟨c, own, isWork⟩
  rw [List.nil_append] at answers
  exact Engine.answered_at h.homes within member queued answers called

end Planned

/-! ## Reports -/

def HandlerCall.failure? (c : HandlerCall σ) : Option Failure := c.toCall.failure?

def HandlerCall.last? (calls : List (HandlerCall σ)) (x : Delegate σ) : Option (HandlerCall σ) :=
  (calls.filter fun c => c.delegate.serial == x.serial).getLast?

/-- None of the calls did the work of the delegate. -/
def HandlerCall.undone (calls : List (HandlerCall σ)) (x : Delegate σ) : Bool :=
  !calls.any fun c => c.succeeded && c.delegate.serial == x.serial

/-- After the calls, the summary tells the truth about the entry that had the delegates. -/
structure Truthful (calls : List (HandlerCall σ)) (s : EntrySummary) (found : List (Delegate σ)) :
    Prop where
  stalled_iff : s.state = .stalled ↔ s.pending ≠ []
  complete_iff : s.state = .complete ↔ s.pending = [] ∧ found ≠ []
  pending_iff : s.state = .pending ↔ found = []
  not_retrying : s.state ≠ .retrying
  /-- The pending keys are those of the owners of what was never done, as it was found. -/
  pending : s.pending.map .ok =
    (found.filter (HandlerCall.undone calls)).map fun x => x.declaration.ownerKey
  /-- The errors are the failures of the last calls of the same, and tell what they are about. -/
  errors : List.Forall₂
    (fun x f => (HandlerCall.last? calls x).bind HandlerCall.failure? = some f ∧ f.key.isSome)
    (found.filter (HandlerCall.undone calls)) s.errors

theorem HandlerCall.lastCall?_toCall (calls : List (HandlerCall σ)) (x : Delegate σ) :
    lastCall? (calls.map toCall) x = (last? calls x).map toCall := by
  rw [lastCall?, List.filter_map, List.getLast?_map]
  rfl

theorem HandlerCall.undone_eq (calls : List (HandlerCall σ)) (x : Delegate σ) :
    undone calls x = !Entry.isDone (calls.map toCall) x := by
  rw [undone, Entry.isDone, List.any_map]
  rfl

/-- The summary of an entry at rest that answers for its queue is the truth. -/
theorem truthful_ofEntry {calls : List (HandlerCall σ)} {found : List (Delegate σ)}
    {entry : Entry (Delegate σ)}
    (tallied : Entry.Tallied found (calls.map HandlerCall.toCall) entry)
    (atRest : AtRest found entry) (owned : ∀ x ∈ found, x.Owned)
    (answered : ∀ d ∈ entry.queue, ∃ c f, lastCall? (calls.map HandlerCall.toCall) d = some c ∧
      c.failure? = some f ∧ f.key.isSome ∧ entry.failureOf? d.serial = some f) :
    Truthful calls (EntrySummary.ofEntry entry) found := by
  have queue : found.filter (HandlerCall.undone calls) = entry.queue := by
    rw [tallied.queue_eq]
    exact List.filter_congr fun x _ => HandlerCall.undone_eq calls x
  have keys : entry.pendingKeys = [] ↔ entry.queue = [] := List.map_eq_nil_iff
  obtain ⟨stalled, complete, pending, retrying⟩ := atRest.state_iff fun none => by
    rw [tallied.queue_eq, none]
    rfl
  refine
    { stalled_iff := stalled.trans (not_congr keys).symm
      complete_iff := complete.trans (and_congr_left' keys).symm
      pending_iff := pending, not_retrying := retrying, pending := ?_, errors := ?_ }
  · rw [queue]
    show (entry.queue.map Delegate.key).map Except.ok = _
    rw [List.map_map]
    refine List.map_congr_left fun x queued => ?_
    exact (owned x (tallied.mem_queue.1 queued).1).ownerKey.symm
  · rw [queue]
    refine Entry.errors_forall₂ fun x queued => ?_
    obtain ⟨c, f, last, leaves, hasKey, remembered⟩ := answered x queued
    rw [HandlerCall.lastCall?_toCall] at last
    obtain ⟨call, isLast, rfl⟩ := Option.map_eq_some_iff.1 last
    refine ⟨f, remembered, ?_, hasKey⟩
    rw [isLast]
    exact leaves

namespace Performed

variable {r : Run σ} {report : Report} {plan : Plan σ} {e e' : Engine σ}
  {first later : List (HandlerCall σ)} {n : Nat}

/-- The calls of the ordered pass are of what was discovered, and of all of it. -/
theorem mem_works (h : Performed r report plan e e' first later n) {d : Delegate σ} :
    d ∈ (first.map HandlerCall.toCall).map Entry.Call.work ↔ d ∈ r.discovered := by
  rw [List.map_map]
  exact h.works_perm.mem_iff

theorem works_within (h : Performed r report plan e e' first later n) :
    ∀ c ∈ first.map HandlerCall.toCall, c.work ∈ r.discovered :=
  fun _ member => h.mem_works.1 (List.mem_map_of_mem member)

theorem answered (h : Performed r report plan e e' first later n) :
    Engine.Answered (r.calls.map HandlerCall.toCall) e' := by
  have regular : ∀ c ∈ first ++ later, c.toCall.Regular := fun c member =>
    h.regular c (h.calls ▸ member)
  have start := h.planned.answered_first h.works_within (fun d member => h.mem_works.2 member)
    fun c member => by
      obtain ⟨call, isFirst, rfl⟩ := List.mem_map.1 member
      exact regular call (List.mem_append_left later isFirst)
  rw [h.calls, List.map_append]
  refine h.rounds.answered h.planned.homes h.ledger_first.1 (fun c member => ?_) start
  obtain ⟨call, isLater, rfl⟩ := List.mem_map.1 member
  exact regular call (List.mem_append_right first isLater)

theorem atRest (h : Performed r report plan e e' first later n)
    (limited : r.engine.settings.maxRounds.toNat ≠ 0) :
    Engine.Everywhere r.queues AtRest e' :=
  h.rounds.atRest h.planned.homes h.ledger_first.1 (h.planned.closes_first h.works_within)
    fun none => absurd none limited

end Performed

/-- **Every summary of a report tells the truth about its entry.** -/
theorem Run.Returns.truthful {r : Run σ} {report : Report} (returns : r.Returns report)
    (accepted : r.engine.settings.checked = .ok r.engine.settings) :
    List.Forall₂ (Truthful r.calls) report.entries r.queues := by
  obtain ⟨plan, e, e', first, later, n, h⟩ := returns.performed
  have limited := Settings.one_le_maxRounds accepted
  obtain ⟨ledger, -⟩ := h.ledger
  rw [h.entries_eq, List.forall₂_map_left_iff]
  refine ledger.forall₂ fun i s q there found => ?_
  refine truthful_ofEntry (ledger.tallied i s q there found) (h.atRest (by omega) i s q there found)
    (fun x member => ?_) (h.answered i s there)
  exact h.planned.owned x (Engine.mem_flatten found member)

/-- What was made after a retry is reported as complete, what waits in vain as stalled, and what
never had anything to do as pending. -/
theorem Sample.waiting_reported :
    ∃ report : Report,
      report.entries.map EntrySummary.state = [.complete, .stalled, .stalled, .pending] ∧
      List.Forall₂ (Truthful Sample.waiting.calls) report.entries Sample.waiting.queues := by
  have told : Sample.waiting.passes (fun report =>
      report.entries.map EntrySummary.state == [.complete, .stalled, .stalled, .pending]) = true := by
    decide +kernel
  obtain ⟨report, returns, shown⟩ := Run.returns_of_passes told
  exact ⟨report, beq_iff_eq.1 shown, returns.truthful (by decide +kernel)⟩

end Marking
