/-
# Marking.Proofs.Engine.Rounds -- how many rounds there are, and why they stop

`Run.upTo n` is the run cut off after `n` rounds.  It is what a round is counted against: a run
that made `n` rounds is the run cut off there (`retry_enough`), and before its last round it
stood where the run that is cut off one round earlier ends (`retry_before`).

Handlers may answer as they like, and another way each time they are called.  A round without
progress is the last one, and every other one leaves less work, so the work pending after the
ordered pass bounds the rounds; a run over a queue makes one pass more than it has passes that
shorten it, which bounds the passes of an entry (`Retried`).
-/
import Marking.Proofs.Engine.Interruption
import Marking.Proofs.Engine.Stations

set_option autoImplicit false

namespace Marking

open Entry (isDone)

variable {σ : Type}

namespace Engine

variable {τ : Type} {process : Entry.Process τ (Delegate σ)} {e e' mid : Engine σ}
  {w w' next : World τ}

/-! ## Cutting rounds off -/

theorem retry_finished (none : e.unfinished = []) (limit rounds : Nat) :
    retry process limit rounds e w = (.ok rounds, e, w) := by
  cases limit with
  | zero => rfl
  | succ limit => rw [retry, none]

/-- A round and what comes after it, whatever the limit. -/
theorem retry_round {progress : Bool} (some : e.unfinished ≠ [])
    (ran : retryAt process e.unfinished e w = (.ok progress, mid, next)) (rounds : Nat) :
    ∃ noted, ∀ limit, retry process (limit + 1) rounds e w =
      if progress then retry process limit (rounds + 1) mid noted
      else (.ok (rounds + 1), mid, noted) := by
  refine ⟨next.note [.debug source ("Retry round " ++ toString (rounds + 1) ++ ": progress=" ++
    boolText progress)], fun limit => ?_⟩
  rw [retry]
  cases left : e.unfinished with
  | nil => exact absurd left some
  | cons i is =>
      rw [left] at ran
      simp only [ran]

/-- Rounds that do not fail: there is nothing to do, or a round is made. -/
theorem retry_succ_ok {limit rounds total : Nat}
    (ok : retry process (limit + 1) rounds e w = (.ok total, e', w')) :
    e.unfinished = [] ∨ e.unfinished ≠ [] ∧
      ∃ progress mid next, retryAt process e.unfinished e w = (.ok progress, mid, next) := by
  by_cases none : e.unfinished = []
  · exact Or.inl none
  · refine Or.inr ⟨none, ?_⟩
    rw [retry] at ok
    cases left : e.unfinished with
    | nil => exact absurd left none
    | cons i is =>
        rw [left] at ok
        cases ran : retryAt process (i :: is) e w with
        | mk result rest =>
            obtain ⟨mid, next⟩ := rest
            cases result with
            | ok progress => exact ⟨progress, mid, next, rfl⟩
            | error f =>
                simp only [ran] at ok
                cases ok

/-- The rounds that were made are limit enough. -/
theorem retry_enough {limit rounds total : Nat}
    (ok : retry process limit rounds e w = (.ok total, e', w')) :
    ∃ n, n ≤ limit ∧ total = rounds + n ∧
      retry process n rounds e w = (.ok total, e', w') := by
  induction limit generalizing rounds e w with
  | zero =>
      cases ok
      exact ⟨0, Nat.le_refl 0, rfl, rfl⟩
  | succ limit ih =>
      rcases retry_succ_ok ok with none | ⟨some, progress, mid, next, ran⟩
      · rw [retry_finished none] at ok
        cases ok
        exact ⟨0, Nat.zero_le _, rfl, rfl⟩
      · obtain ⟨noted, goesOn⟩ := retry_round some ran rounds
        rw [goesOn] at ok
        cases progress with
        | false =>
            cases ok
            exact ⟨1, by omega, rfl, goesOn 0⟩
        | true =>
            obtain ⟨n, less, sum, same⟩ := ih ok
            exact ⟨n + 1, by omega, by omega, (goesOn n).trans same⟩

/-- Before any of its rounds a run stands where the run that is cut off there ends. -/
theorem retry_before {limit rounds n m : Nat} (less : m < n)
    (ok : retry process limit rounds e w = (.ok (rounds + n), e', w')) :
    ∃ mid next, retry process m rounds e w = (.ok (rounds + m), mid, next) ∧
      retry process (limit - m) (rounds + m) mid next = (.ok (rounds + n), e', w') := by
  induction m generalizing limit rounds n e w with
  | zero => exact ⟨e, w, rfl, ok⟩
  | succ m ih =>
      cases limit with
      | zero =>
          obtain ⟨k, small, sum, -⟩ := retry_enough ok
          omega
      | succ limit =>
          rcases retry_succ_ok ok with none | ⟨some, progress, mid, next, ran⟩
          · rw [retry_finished none] at ok
            have count : rounds = rounds + n := Except.ok.inj (congrArg Prod.fst ok)
            omega
          · obtain ⟨noted, goesOn⟩ := retry_round some ran rounds
            rw [goesOn] at ok
            cases progress with
            | false =>
                have count : rounds + 1 = rounds + n := Except.ok.inj (congrArg Prod.fst ok)
                omega
            | true =>
                have shift : rounds + n = rounds + 1 + (n - 1) := by omega
                rw [shift] at ok ⊢
                obtain ⟨last, final, before, after⟩ := ih (by omega) ok
                have more : rounds + 1 + m = rounds + (m + 1) := by omega
                rw [more] at before after
                have fewer : limit + 1 - (m + 1) = limit - m := by omega
                rw [fewer]
                exact ⟨last, final, (goesOn m).trans before, after⟩

/-! ## Counting -/

variable {queues : List (List (Delegate σ))} {before cs : List (Call σ)} {is : List Nat} {b : Bool}
  {limit n : Nat}

theorem Rounds.le_limit (rounds : Rounds limit e cs e' n) : n ≤ limit := by
  induction rounds with
  | out => exact Nat.le_refl 0
  | finished _ => exact Nat.zero_le _
  | stalled _ _ => omega
  | again _ _ _ ih => omega

/-- There is a round when there is something to do and a round is allowed. -/
theorem Rounds.eq_zero_iff (rounds : Rounds limit e cs e' n) :
    n = 0 ↔ limit = 0 ∨ e.unfinished = [] := by
  cases rounds with
  | out => simp
  | finished none => simp [none]
  | stalled some _ => simp [some]
  | again some _ _ => simp [some]

/-- Every round but the last leaves less, and the last one has something to do. -/
theorem Rounds.le_left (rounds : Rounds limit e cs e' n) (homes : Homes queues)
    (h : Ledger queues before e) : n ≤ (left queues before).length := by
  induction rounds generalizing before with
  | out => exact Nat.zero_le _
  | finished _ => exact Nat.zero_le _
  | stalled some _ =>
      refine List.length_pos_iff.2 fun none => some ?_
      exact (h.unfinished_eq_nil homes).2 none
  | again _ round _ ih =>
      have less := round.progress homes h
      have rest := ih (round.ledger homes h).1
      omega

/-- After a single round nothing is left, or no other one is allowed, or everything left was
called in it and failed. -/
theorem Rounds.single (rounds : Rounds limit e cs e' 1) (homes : Homes queues)
    (h : Ledger queues before e) :
    left queues (before ++ cs) = [] ∨ limit = 1 ∨
      (∀ c ∈ cs, c.succeeded = false) ∧
        ∀ d ∈ left queues (before ++ cs), d ∈ cs.map Entry.Call.work := by
  cases rounds with
  | stalled _ round =>
      obtain ⟨failed, called⟩ := round.stalled homes h
      refine Or.inr (Or.inr ⟨failed, fun d member => ?_⟩)
      have pending := (left_sublist queues before cs).subset member
      obtain ⟨i, s, there, queued⟩ := (h.mem_left_iff homes).1 pending
      exact called i (mem_unfinished.2 ⟨s, there, List.ne_nil_of_mem queued⟩) s there d queued
  | again _ round rest =>
      cases rest with
      | out => exact Or.inr (Or.inl rfl)
      | finished none =>
          refine Or.inl ?_
          rw [List.append_nil]
          exact ((round.ledger homes h).1.unfinished_eq_nil homes).1 none

/-- A round adds one pass to those that shorten the queue. -/
theorem Round.passes_le (round : Round is e cs e' b) (homes : Homes queues)
    (h : Ledger queues before e) (nodup : is.Nodup) {i : Nat} {s s' : Station σ}
    (there : e.stations[i]? = some s) (there' : e'.stations[i]? = some s') :
    s'.entry.passes + s'.entry.queue.length ≤ s.entry.passes + s.entry.queue.length + 1 := by
  by_cases here : i ∈ is
  · obtain ⟨mid, retries, visited⟩ := round.visited homes h nodup here there
    rw [visited] at there'
    cases there'
    exact retries.passes_le
  · rw [round.elsewhere here, there] at there'
    cases there'
    exact Nat.le_succ _

theorem Rounds.passes_le (rounds : Rounds limit e cs e' n) (homes : Homes queues)
    (h : Ledger queues before e) {i : Nat} {s s' : Station σ}
    (there : e.stations[i]? = some s) (there' : e'.stations[i]? = some s') :
    s'.entry.passes + s'.entry.queue.length ≤ s.entry.passes + s.entry.queue.length + n := by
  induction rounds generalizing before s with
  | out =>
      rw [there] at there'
      cases there'
      exact Nat.le_refl _
  | finished _ =>
      rw [there] at there'
      cases there'
      exact Nat.le_refl _
  | stalled _ round => exact round.passes_le homes h (unfinished_nodup _) there there'
  | @again limit n e mid e' cs rest _ round others ih =>
      obtain ⟨inside, -⟩ := List.getElem?_eq_some_iff.1 there
      have found := List.getElem?_eq_getElem (round.length.symm ▸ inside)
      have once := round.passes_le homes h (unfinished_nodup _) there found
      have more := ih (round.ledger homes h).1 found there'
      omega

end Engine

/-! ## Runs -/

namespace Run

/-- The run cut off after its ordered pass and `n` rounds, with the handlers recording their
calls. -/
def upTo (r : Run σ) (n : Nat) : Engine.StepIn (Recorded σ) σ Nat :=
  match r.ordered with
  | (.error f, e, w) => (.error f, e, w)
  | (.ok (), e, w) => Engine.retry (Engine.recordedWork r.context) n 0 e w

def callsUpTo (r : Run σ) (n : Nat) : List (HandlerCall σ) := (r.upTo n).2.2.own.2

def callsAfter (r : Run σ) (n : Nat) : List (HandlerCall σ) := r.calls.drop (r.callsUpTo n).length

/-- The delegates pending after the ordered pass and the first `n` rounds. -/
def pendingAfter (r : Run σ) (n : Nat) : List (Delegate σ) :=
  (r.upTo n).2.1.stations.flatMap fun s => s.entry.queue

def remaining (r : Run σ) : List (Delegate σ) :=
  r.finished.stations.flatMap fun s => s.entry.queue

end Run

/-- What the retrying of a run that returns the report has to do with its rounds. -/
structure Retried (r : Run σ) (report : Report) : Prop where
  /-- Cut off after any of its rounds, the run has made just these. -/
  rounds_upTo : ∀ n ≤ report.rounds, (r.upTo n).1 = .ok n
  /-- Its calls up to there are the first calls of the run. -/
  calls_eq : ∀ n ≤ report.rounds, r.calls = r.callsUpTo n ++ r.callsAfter n
  /-- Both the limit and the work pending after the ordered pass bound the rounds. -/
  rounds_le : report.rounds ≤ min r.engine.settings.maxRounds.toNat (r.pendingAfter 0).length
  /-- There is a round when something is pending after the ordered pass. -/
  rounds_eq_zero_iff : report.rounds = 0 ↔ r.pendingAfter 0 = []
  /-- An entry makes one pass in a round, and one more for every success while retrying. -/
  passes_le : List.Forall₂
    (fun s q => s.passes ≤
      q.countP (isDone ((r.callsAfter 0).map HandlerCall.toCall)) + report.rounds)
    report.entries r.queues
  /-- When work is pending at the end, the limit is reached, or all that is pending was called in
  the last round and nothing succeeded there. -/
  stops : r.remaining ≠ [] → (report.rounds : Int) = r.engine.settings.maxRounds ∨
    (∀ c ∈ r.callsAfter (report.rounds - 1), c.succeeded = false) ∧
      ∀ x ∈ r.remaining, x ∈ (r.callsAfter (report.rounds - 1)).map HandlerCall.delegate

/-- What is not done before is done after, or not done at all. -/
theorem Engine.countP_le_add {α : Type} (old new : α → Bool) (xs : List α) :
    xs.countP (fun x => !old x) ≤ xs.countP (fun x => !(old x || new x)) + xs.countP new := by
  induction xs with
  | nil => exact Nat.le_refl 0
  | cons x xs ih =>
      have here : (if !old x then 1 else 0) ≤
          (if !(old x || new x) then 1 else 0) + if new x then 1 else 0 := by
        cases old x <;> cases new x <;> decide
      rw [List.countP_cons, List.countP_cons, List.countP_cons]
      omega

namespace Performed

variable {r : Run σ} {report : Report} {plan : Plan σ} {e e' : Engine σ}
  {first later : List (HandlerCall σ)} {n : Nat}

theorem remaining_eq (h : Performed r report plan e e' first later n) :
    r.remaining = Engine.left r.queues (r.calls.map HandlerCall.toCall) := by
  rw [Run.remaining, h.finished, h.ledger.1.queues_eq]

theorem passes_le (h : Performed r report plan e e' first later n) :
    List.Forall₂ (fun s q => s.passes ≤ q.countP (isDone (later.map HandlerCall.toCall)) + n)
      report.entries r.queues := by
  obtain ⟨begun, -⟩ := h.ledger_first
  rw [h.entries_eq, List.forall₂_map_left_iff]
  refine h.ledger.1.forall₂ fun i s' q there' found => ?_
  obtain ⟨s, there, tallied⟩ := begun.station_at found
  have bound := h.rounds.passes_le h.planned.homes begun there there'
  have none : s.entry.passes = 0 := by
    rw [Engine.station_settleAll] at there
    obtain ⟨t, old, rfl⟩ := Option.map_eq_some_iff.1 there
    rw [Entry.passes_settleAll, h.planned.isNew t (List.mem_of_getElem? old)]
  have ended := h.ledger.1.tallied i s' q there' found
  rw [h.calls, List.map_append] at ended
  rw [none, tallied.queue_eq, ended.queue_eq, ← List.countP_eq_length_filter,
    ← List.countP_eq_length_filter] at bound
  have parts := Engine.countP_le_add (isDone (first.map HandlerCall.toCall))
    (isDone (later.map HandlerCall.toCall)) q
  simp only [Entry.isDone_append] at bound
  show s'.entry.passes ≤ _
  omega

end Performed

theorem Run.callsAfter_eq {r : Run σ} {m : Nat} {rest : List (HandlerCall σ)}
    (split : r.calls = r.callsUpTo m ++ rest) : r.callsAfter m = rest := by
  rw [Run.callsAfter, split, List.drop_left]

namespace Retrying

variable {r : Run σ} {report : Report} {plan : Plan σ} {e e' : Engine σ}
  {first : List (HandlerCall σ)} {w w' : World (Recorded σ)} {m n : Nat}

theorem upTo_eq (h : Retrying r report plan e first w e' w' n) (m : Nat) :
    r.upTo m = Engine.retry (Engine.recordedWork r.context) m 0
      (e.settleAll (first.map HandlerCall.toCall)) w := by
  rw [Run.upTo, h.ordered.ordered]

/-- The run is the run cut off after its rounds. -/
theorem upTo_rounds (h : Retrying r report plan e first w e' w' n) :
    r.upTo n = (.ok n, e', w') := by
  obtain ⟨k, -, total, same⟩ := Engine.retry_enough h.retried
  obtain rfl : n = k := by omega
  rw [h.upTo_eq, same]

/-- The run cut off after fewer rounds, and taken up again. -/
theorem cut (h : Retrying r report plan e first w e' w' n) (less : m < n) :
    ∃ mid next early later, r.upTo m = (.ok m, mid, next) ∧ next.own.2 = first ++ early ∧
      r.calls = first ++ early ++ later ∧
      Engine.Rounds m (e.settleAll (first.map HandlerCall.toCall))
        (early.map HandlerCall.toCall) mid m ∧
      Engine.Rounds (r.engine.settings.maxRounds.toNat - m) mid (later.map HandlerCall.toCall) e'
        (n - m) := by
  have logs := recordedWork_logs (σ := σ) r.context
  have retried := h.retried
  rw [← Nat.zero_add n] at retried
  obtain ⟨mid, next, before, after⟩ := Engine.retry_before less retried
  obtain ⟨cs, k, logged, rounds, count⟩ := Engine.retry_spec logs before
  obtain ⟨ds, l, loggedLast, roundsLast, countLast⟩ := Engine.retry_spec logs after
  obtain ⟨early, record, rfl⟩ := Engine.recorded_of_logged logged
  obtain ⟨later, recordLast, rfl⟩ := Engine.recorded_of_logged loggedLast
  obtain rfl : m = k := by omega
  obtain rfl : l = n - m := by omega
  rw [Nat.zero_add] at before
  refine ⟨mid, next, early, later, (h.upTo_eq m).trans before, ?_, ?_, rounds, roundsLast⟩
  · rw [record, h.ordered.record]
  · rw [h.calls, recordLast, record, h.ordered.record]

/-- Up to any of its rounds the run makes the calls of the run that is cut off there. -/
theorem upTo_calls (h : Retrying r report plan e first w e' w' n) (bound : m ≤ n) :
    (r.upTo m).1 = .ok m ∧ ∃ rest, r.calls = r.callsUpTo m ++ rest := by
  rcases Nat.lt_or_eq_of_le bound with less | rfl
  · obtain ⟨mid, next, early, rest, upTo, record, split, -⟩ := h.cut less
    rw [Run.callsUpTo, upTo]
    exact ⟨rfl, rest, by rw [split, record]⟩
  · rw [Run.callsUpTo, h.upTo_rounds]
    exact ⟨rfl, [], by rw [h.calls, List.append_nil]⟩

/-- The last round of a run that leaves work and is not at its limit. -/
theorem stops (h : Retrying r report plan e first w e' w' n) (some : n ≠ 0)
    (leaves : r.remaining ≠ []) :
    n = r.engine.settings.maxRounds.toNat ∨
      (∀ c ∈ r.callsAfter (n - 1), c.succeeded = false) ∧
        ∀ x ∈ r.remaining, x ∈ (r.callsAfter (n - 1)).map HandlerCall.delegate := by
  obtain ⟨later, performed⟩ := h.performed
  obtain ⟨mid, next, early, last, upTo, record, split, before, single⟩ :=
    h.cut (m := n - 1) (by omega)
  have homes := h.ordered.planned.homes
  obtain ⟨ledger, -⟩ := before.ledger homes performed.ledger_first.1
  have calls : r.callsAfter (n - 1) = last := by
    refine Run.callsAfter_eq ?_
    rw [Run.callsUpTo, upTo, split, record]
  have one : n - (n - 1) = 1 := by omega
  rw [one] at single
  have left : r.remaining = Engine.left r.queues (first.map HandlerCall.toCall ++
      early.map HandlerCall.toCall ++ last.map HandlerCall.toCall) := by
    rw [performed.remaining_eq, split, List.map_append, List.map_append]
  rw [left] at leaves ⊢
  rcases single.single homes ledger with none | limit | ⟨failed, called⟩
  · exact absurd none leaves
  · have bound := performed.rounds.le_limit
    exact Or.inl (by omega)
  · refine Or.inr ⟨fun c member => ?_, fun x member => ?_⟩
    · rw [calls] at member
      exact failed c.toCall (List.mem_map_of_mem member)
    · have inLast := called x member
      rw [List.map_map] at inLast
      rw [calls]
      exact inLast

end Retrying

/-- The rounds of a run that returns are bounded and stop for a reason. -/
theorem Run.Returns.retried {r : Run σ} {report : Report} (returns : r.Returns report)
    (accepted : r.engine.settings.checked = .ok r.engine.settings) : Retried r report := by
  obtain ⟨plan, e, first, w, e', w', n, h⟩ := returns.retrying
  obtain ⟨later, performed⟩ := h.performed
  have limited := Settings.one_le_maxRounds accepted
  have homes := h.ordered.planned.homes
  obtain ⟨begun, -⟩ := performed.ledger_first
  have rounds : report.rounds = n := by
    rw [h.report_eq]
    rfl
  have start : r.upTo 0 = (.ok 0, e.settleAll (first.map HandlerCall.toCall), w) := h.upTo_eq 0
  have pending : r.pendingAfter 0 = Engine.left r.queues (first.map HandlerCall.toCall) := by
    rw [Run.pendingAfter, start, begun.queues_eq]
  have calls : r.callsAfter 0 = later := by
    refine Run.callsAfter_eq ?_
    rw [Run.callsUpTo, start, h.ordered.record, performed.calls]
  have none_iff : n = 0 ↔ r.pendingAfter 0 = [] := by
    rw [pending, ← begun.unfinished_eq_nil homes]
    have allowed : r.engine.settings.maxRounds.toNat ≠ 0 := by omega
    exact performed.rounds.eq_zero_iff.trans (or_iff_right allowed)
  refine
    { rounds_upTo := fun m bound => (h.upTo_calls (rounds ▸ bound)).1
      calls_eq := fun m bound => ?_, rounds_le := ?_, rounds_eq_zero_iff := rounds.symm ▸ none_iff
      passes_le := ?_, stops := fun leaves => ?_ }
  · obtain ⟨rest, split⟩ := (h.upTo_calls (rounds ▸ bound)).2
    rw [callsAfter_eq split, split]
  · rw [rounds, pending]
    exact Nat.le_min.2 ⟨performed.rounds.le_limit, performed.rounds.le_left homes begun⟩
  · rw [rounds, calls]
    exact performed.passes_le
  · have some : n ≠ 0 := by
      intro none
      have nothing : r.remaining.Sublist (r.pendingAfter 0) := by
        rw [performed.remaining_eq, pending, performed.calls, List.map_append]
        exact Engine.left_sublist _ _ _
      rw [none_iff.1 none] at nothing
      exact leaves (List.sublist_nil.1 nothing)
    rw [rounds]
    refine (h.stops some leaves).imp_left fun limit => ?_
    omega

/-- **Retrying ends, within bounds and for a reason**, whatever the handlers answer; only a call
that fails for good keeps a run from its report. -/
theorem Run.Starts.retrying_ends {r : Run σ} (starts : r.Starts)
    (accepted : r.engine.settings.checked = .ok r.engine.settings) :
    (∃ report, r.Returns report ∧ Retried r report) ∨
      ∃ f, r.Fails f ∧ ∃ c ∈ r.calls, c.result = .error f ∧ ∀ g, f ≠ .injection g := by
  refine starts.returns_or_interrupted.imp_left ?_
  rintro ⟨report, returns⟩
  exact ⟨report, returns, returns.retried accepted⟩

/-- What waited for `base` is made in the first round; the second one is in vain, and what no
handler accepts is left. -/
theorem Sample.waiting_ends :
    Sample.waiting.calls.length = 9 ∧ Sample.waiting.remaining.length = 2 ∧
      ∃ report, report.rounds = 2 ∧ Retried Sample.waiting report := by
  have done : Sample.waiting.passes (fun report => report.rounds == 2) = true := by decide +kernel
  obtain ⟨report, returns, once⟩ := Run.returns_of_passes done
  refine ⟨by decide +kernel, by decide +kernel, report, beq_iff_eq.1 once, ?_⟩
  rcases returns.starts.retrying_ends (by decide +kernel) with ⟨report', returns', retried⟩ | fails
  · have same : report = report' := Except.ok.inj (returns.symm.trans returns')
    exact same ▸ retried
  · obtain ⟨f, fails, -⟩ := fails
    cases returns.symm.trans fails

end Marking
