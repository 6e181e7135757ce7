/-
# Marking.Proofs.Entry.History -- what happened to an entry so far

The history of an entry has an event for every piece of work that was added, for every beginning
of a run over the queue, and for every call, together with the work that the call queued.  What
was ever added, the calls, and the calls that were completed since the last run began are read
off it.

`Kept h e` is the invariant that ties an entry to its history.  Each kind of event keeps it as
long as the work of the history is distinct; a call is of work that is queued.
-/
import Marking.Proofs.Discovery.Enlisting
import Marking.Proofs.Entry.Failures

set_option autoImplicit false

namespace Marking.Entry

variable {δ : Type}

/-! ## Histories -/

inductive Event (δ : Type) where
  | added (d : δ)
  /-- A run over the queue begins. -/
  | begun
  /-- Work was processed, and queued more work meanwhile. -/
  | called (c : Call δ) (queued : List δ)

abbrev History (δ : Type) := List (Event δ)

/-- The call came to an end, in success or in a failure that is remembered. -/
def Call.completed (c : Call δ) : Bool :=
  match c.result with
  | .ok _ => true
  | .error (.injection _) => true
  | .error _ => false

def Event.work : Event δ → List δ
  | added d => [d]
  | begun => []
  | called _ queued => queued

def Event.call? : Event δ → Option (Call δ)
  | called c _ => some c
  | _ => none

namespace History

def added (h : History δ) : List δ := h.flatMap Event.work

def calls (h : History δ) : List (Call δ) := h.filterMap Event.call?

/-- The completed calls after an event, from those before it. -/
def renew (cs : List (Call δ)) : Event δ → List (Call δ)
  | .added _ => cs
  | .begun => []
  | .called c _ => if c.completed then cs ++ [c] else cs

/-- The completed calls since the last run over the queue began, or ever when none did. -/
def recent (h : History δ) : List (Call δ) := h.foldl renew []

variable (h : History δ)

theorem added_snoc (v : Event δ) : added (h ++ [v]) = h.added ++ v.work := by
  simp [added]

theorem calls_snoc (v : Event δ) : calls (h ++ [v]) = h.calls ++ v.call?.toList := by
  cases call : v.call? <;> simp [calls, call]

theorem recent_snoc (v : Event δ) : recent (h ++ [v]) = renew h.recent v := by
  simp [recent]

/-- What was completed recently was called. -/
theorem recent_subset : h.recent ⊆ h.calls := by
  induction h using List.reverseRecOn with
  | nil => exact List.Subset.refl _
  | append_singleton h v ih =>
      rw [recent_snoc, calls_snoc]
      cases v with
      | added d => exact fun c member => List.mem_append_left _ (ih member)
      | begun => exact fun c member => nomatch member
      | called c queued =>
          intro x member
          rw [renew] at member
          split at member
          · rcases List.mem_append.1 member with earlier | last
            · exact List.mem_append_left _ (ih earlier)
            · exact List.mem_append_right _ last
          · exact List.mem_append_left _ (ih member)

theorem completed_of_recent {c : Call δ} (member : c ∈ h.recent) : c.completed = true := by
  induction h using List.reverseRecOn with
  | nil => cases member
  | append_singleton h v ih =>
      rw [recent_snoc] at member
      cases v with
      | added d => exact ih member
      | begun => cases member
      | called c' queued =>
          rw [renew] at member
          split at member
          · rcases List.mem_append.1 member with earlier | last
            · exact ih earlier
            · rwa [List.mem_singleton.1 last]
          · exact ih member

end History

theorem Call.regular_of_completed {c : Call δ} (completed : c.completed = true) : c.Regular := by
  intro f failed
  rw [Call.completed, failed] at completed
  cases f with
  | injection g => exact ⟨g, rfl⟩
  | _ => cases completed

variable [Work δ] {e e' : Entry δ} {h : History δ} {c : Call δ} {d : δ}

def wasCalled (cs : List (Call δ)) (d : δ) : Bool :=
  cs.any fun c => Work.serial c.work == Work.serial d

theorem isSome_lastCall? (cs : List (Call δ)) (d : δ) :
    (lastCall? cs d).isSome = wasCalled cs d := by
  rw [Bool.eq_iff_iff, lastCall?, List.getLast?_isSome, ne_eq, List.filter_eq_nil_iff, wasCalled,
    List.any_eq_true]
  simp

/-- The last call is one of the calls, and of the work. -/
theorem lastCall?_mem {cs : List (Call δ)} (last : lastCall? cs d = some c) :
    c ∈ cs ∧ Work.serial c.work = Work.serial d := by
  have member := List.mem_filter.1 (List.mem_of_getLast? last)
  exact ⟨member.1, beq_iff_eq.1 member.2⟩

/-! ## The invariant -/

/-- The entry is what its history made of it. -/
structure Kept (h : History δ) (e : Entry δ) : Prop where
  tallied : Tallied h.added h.calls e
  called : ∀ c ∈ h.calls, c.work ∈ h.added
  complete : e.state = .complete → e.queue = []
  remembered : ∀ d, e.failureOf? (Work.serial d) = (lastCall? h.recent d).bind Call.failure?

theorem kept_nil (m : MarkerType) : Kept ([] : History δ) { marker := m } where
  tallied := ⟨rfl, rfl⟩
  called _ member := nomatch member
  complete _ := rfl
  remembered _ := rfl

/-- The invariant does not see how many passes there were, nor what a run removed, nor the
state as long as it is not complete with work left. -/
theorem Kept.congr (kept : Kept h e) (queue : e'.queue = e.queue)
    (succeeded : e'.succeeded = e.succeeded) (failures : e'.failures = e.failures)
    (complete : e'.state = .complete → e.queue = []) : Kept h e' where
  tallied := kept.tallied.congr queue succeeded
  called := kept.called
  complete done := queue.trans (complete done)
  remembered d := by
    rw [← kept.remembered d, failureOf?, failureOf?, failures]

/-- A run over the queue begins. -/
theorem Kept.begin (kept : Kept h e) : Kept (h ++ [.begun]) { e with failures := [] } where
  tallied := by
    have tallied : Tallied h.added h.calls { e with failures := [] } := kept.tallied.congr rfl rfl
    rw [History.added_snoc, History.calls_snoc]
    simpa [Event.work, Event.call?] using tallied
  called := by
    rw [History.added_snoc, History.calls_snoc]
    simpa [Event.work, Event.call?] using kept.called
  complete := kept.complete
  remembered d := by
    rw [History.recent_snoc]
    rfl

/-! ### Adding work -/

theorem isDone_fresh {queue : List δ} {cs : List (Call δ)} (called : ∀ c ∈ cs, c.work ∈ queue)
    (fresh : ∀ x ∈ queue, Work.serial x ≠ Work.serial d) : isDone cs d = false := by
  rw [Bool.eq_false_iff]
  intro done
  obtain ⟨c, member, -, same⟩ := isDone_iff.1 done
  exact fresh c.work (called c member) same

/-- New work is queued at the end. -/
theorem Tallied.add {queue : List δ} {cs : List (Call δ)} (tallied : Tallied queue cs e)
    (fresh : isDone cs d = false) : Tallied (queue ++ [d]) cs (e.add d) where
  queue_eq := by
    show e.queue ++ [d] = _
    rw [List.filter_append, ← tallied.queue_eq]
    simp [fresh]
  succeeded_eq := by
    show e.succeeded = _
    rw [List.countP_append, ← tallied.succeeded_eq]
    simp [fresh]

omit [Work δ] in
theorem complete_add (e : Entry δ) (d : δ) : (e.add d).state ≠ .complete := by
  show (if e.state = .complete then EntryState.pending else e.state) ≠ .complete
  split
  · exact fun absurd' => nomatch absurd'
  · assumption

theorem Kept.add (kept : Kept h e) (distinct : ((h.added ++ [d]).map Work.serial).Nodup) :
    Kept (h ++ [.added d]) (e.add d) where
  tallied := by
    rw [History.added_snoc, History.calls_snoc]
    simp only [Event.work, Event.call?, Option.toList_none, List.append_nil]
    refine kept.tallied.add (isDone_fresh kept.called fun x member same => ?_)
    rw [List.map_append, List.nodup_append] at distinct
    exact distinct.2.2 _ (List.mem_map_of_mem member) _ (by simp) same
  called := by
    rw [History.added_snoc, History.calls_snoc]
    simp only [Event.call?, Option.toList_none, List.append_nil]
    exact fun c member => List.mem_append_left _ (kept.called c member)
  complete done := absurd done (complete_add e d)
  remembered x := by
    rw [History.recent_snoc]
    exact kept.remembered x

variable {ds : List δ}

theorem Tallied.addAll {queue : List δ} {cs : List (Call δ)} (tallied : Tallied queue cs e)
    (fresh : ∀ d ∈ ds, isDone cs d = false) : Tallied (queue ++ ds) cs (e.addAll ds) := by
  induction ds generalizing queue e with
  | nil => exact (List.append_nil queue).symm ▸ tallied
  | cons d ds ih =>
      rw [← List.singleton_append, ← List.append_assoc]
      exact ih (tallied.add (fresh d List.mem_cons_self)) fun x member =>
        fresh x (List.mem_cons_of_mem d member)

omit [Work δ] in
theorem complete_addAll (complete : e.state = .complete → e.queue = []) :
    (e.addAll ds).state = .complete → (e.addAll ds).queue = [] := by
  induction ds generalizing e with
  | nil => exact complete
  | cons d ds ih => exact ih fun done => absurd done (complete_add e d)

omit [Work δ] in
theorem failures_addAll (e : Entry δ) (ds : List δ) : (e.addAll ds).failures = e.failures := by
  induction ds generalizing e with
  | nil => rfl
  | cons d ds ih => exact ih (e.add d)

/-! ### Calls -/

theorem failureOf?_finish (e : Entry δ) (d : δ) :
    (e.finish d).failureOf? (Work.serial d) = none := by
  rw [failureOf?, List.lookup_eq_none_iff]
  intro p kept
  rw [bne_comm]
  exact (List.mem_filter.1 kept).2

/-- What is remembered about the work of a completed call is the failure of that call. -/
theorem failureOf?_settle_completed (e : Entry δ) (completed : c.completed = true) :
    (e.settle c).failureOf? (Work.serial c.work) = c.failure? := by
  cases leaves : c.failure? with
  | some f => exact failureOf?_settle_same e leaves
  | none =>
      obtain ⟨d, result⟩ := c
      cases result with
      | ok done =>
          cases done with
          | true => exact failureOf?_finish e d
          | false => cases leaves
      | error f =>
          cases f with
          | injection g => cases leaves
          | _ => cases completed

/-- A call that ends the run changes nothing. -/
theorem settle_of_not_completed (e : Entry δ) (ended : c.completed = false) : e.settle c = e := by
  obtain ⟨d, result⟩ := c
  cases result with
  | ok _ => cases ended
  | error f =>
      cases f with
      | injection g => cases ended
      | _ => rfl

theorem empty_settle (complete : e.state = .complete → e.queue = []) :
    (e.settle c).state = .complete → (e.settle c).queue = [] := by
  have finished : (e.finish c.work).state = .complete → (e.finish c.work).queue = [] := by
    intro done
    by_cases empty : (e.finish c.work).queue = []
    · exact empty
    · have before : e.state = .complete := by
        have left : (removeFirst (fun x => Work.serial x == Work.serial c.work) e.queue).isEmpty ≠
            true := fun none => empty (List.isEmpty_iff.1 none)
        rwa [finish, if_neg left] at done
      have sub : (e.finish c.work).queue.Sublist e.queue := removeFirst_sublist _ _
      rw [complete before] at sub
      exact List.sublist_nil.1 sub
  unfold settle
  split
  · exact finished
  · exact complete
  · exact complete
  · exact complete

/-- **A call of queued work keeps the invariant**, whatever it gives and whatever it queues. -/
theorem Kept.call (kept : Kept h e) (queued : c.work ∈ e.queue)
    (distinct : ((h.added ++ ds).map Work.serial).Nodup) :
    Kept (h ++ [.called c ds]) ((e.addAll ds).settle c) where
  tallied := by
    have fresh : ∀ d ∈ ds, isDone h.calls d = false := by
      intro d member
      refine isDone_fresh kept.called fun x earlier same => ?_
      rw [List.map_append, List.nodup_append] at distinct
      exact distinct.2.2 _ (List.mem_map_of_mem earlier) _ (List.mem_map_of_mem member) same
    have still : c.work ∈ (e.addAll ds).queue := by
      rw [queue_addAll]
      exact List.mem_append_left ds queued
    rw [History.added_snoc, History.calls_snoc]
    exact (kept.tallied.addAll fresh).settle distinct still
  called := by
    rw [History.added_snoc, History.calls_snoc]
    intro x member
    rcases List.mem_append.1 member with earlier | last
    · exact List.mem_append_left _ (kept.called x earlier)
    · rw [List.mem_singleton.1 last]
      exact List.mem_append_left _ (kept.tallied.mem_queue.1 queued).1
  complete := empty_settle (complete_addAll kept.complete)
  remembered d := by
    have before : (e.addAll ds).failureOf? (Work.serial d) =
        (lastCall? h.recent d).bind Call.failure? := by
      rw [← kept.remembered d, failureOf?, failureOf?, failures_addAll]
    rw [History.recent_snoc, History.renew]
    cases completed : c.completed with
    | false => rwa [settle_of_not_completed _ completed]
    | true =>
        by_cases same : Work.serial c.work = Work.serial d
        · rw [if_pos rfl, lastCall?_same _ same, ← same, failureOf?_settle_completed _ completed]
          rfl
        · rw [if_pos rfl, lastCall?_other _ same, failureOf?_settle_other _ same, before]

/-! ## What the invariant says -/

/-- What the history of an entry tells of its counters, its queue and its failures. -/
structure Coherent (h : History δ) (e : Entry δ) : Prop where
  /-- Success and what is left make up what was ever added. -/
  count : e.succeeded + e.queue.length = h.added.length
  /-- What was added is queued in that order, but for what succeeded. -/
  queue : e.queue = h.added.filter fun d => !isDone h.calls d
  complete : e.state = .complete → e.queue = []
  /-- The failed work is what is queued and was called lately. -/
  failed : e.failed = e.queue.filter (wasCalled h.recent)
  /-- Each error is the one of the last call of the failed work in its place. -/
  errors : List.Forall₂
    (fun d f => ∃ c, lastCall? h.recent d = some c ∧ c.failure? = some f ∧ f.key.isSome)
    e.failed e.errors

/-- Queued work that was called lately has a failure. -/
theorem Kept.failure (kept : Kept h e) (queued : d ∈ e.queue) (last : lastCall? h.recent d = some c) :
    ∃ f, c.failure? = some f ∧ f.key.isSome ∧ e.failureOf? (Work.serial d) = some f := by
  obtain ⟨member, same⟩ := lastCall?_mem last
  have unfinished : c.succeeded = false := by
    rw [Bool.eq_false_iff]
    intro succeeded
    have done := isDone_iff.2 ⟨c, h.recent_subset member, succeeded, same⟩
    rw [(kept.tallied.mem_queue.1 queued).2] at done
    cases done
  obtain ⟨f, leaves, hasKey⟩ := Call.exists_failure
    (Call.regular_of_completed (h.completed_of_recent member)) unfinished
  refine ⟨f, leaves, hasKey, ?_⟩
  rw [kept.remembered d, last]
  exact leaves

theorem Kept.isSome_failureOf? (kept : Kept h e) (queued : d ∈ e.queue) :
    (e.failureOf? (Work.serial d)).isSome = wasCalled h.recent d := by
  rw [← isSome_lastCall?]
  cases last : lastCall? h.recent d with
  | none =>
      rw [kept.remembered d, last]
      rfl
  | some c =>
      obtain ⟨f, -, -, found⟩ := kept.failure queued last
      rw [found]
      rfl

omit [Work δ] in
/-- The members that pass a test next to what is found for them. -/
theorem forall₂_filter_filterMap {α : Type} {R : δ → α → Prop} {find : δ → Option α} {ds : List δ}
    (each : ∀ d ∈ ds, ∀ a, find d = some a → R d a) :
    List.Forall₂ R (ds.filter fun d => (find d).isSome) (ds.filterMap find) := by
  induction ds with
  | nil => exact .nil
  | cons d ds ih =>
      have rest := ih fun x member => each x (List.mem_cons_of_mem d member)
      cases found : find d with
      | none =>
          rw [List.filterMap_cons_none found, List.filter_cons_of_neg (by simp [found])]
          exact rest
      | some a =>
          rw [List.filterMap_cons_some found, List.filter_cons_of_pos (by simp [found])]
          exact .cons (each d List.mem_cons_self a found) rest

/-- An entry that is what its history made of it agrees with its history. -/
theorem Kept.toCoherent (kept : Kept h e) : Coherent h e where
  count := kept.tallied.length_eq
  queue := kept.tallied.queue_eq
  complete := kept.complete
  failed := List.filter_congr fun d queued => kept.isSome_failureOf? queued
  errors := by
    refine forall₂_filter_filterMap fun d queued f found => ?_
    have called := kept.isSome_failureOf? queued
    rw [found, ← isSome_lastCall?] at called
    obtain ⟨c, last⟩ := Option.isSome_iff_exists.1 called.symm
    obtain ⟨f', leaves, hasKey, found'⟩ := kept.failure queued last
    rw [found] at found'
    cases found'
    exact ⟨c, last, leaves, hasKey⟩

end Marking.Entry
