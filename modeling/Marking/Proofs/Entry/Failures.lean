/-
# Marking.Proofs.Entry.Failures -- an entry answers for what it still holds

An entry remembers failures in a table by serial number, and forgets them all when a run over
its queue begins.  `Answers cs e` is the invariant that survives this: of queued work that was
called, the table has the failure of the last call.  Calls keep it (`Answers.settle`), and a run
over the queue restores it from nothing, because it calls everything that it leaves
(`Retries.answers`).

The state of an entry needs less: `Closes` says when it is pending or complete, and a run over
the queue leaves it `AtRest`.
-/
import Mathlib.Data.List.Forall2
import Marking.Proofs.Entry.Progress
import Marking.Proofs.Entry.Tally

set_option autoImplicit false

namespace Marking.Entry

variable {δ : Type} [Work δ]

/-! ## The last call -/

def Call.failure? (c : Call δ) : Option Failure :=
  match c.result with
  | .ok true => none
  | .ok false => some (notProcessed (Work.key c.work))
  | .error (.injection f) => some (f.withKey (Work.key c.work))
  | .error _ => none

def lastCall? (cs : List (Call δ)) (d : δ) : Option (Call δ) :=
  (cs.filter fun c => Work.serial c.work == Work.serial d).getLast?

variable {cs ds : List (Call δ)} {c : Call δ} {d : δ}

theorem lastCall?_append (cs ds : List (Call δ)) (d : δ) :
    lastCall? (cs ++ ds) d = (lastCall? ds d).or (lastCall? cs d) := by
  rw [lastCall?, List.filter_append, List.getLast?_append]
  rfl

theorem lastCall?_append_of_some (last : lastCall? ds d = some c) :
    lastCall? (cs ++ ds) d = some c := by
  rw [lastCall?_append, last, Option.some_or]

theorem lastCall?_append_of_none (last : lastCall? ds d = none) :
    lastCall? (cs ++ ds) d = lastCall? cs d := by
  rw [lastCall?_append, last, Option.none_or]

theorem lastCall?_same (cs : List (Call δ)) (same : Work.serial c.work = Work.serial d) :
    lastCall? (cs ++ [c]) d = some c := by
  refine lastCall?_append_of_some ?_
  simp [lastCall?, same]

theorem lastCall?_other (cs : List (Call δ)) (differ : Work.serial c.work ≠ Work.serial d) :
    lastCall? (cs ++ [c]) d = lastCall? cs d := by
  refine lastCall?_append_of_none ?_
  simp [lastCall?, differ]

/-- Work that was called has a last call. -/
theorem exists_lastCall (called : d ∈ cs.map Call.work) : ∃ c, lastCall? cs d = some c := by
  obtain ⟨c, member, rfl⟩ := List.mem_map.1 called
  have some : (cs.filter fun x => Work.serial x.work == Work.serial c.work) ≠ [] :=
    List.ne_nil_of_mem (List.mem_filter.2 ⟨member, beq_self_eq_true _⟩)
  exact ⟨_, List.getLast?_eq_getLast_of_ne_nil some⟩

/-- A call that failed for now leaves a failure with a key. -/
theorem Call.exists_failure (regular : c.Regular) (failed : c.succeeded = false) :
    ∃ f, c.failure? = some f ∧ f.key.isSome := by
  obtain ⟨work, result⟩ := c
  cases result with
  | ok done =>
      cases done with
      | true => cases failed
      | false => exact ⟨_, rfl, rfl⟩
  | error f =>
      obtain ⟨g, rfl⟩ := regular f rfl
      refine ⟨_, rfl, ?_⟩
      cases own : g.key <;> simp [Failure.withKey, own]

/-! ## The table of failures -/

omit [Work δ] in
theorem lookup_filter_ne {α : Type} (table : List (Nat × α)) {s t : Nat} (differ : t ≠ s) :
    (table.filter fun p => p.1 != s).lookup t = table.lookup t := by
  induction table with
  | nil => rfl
  | cons p table ih =>
      obtain ⟨n, a⟩ := p
      by_cases removed : n = s
      · have other : (t == n) = false := by
          rw [removed]
          exact beq_eq_false_iff_ne.2 differ
        simp [List.lookup_cons, removed, ih, removed ▸ other]
      · rw [List.filter_cons, if_pos (by simpa using removed), List.lookup_cons, List.lookup_cons, ih]

omit [Work δ] in
theorem failureOf?_remember_same (e : Entry δ) (s : Nat) (f : Failure) :
    (e.remember s f).failureOf? s = some f := by
  simp [failureOf?, remember]

omit [Work δ] in
theorem failureOf?_remember_other (e : Entry δ) {s t : Nat} (differ : t ≠ s) (f : Failure) :
    (e.remember s f).failureOf? t = e.failureOf? t := by
  have other : (t == s) = false := beq_eq_false_iff_ne.2 differ
  rw [failureOf?, remember, List.lookup_cons, other]
  exact lookup_filter_ne e.failures differ

theorem failureOf?_settle_other (e : Entry δ) (differ : Work.serial c.work ≠ Work.serial d) :
    (e.settle c).failureOf? (Work.serial d) = e.failureOf? (Work.serial d) := by
  unfold settle
  split
  · exact lookup_filter_ne e.failures differ.symm
  · exact failureOf?_remember_other e differ.symm _
  · exact failureOf?_remember_other e differ.symm _
  · rfl

/-- A call that leaves a failure has it remembered. -/
theorem failureOf?_settle_same (e : Entry δ) {f : Failure} (leaves : c.failure? = some f) :
    (e.settle c).failureOf? (Work.serial c.work) = some f := by
  obtain ⟨work, result⟩ := c
  cases result with
  | ok done =>
      cases done with
      | true => cases leaves
      | false =>
          cases leaves
          exact failureOf?_remember_same _ _ _
  | error g =>
      cases g with
      | injection g =>
          cases leaves
          exact failureOf?_remember_same _ _ _
      | _ => cases leaves

/-! ## What an entry answers for -/

/-- Of queued work that was called, the entry has the failure of the last call. -/
def Answers (cs : List (Call δ)) (e : Entry δ) : Prop :=
  ∀ d ∈ e.queue, ∀ c, lastCall? cs d = some c →
    ∃ f, c.failure? = some f ∧ f.key.isSome ∧ e.failureOf? (Work.serial d) = some f

variable {e e' : Entry δ}

theorem answers_nil (e : Entry δ) : Answers [] e := fun _ _ _ last => nomatch last

/-- Work that is queued after a call of it was not done by it. -/
theorem failed_of_queued (nodup : (e.queue.map Work.serial).Nodup)
    (queued : d ∈ (e.settle c).queue) (same : Work.serial c.work = Work.serial d) :
    c.succeeded = false := by
  rw [Bool.eq_false_iff]
  intro succeeded
  rw [queue_settle, if_pos succeeded, removeFirst_serial nodup, List.mem_filter] at queued
  simp [same] at queued

theorem Answers.settle (h : Answers cs e) (nodup : (e.queue.map Work.serial).Nodup)
    (regular : c.Regular) : Answers (cs ++ [c]) (e.settle c) := by
  intro d queued last isLast
  by_cases same : Work.serial c.work = Work.serial d
  · rw [lastCall?_same cs same] at isLast
    cases isLast
    obtain ⟨f, leaves, hasKey⟩ :=
      Call.exists_failure regular (failed_of_queued nodup queued same)
    exact ⟨f, leaves, hasKey, same ▸ failureOf?_settle_same e leaves⟩
  · rw [lastCall?_other cs same] at isLast
    rw [failureOf?_settle_other e same]
    exact h d ((queue_settle_sublist e c).subset queued) last isLast

theorem Answers.settleAll (h : Answers cs e) (nodup : (e.queue.map Work.serial).Nodup)
    (regular : ∀ c ∈ ds, c.Regular) : Answers (cs ++ ds) (e.settleAll ds) := by
  induction ds generalizing cs e with
  | nil => exact (List.append_nil cs).symm ▸ h
  | cons c ds ih =>
      have settled := h.settle nodup (regular c List.mem_cons_self)
      have sub := (queue_settle_sublist e c).map Work.serial
      rw [← List.singleton_append, ← List.append_assoc]
      exact ih settled (nodup.sublist sub) fun x member => regular x (List.mem_cons_of_mem c member)

/-- What a run over the queue leaves was called in it. -/
theorem Retries.called (retries : Retries e cs e') : ∀ d ∈ e'.queue, d ∈ cs.map Call.work := by
  induction retries with
  | done none =>
      intro d queued
      rw [none] at queued
      cases queued
  | @stuck e cs _ works _ =>
      intro d queued
      rw [works]
      exact (queue_settleAll_sublist e.beginPass cs).subset queued
  | again _ _ _ _ ih =>
      intro d queued
      rw [List.map_append]
      exact List.mem_append_right _ (ih d queued)

/-- **A run over the queue answers for all that it leaves.** -/
theorem Retries.answers (retries : Retries e cs e') (nodup : (e.queue.map Work.serial).Nodup)
    (regular : ∀ c ∈ cs, c.Regular) (h : Answers ds e) : Answers (ds ++ cs) e' := by
  induction retries generalizing ds with
  | done _ => exact (List.append_nil ds).symm ▸ h
  | @stuck e cs _ _ _ => exact Answers.settleAll (e := e.beginPass) h nodup regular
  | @again e e' cs rest _ _ _ _ ih =>
      have first := Answers.settleAll (e := e.beginPass) h nodup fun c member =>
        regular c (List.mem_append_left rest member)
      have sub := (queue_settleAll_sublist e.beginPass cs).map Work.serial
      rw [← List.append_assoc]
      exact ih (nodup.sublist sub) (fun c member => regular c (List.mem_append_right cs member))
        first

/-- The errors of an entry that answers for all of its queue, one by one. -/
theorem errors_forall₂ {R : δ → Failure → Prop}
    (each : ∀ d ∈ e.queue, ∃ f, e.failureOf? (Work.serial d) = some f ∧ R d f) :
    List.Forall₂ R e.queue e.errors := by
  rw [errors]
  generalize e.queue = queue at each
  induction queue with
  | nil => exact List.Forall₂.nil
  | cons d queue ih =>
      obtain ⟨f, found, holds⟩ := each d List.mem_cons_self
      rw [List.filterMap_cons_some (f := fun d => e.failureOf? (Work.serial d)) found]
      exact .cons holds (ih fun x member => each x (List.mem_cons_of_mem d member))

/-! ## States -/

/-- The entry began with `queue`.  It stays pending when that is empty, and is complete once
nothing of it is left. -/
structure Closes (queue : List δ) (e : Entry δ) : Prop where
  pending : queue = [] → e.state = .pending
  complete : queue ≠ [] → e.queue = [] → e.state = .complete

/-- No run over the queue is due: an entry with work left is stalled. -/
structure AtRest (queue : List δ) (e : Entry δ) : Prop extends Closes queue e where
  stalled : e.queue ≠ [] → e.state = .stalled

variable {queue : List δ}

omit [Work δ] in
/-- What the state of an entry at rest tells about its queue. -/
theorem AtRest.state_iff (h : AtRest queue e) (left : queue = [] → e.queue = []) :
    (e.state = .stalled ↔ e.queue ≠ []) ∧ (e.state = .complete ↔ e.queue = [] ∧ queue ≠ []) ∧
      (e.state = .pending ↔ queue = []) ∧ e.state ≠ .retrying := by
  by_cases nothing : queue = []
  · simp [h.pending nothing, nothing, left nothing]
  · by_cases done : e.queue = []
    · simp [h.complete nothing done, nothing, done]
    · simp [h.stalled done, nothing, done]

theorem complete_settle (h : e.queue = [] → e.state = .complete) (c : Call δ) :
    (e.settle c).queue = [] → (e.settle c).state = .complete := by
  unfold settle
  split
  · intro none
    show (if (e.finish c.work).queue.isEmpty then EntryState.complete else e.state) = .complete
    rw [if_pos (List.isEmpty_iff.2 none)]
  · exact h
  · exact h
  · exact h

theorem complete_settleAll (h : e.queue = [] → e.state = .complete) (cs : List (Call δ)) :
    (e.settleAll cs).queue = [] → (e.settleAll cs).state = .complete := by
  induction cs generalizing e with
  | nil => exact h
  | cons c cs ih => exact ih (complete_settle h c)

/-- An entry without work has no calls to settle, and calls complete any other one. -/
theorem Closes.settleAll (h : Closes queue e) (silent : queue = [] → cs = []) :
    Closes queue (e.settleAll cs) where
  pending none := by
    rw [silent none]
    exact h.pending none
  complete some := complete_settleAll (h.complete some) cs

omit [Work δ] in
theorem atRest_concluded (some : queue ≠ []) (initial : Nat) (e : Entry δ) :
    AtRest queue (concluded initial e) where
  pending none := absurd none some
  complete _ none := if_pos (List.isEmpty_iff.2 none)
  stalled left := if_neg fun none => left (List.isEmpty_iff.1 none)

end Marking.Entry
