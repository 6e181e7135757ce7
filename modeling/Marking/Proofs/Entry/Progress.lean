/-
# Marking.Proofs.Entry.Progress -- the retry loop of an entry ends by itself

Calls never make a queue longer, and every pass but the last makes it shorter.  So the queue
bounds the passes of a run over it (`Retries.passes_le`), and its length is fuel enough: when
such a run fails, a call has failed for good (`processAll_error`).

To say so the log must hold that call too.  `Observed` is said of work all of whose calls are
logged, whatever they give.
-/
import Marking.Proofs.Entry.Calls

set_option autoImplicit false

namespace Marking.Entry

variable {τ δ : Type}

/-- One of the calls ended the run with the fault. -/
def Interrupted (cs : List (Call δ)) (f : Fault) : Prop :=
  ∃ c ∈ cs, c.result = .error f ∧ ¬ c.Regular

def Observed (process : Process τ δ) (log : Log τ δ) (d : δ) : Prop := ∀ w, log.Keeps process d w

/-! ## Queues only lose work -/

theorem removeFirst_sublist (test : δ → Bool) (ds : List δ) :
    (removeFirst test ds).Sublist ds := by
  induction ds with
  | nil => exact List.Sublist.refl _
  | cons d ds ih =>
      rw [removeFirst]
      split
      · exact List.sublist_cons_self d ds
      · exact ih.cons_cons d

variable [Work δ] {e e' : Entry δ} {cs : List (Call δ)}

theorem queue_settle_sublist (e : Entry δ) (c : Call δ) : (e.settle c).queue.Sublist e.queue := by
  rw [queue_settle]
  split
  · exact removeFirst_sublist _ _
  · exact List.Sublist.refl _

theorem queue_settleAll_sublist (e : Entry δ) (cs : List (Call δ)) :
    (e.settleAll cs).queue.Sublist e.queue := by
  induction cs generalizing e with
  | nil => exact List.Sublist.refl _
  | cons c cs ih => exact (ih (e.settle c)).trans (queue_settle_sublist e c)

theorem passes_settle (e : Entry δ) (c : Call δ) : (e.settle c).passes = e.passes := by
  unfold settle
  split <;> rfl

theorem passes_settleAll (e : Entry δ) (cs : List (Call δ)) :
    (e.settleAll cs).passes = e.passes := by
  induction cs generalizing e with
  | nil => rfl
  | cons c cs ih => exact (ih (e.settle c)).trans (passes_settle e c)

theorem succeeded_settleAll (e : Entry δ) (cs : List (Call δ)) :
    (e.settleAll cs).succeeded = e.succeeded + cs.countP Call.succeeded := by
  induction cs generalizing e with
  | nil => rfl
  | cons c cs ih =>
      rw [settleAll_cons, ih, succeeded_settle, List.countP_cons]
      omega

/-- A pass that changes the length of the queue makes it shorter. -/
theorem length_pass_lt (differ : (e.beginPass.settleAll cs).queue.length ≠ e.queue.length) :
    (e.beginPass.settleAll cs).queue.length < e.queue.length :=
  Nat.lt_of_le_of_ne (queue_settleAll_sublist e.beginPass cs).length_le differ

theorem Retries.queue_sublist (retries : Retries e cs e') : e'.queue.Sublist e.queue := by
  induction retries with
  | done _ => exact List.Sublist.refl _
  | stuck _ _ _ => exact queue_settleAll_sublist _ _
  | again _ _ _ _ ih => exact ih.trans (queue_settleAll_sublist _ _)

/-- Every pass but the last takes some work out of the queue. -/
theorem Retries.passes_le (retries : Retries e cs e') :
    e'.passes + e'.queue.length ≤ e.passes + e.queue.length + 1 := by
  induction retries with
  | done _ => exact Nat.le_succ _
  | @stuck e cs _ _ same =>
      have once : (e.beginPass.settleAll cs).passes = e.passes + 1 := passes_settleAll _ _
      omega
  | @again e e' cs rest _ _ differ _ ih =>
      have once : (e.beginPass.settleAll cs).passes = e.passes + 1 := passes_settleAll _ _
      have shorter := length_pass_lt differ
      omega

/-! ## Runs that fail -/

variable {process : Process τ δ} {log : Log τ δ} {w w' : World τ} {f : Fault}

/-- An attempt fails by its call. -/
theorem attempt_error {d : δ} (observed : Observed process log d)
    (ends : e.attempt process d w = (.error f, e', w')) : Interrupted (log.calls w') f := by
  obtain ⟨l, kept, isCall⟩ := observed w
  obtain ⟨next, eq, silent⟩ := attempt_eq process e d w
  rw [eq, Prod.mk.injEq, Prod.mk.injEq] at ends
  obtain ⟨failed, -, rfl⟩ := ends
  have fatal := Call.outcome_error failed
  obtain rfl := silent.resolve_right fun noted => fatal.2 noted.1
  have member : l ∈ log.lines (process d w).2.2 :=
    kept ▸ List.mem_append_right _ (List.mem_singleton_self l)
  exact ⟨log.call l, List.mem_map_of_mem member, by rwa [isCall]⟩

theorem attemptAll_error {ds : List δ} (observed : ∀ d ∈ ds, Observed process log d)
    (ends : e.attemptAll process ds w = (.error f, e', w')) : Interrupted (log.calls w') f := by
  induction ds generalizing e w with
  | nil => cases ends
  | cons d ds ih =>
      rw [attemptAll] at ends
      cases first : e.attempt process d w with
      | mk result rest =>
          obtain ⟨mid, next⟩ := rest
          rw [first] at ends
          cases result with
          | error g =>
              cases ends
              exact attempt_error (observed d List.mem_cons_self) first
          | ok b => exact ih (fun x member => observed x (List.mem_cons_of_mem d member)) ends

theorem pass_error (observed : ∀ d ∈ e.queue, Observed process log d)
    (ends : e.pass process w = (.error f, e', w')) : Interrupted (log.calls w') f := by
  unfold pass at ends
  cases ran : attemptAll process { e with state := .retrying, passes := e.passes + 1 } e.queue w
  with
  | mk result rest =>
      obtain ⟨mid, next⟩ := rest
      simp only [ran] at ends
      cases result with
      | error g =>
          cases ends
          exact attemptAll_error observed ran
      | ok _ => cases ends

/-- The length of the queue is fuel enough. -/
theorem passesWith_error (h : Logs process log) {fuel : Nat} (enough : e.queue.length ≤ fuel)
    (observed : ∀ d ∈ e.queue, Observed process log d)
    (ends : passesWith process fuel e w = (.error f, e', w')) : Interrupted (log.calls w') f := by
  induction fuel generalizing e w with
  | zero =>
      have none : e.queue.isEmpty := List.isEmpty_iff.2 (List.length_eq_zero_iff.1 (by omega))
      rw [passesWith, if_pos none] at ends
      cases ends
  | succ fuel ih =>
      rw [passesWith] at ends
      by_cases none : e.queue.isEmpty
      · rw [if_pos none] at ends
        cases ends
      · rw [if_neg none] at ends
        cases ran : e.pass process w with
        | mk result rest =>
            obtain ⟨mid, next⟩ := rest
            rw [ran] at ends
            cases result with
            | error g =>
                cases ends
                exact pass_error observed ran
            | ok _ =>
                obtain ⟨cs, -, -, rfl⟩ := pass_spec h ran
                dsimp only at ends
                by_cases same : (e.beginPass.settleAll cs).queue.length = e.queue.length
                · rw [if_pos same] at ends
                  cases ends
                · rw [if_neg same] at ends
                  have kept := (queue_settleAll_sublist e.beginPass cs).subset
                  have shorter := length_pass_lt same
                  exact ih (by omega) (fun d member => observed d (kept member)) ends

/-- **A run over the queue fails by one of its calls.** -/
theorem processAll_error (h : Logs process log)
    (observed : ∀ d ∈ e.queue, Observed process log d)
    (ends : e.processAll process e.queue.length w = (.error f, e', w')) :
    Interrupted (log.calls w') f := by
  unfold processAll at ends
  cases ran : passesWith process e.queue.length { e with failures := [] } w with
  | mk result rest =>
      obtain ⟨mid, next⟩ := rest
      simp only [ran] at ends
      cases result with
      | error g =>
          cases ends
          exact passesWith_error (e := { e with failures := [] }) h (Nat.le_refl _) observed ran
      | ok _ => cases ends

end Marking.Entry
