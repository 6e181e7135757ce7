/-
# Marking.Proofs.Entry.Passes -- where the retry loop of an entry ends

When processing queues nothing, a run over the queue is a list of passes, and each pass a list of
calls.  `Attempts` says which calls a pass makes: the work of the queue in turn, up to the first
one that raises a fault which is no failed injection.  `Passes` says which passes a run makes, and
mirrors the loop.

A pass leaves the work that failed in it, in the old order (`Leaves`).  All else follows by
induction on the passes.  Every pass but the last has a success and makes the queue shorter, so
the successes and the queue bound the number of passes.  A run that gives up does so after a pass
without any success, and the failures that it remembers are those of this pass (`GaveUp`).

The work need not be distinct.  What a pass leaves is counted by number; when no work is queued
twice, the statements say the same of each single piece of work.
-/
import Mathlib.Data.List.Count
import Marking.Proofs.Entry.Stopping

set_option autoImplicit false

namespace Marking.Entry

variable {τ δ : Type}

/-! ## Attempts -/

/-- The calls that attempts of work make, and how the attempts end. -/
inductive Attempts : List δ → List (Call δ) → Except Fault Unit → Prop
  | done : Attempts [] [] (.ok ())
  | next {c : Call δ} {ds : List δ} {cs : List (Call δ)} {r : Except Fault Unit} :
      c.Regular → Attempts ds cs r → Attempts (c.work :: ds) (c :: cs) r
  | raised {c : Call δ} {ds : List δ} {f : Fault} :
      c.result = .error f → ¬ c.Regular → Attempts (c.work :: ds) [c] (.error f)

variable {ds : List δ} {cs : List (Call δ)} {r : Except Fault Unit} {f : Fault}

/-- Attempts that come to their end call all of the work. -/
theorem Attempts.works (attempts : Attempts ds cs r) (ended : r = .ok ()) :
    cs.map Call.work = ds := by
  induction attempts with
  | done => rfl
  | next _ _ ih => rw [List.map_cons, ih ended]
  | raised _ _ => cases ended

theorem Attempts.regular (attempts : Attempts ds cs r) (ended : r = .ok ()) :
    ∀ c ∈ cs, c.Regular := by
  induction attempts with
  | done => exact fun c member => nomatch member
  | next first _ ih => exact List.forall_mem_cons.2 ⟨first, ih ended⟩
  | raised _ _ => cases ended

theorem Attempts.interrupted (attempts : Attempts ds cs r) (broken : r = .error f) :
    Interrupted cs f := by
  induction attempts with
  | done => cases broken
  | next _ _ ih =>
      obtain ⟨c, member, raised⟩ := ih broken
      exact ⟨c, List.mem_cons_of_mem _ member, raised⟩
  | raised failed fatal =>
      cases broken
      exact ⟨_, List.mem_singleton_self _, failed, fatal⟩

variable [Work δ]

/-- An attempt of work that queues nothing settles its call and tells it. -/
theorem attempt_quiet {process : Process τ δ} {d : δ} (quiet : ∀ w, (process d w).2.1 = [])
    (e : Entry δ) (w : World (τ × History δ)) :
    ∃ (c : Call δ) (next : World (τ × History δ)), c.work = d ∧
      e.attempt (watched process) d w = (c.outcome, e.settle c, next) ∧
      next.own.2 = w.own.2 ++ [.called c []] := by
  have nothing : (watched process d w).2.1 = [] := quiet w.inner
  obtain ⟨next, eq, noted⟩ := attempt_eq (watched process) e d w
  rw [nothing] at eq
  refine ⟨_, next, rfl, eq, ?_⟩
  have told : (watched process d w).2.2.own.2 =
      w.own.2 ++ [.called ⟨d, (watched process d w).1⟩ []] := by
    rw [← nothing]
    rfl
  obtain rfl | ⟨-, j, rfl⟩ := noted
  · exact told
  · exact told

/-- Attempts of work that queues nothing settle their calls in turn and tell them. -/
theorem attemptAll_quiet {process : Process τ δ} (quiet : ∀ d ∈ ds, ∀ w, (process d w).2.1 = [])
    (e : Entry δ) (w : World (τ × History δ)) :
    ∃ cs : List (Call δ), Attempts ds cs (e.attemptAll (watched process) ds w).1 ∧
      (e.attemptAll (watched process) ds w).2.1 = e.settleAll cs ∧
      (e.attemptAll (watched process) ds w).2.2.own.2 = w.own.2 ++ cs.map (.called · []) := by
  induction ds generalizing e w with
  | nil => exact ⟨[], .done, rfl, (List.append_nil _).symm⟩
  | cons d ds ih =>
      obtain ⟨first, others⟩ := List.forall_mem_cons.1 quiet
      obtain ⟨c, next, rfl, eq, told⟩ := attempt_quiet first e w
      rw [attemptAll, eq]
      cases ended : c.outcome with
      | ok b =>
          obtain ⟨cs, attempts, later, rest⟩ := ih others (e.settle c) next
          refine ⟨c :: cs, .next (Call.outcome_ok ended).1 attempts, later, ?_⟩
          dsimp only
          rw [rest, told, List.append_assoc, List.singleton_append, List.map_cons]
      | error f =>
          obtain ⟨failed, fatal⟩ := Call.outcome_error ended
          exact ⟨[c], .raised failed fatal, rfl, told⟩

/-- A pass attempts the queue as it stands. -/
theorem pass_quiet {process : Process τ δ} {e : Entry δ}
    (quiet : ∀ d ∈ e.queue, ∀ w, (process d w).2.1 = []) (w : World (τ × History δ)) :
    ∃ cs : List (Call δ), Attempts e.queue cs (e.pass (watched process) w).1 ∧
      (e.pass (watched process) w).2.1 = e.beginPass.settleAll cs ∧
      (e.pass (watched process) w).2.2.own.2 = w.own.2 ++ cs.map (.called · []) := by
  obtain ⟨cs, attempts, settled, told⟩ := attemptAll_quiet quiet e.beginPass w
  refine ⟨cs, ?_⟩
  unfold pass
  dsimp only
  unfold beginPass at attempts settled told
  generalize attemptAll (watched process) { e with state := .retrying, passes := e.passes + 1 }
    e.queue w = outcome at attempts settled told ⊢
  obtain ⟨result, mid, next⟩ := outcome
  cases result <;> exact ⟨attempts, settled, told⟩

/-! ## What a pass leaves -/

/-- What is left after calls is the work of those that failed, in the old order. -/
structure Leaves (cs : List (Call δ)) (left : List δ) : Prop where
  order : left.Sublist (cs.map Call.work)
  /-- Counted by number, it is the work that failed. -/
  failed : (left.map Work.serial).Perm
    ((cs.filter fun c => !c.succeeded).map fun c => Work.serial c.work)
  distinct : (cs.map fun c => Work.serial c.work).Nodup →
    left = (cs.filter fun c => !c.succeeded).map Call.work

theorem Leaves.length {left : List δ} (leaves : Leaves cs left) :
    left.length + cs.countP Call.succeeded = cs.length := by
  have same := leaves.failed.length_eq
  rw [List.length_map, List.length_map, ← List.countP_eq_length_filter] at same
  have parts := List.length_eq_countP_add_countP Call.succeeded (l := cs)
  simp only [Bool.not_eq_true, Bool.decide_eq_false] at parts
  omega

/-- Calls take the numbers of those that succeeded out of the queue. -/
theorem serials_settleAll (e : Entry δ) (cs : List (Call δ)) :
    (e.settleAll cs).queue.map Work.serial = (e.queue.map Work.serial).diff
      ((cs.filter Call.succeeded).map fun c => Work.serial c.work) := by
  induction cs generalizing e with
  | nil => rfl
  | cons c cs ih =>
      rw [settleAll_cons, ih, queue_settle]
      by_cases succeeded : c.succeeded = true
      · rw [if_pos succeeded, serials_removeFirst, List.filter_cons_of_pos succeeded, List.map_cons,
          List.diff_cons]
      · rw [if_neg succeeded, List.filter_cons_of_neg succeeded]

/-- Work that is queued once leaves its place and nothing else. -/
theorem removeFirst_middle {d : δ} {before after : List δ}
    (fresh : Work.serial d ∉ before.map Work.serial) :
    removeFirst (fun x => Work.serial x == Work.serial d) (before ++ d :: after) =
      before ++ after := by
  induction before with
  | nil => exact if_pos (beq_self_eq_true _)
  | cons x before ih =>
      rw [List.map_cons, List.mem_cons, not_or] at fresh
      rw [List.cons_append, removeFirst, if_neg (by simpa using Ne.symm fresh.1), ih fresh.2,
        List.cons_append]

/-- Calls of distinct work take out what they finish.  The induction is on the calls that are still
to be settled; `kept` is the work that failed before them. -/
theorem queue_settleAll_distinct {e : Entry δ} {kept : List δ}
    (works : e.queue = kept ++ cs.map Call.work) (nodup : (e.queue.map Work.serial).Nodup) :
    (e.settleAll cs).queue = kept ++ (cs.filter fun c => !c.succeeded).map Call.work := by
  induction cs generalizing e kept with
  | nil => exact works
  | cons c cs ih =>
      rw [settleAll_cons]
      have rest := queue_settle e c
      rw [List.map_cons] at works
      by_cases succeeded : c.succeeded = true
      · have fresh : Work.serial c.work ∉ kept.map Work.serial := by
          rw [works, List.map_append, List.map_cons] at nodup
          exact fun member => (List.nodup_append.1 nodup).2.2 _ member _ List.mem_cons_self rfl
        rw [if_pos succeeded, works, removeFirst_middle fresh] at rest
        rw [List.filter_cons_of_neg (by simpa using succeeded)]
        exact ih rest (nodup.sublist ((queue_settle_sublist e c).map _))
      · rw [if_neg succeeded] at rest
        rw [List.filter_cons_of_pos (by simpa using succeeded), List.map_cons, List.append_cons]
        refine ih ?_ (rest ▸ nodup)
        rw [rest, works, List.append_cons]

/-- **A pass over the whole queue leaves what failed in it.** -/
theorem leaves_pass {e : Entry δ} (works : cs.map Call.work = e.queue) :
    Leaves cs (e.beginPass.settleAll cs).queue where
  order := works ▸ queue_settleAll_sublist e.beginPass cs
  failed := by
    -- Both sides have what was called less what succeeded, counted by number.
    have called : e.queue.map Work.serial = cs.map fun c => Work.serial c.work := by
      rw [← works, List.map_map]
      rfl
    have parts := (List.filter_append_perm Call.succeeded cs).map fun c => Work.serial c.work
    rw [List.perm_iff_count]
    intro s
    have count := parts.count_eq s
    have left : (e.beginPass.settleAll cs).queue.map Work.serial = _ :=
      serials_settleAll e.beginPass cs
    have queued : e.beginPass.queue = e.queue := rfl
    rw [List.map_append, List.count_append] at count
    rw [left, List.count_diff, queued, called]
    omega
  distinct nodup := by
    have called : e.beginPass.queue = [] ++ cs.map Call.work := works.symm
    refine queue_settleAll_distinct called ?_
    rw [called, List.nil_append, List.map_map]
    exact nodup

/-! ## Runs -/

/-- The passes of a run over the queue, until it is empty, a pass leaves its length as it was, or
a fault breaks the pass off. -/
inductive Passes : Entry δ → List (List (Call δ)) → Except Fault Unit → Entry δ → Prop
  | empty {e : Entry δ} : e.queue = [] → Passes e [] (.ok ()) e
  | again {e e' : Entry δ} {cs : List (Call δ)} {ps : List (List (Call δ))}
      {r : Except Fault Unit} : e.queue ≠ [] → Attempts e.queue cs (.ok ()) →
      (e.beginPass.settleAll cs).queue.length ≠ e.queue.length →
      Passes (e.beginPass.settleAll cs) ps r e' → Passes e (cs :: ps) r e'
  | stuck {e : Entry δ} {cs : List (Call δ)} : e.queue ≠ [] → Attempts e.queue cs (.ok ()) →
      (e.beginPass.settleAll cs).queue.length = e.queue.length →
      Passes e [cs] (.ok ()) (e.beginPass.settleAll cs)
  | broken {e : Entry δ} {cs : List (Call δ)} {f : Fault} : e.queue ≠ [] →
      Attempts e.queue cs (.error f) → Passes e [cs] (.error f) (e.beginPass.settleAll cs)

section Loop

variable {process : Process τ δ} {e e' : Entry δ}

/-- **The retry loop makes these passes**, and the length of the queue is fuel enough for them.
The induction is on that length. -/
theorem passesWith_passes (quiet : ∀ d ∈ e.queue, ∀ w, (process d w).2.1 = [])
    (w : World (τ × History δ)) :
    ∃ (ps : List (List (Call δ))) (outcome : Except Fault Unit × Entry δ × World (τ × History δ)),
      (∀ fuel, e.queue.length ≤ fuel → passesWith (watched process) fuel e w = outcome) ∧
      Passes e ps outcome.1 outcome.2.1 ∧
      outcome.2.2.own.2 = w.own.2 ++ ps.flatten.map (.called · []) := by
  induction size : e.queue.length using Nat.strong_induction_on generalizing e w with
  | _ n ih =>
      subst size
      by_cases none : e.queue = []
      · exact ⟨[], (.ok (), e, w), fun fuel _ => passesWith_empty none fuel w, .empty none,
          (List.append_nil _).symm⟩
      have unrolled : ∀ fuel, e.queue.length ≤ fuel → ∃ more, fuel = more + 1 := by
        intro fuel enough
        have some := List.length_pos_iff.2 none
        exact Nat.exists_eq_succ_of_ne_zero (by omega)
      obtain ⟨cs, attempts, settled, told⟩ := pass_quiet quiet w
      generalize ran : e.pass (watched process) w = outcome at attempts settled told
      obtain ⟨result, mid, between⟩ := outcome
      obtain rfl : mid = e.beginPass.settleAll cs := settled
      cases result with
      | error f =>
          refine ⟨[cs], (.error f, e.beginPass.settleAll cs, between), fun fuel enough => ?_,
            .broken none attempts, ?_⟩
          · obtain ⟨more, rfl⟩ := unrolled fuel enough
            exact passesWith_broken none ran more
          · rw [List.flatten_singleton]
            exact told
      | ok _ =>
          by_cases same : (e.beginPass.settleAll cs).queue.length = e.queue.length
          · refine ⟨[cs], (.ok (), e.beginPass.settleAll cs, between), fun fuel enough => ?_,
              .stuck none attempts same, ?_⟩
            · obtain ⟨more, rfl⟩ := unrolled fuel enough
              exact passesWith_stuck none ran same more
            · rw [List.flatten_singleton]
              exact told
          · have shorter := length_pass_lt same
            have kept := (queue_settleAll_sublist e.beginPass cs).subset
            obtain ⟨ps, outcome, enough, passes, later⟩ :=
              ih _ shorter (fun d member => quiet d (kept member)) between rfl
            refine ⟨cs :: ps, outcome, fun fuel sufficient => ?_, .again none attempts same passes, ?_⟩
            · obtain ⟨more, rfl⟩ := unrolled fuel sufficient
              rw [passesWith_again none ran same]
              exact enough more (by omega)
            · dsimp only at told
              rw [later, told, List.append_assoc, List.flatten_cons, List.map_append]

end Loop

variable {e e' : Entry δ} {ps : List (List (Call δ))}

theorem length_pass (works : cs.map Call.work = e.queue) :
    (e.beginPass.settleAll cs).queue.length + cs.countP Call.succeeded = e.queue.length := by
  rw [(leaves_pass works).length, ← works, List.length_map]

theorem Passes.passes_eq (passes : Passes e ps r e') : e'.passes = e.passes + ps.length := by
  have once : ∀ (e : Entry δ) (cs : List (Call δ)),
      (e.beginPass.settleAll cs).passes = e.passes + 1 := fun _ _ => passes_settleAll _ _
  induction passes with
  | empty _ => rfl
  | again _ _ _ _ ih =>
      rw [ih, once, List.length_cons]
      omega
  | stuck _ _ _ => exact once _ _
  | broken _ _ => exact once _ _

theorem Passes.succeeded_eq (passes : Passes e ps r e') :
    e'.succeeded = e.succeeded + ps.flatten.countP Call.succeeded := by
  have counted : ∀ (e : Entry δ) (cs : List (Call δ)),
      (e.beginPass.settleAll cs).succeeded = e.succeeded + cs.countP Call.succeeded :=
    fun _ _ => succeeded_settleAll _ _
  induction passes with
  | empty _ => rfl
  | again _ _ _ _ ih =>
      rw [ih, counted, List.flatten_cons, List.countP_append]
      omega
  | stuck _ _ _ => rw [counted, List.flatten_singleton]
  | broken _ _ => rw [counted, List.flatten_singleton]

/-- Every pass but the last has a success. -/
theorem Passes.length_le_successes (passes : Passes e ps r e') :
    ps.length ≤ ps.flatten.countP Call.succeeded + 1 := by
  induction passes with
  | empty _ => exact Nat.zero_le _
  | again _ attempts differ _ ih =>
      have balance := length_pass (attempts.works rfl)
      rw [List.flatten_cons, List.countP_append, List.length_cons]
      omega
  | stuck _ _ _ => exact Nat.le_add_left 1 _
  | broken _ _ => exact Nat.le_add_left 1 _

/-- Every pass but the last makes the queue shorter. -/
theorem Passes.length_le_queue (passes : Passes e ps r e') : ps.length ≤ e.queue.length := by
  induction passes with
  | empty _ => exact Nat.zero_le _
  | again _ _ differ _ ih =>
      have shorter := length_pass_lt differ
      rw [List.length_cons]
      omega
  | stuck some _ _ => exact List.length_pos_iff.2 some
  | broken some _ => exact List.length_pos_iff.2 some

theorem Passes.regular (passes : Passes e ps r e') (ended : r = .ok ()) :
    ∀ c ∈ ps.flatten, c.Regular := by
  induction passes with
  | empty _ => exact fun c member => nomatch member
  | again _ attempts _ _ ih =>
      rw [List.flatten_cons, List.forall_mem_append]
      exact ⟨attempts.regular rfl, ih ended⟩
  | stuck _ attempts _ =>
      rw [List.flatten_singleton]
      exact attempts.regular rfl
  | broken _ _ => cases ended

theorem Passes.interrupted (passes : Passes e ps r e') (broken : r = .error f) :
    Interrupted ps.flatten f := by
  induction passes with
  | empty _ => cases broken
  | again _ _ _ _ ih =>
      obtain ⟨c, member, raised⟩ := ih broken
      exact ⟨c, List.mem_append_right _ member, raised⟩
  | stuck _ _ _ => cases broken
  | broken _ attempts =>
      rw [List.flatten_singleton]
      exact attempts.interrupted broken

/-! ## From one pass to the next -/

/-- The first of the passes came to its end, and the second attempts what the first one left, up to
a fault. -/
structure Follows (cs next : List (Call δ)) : Prop where
  whole : ∀ c ∈ cs, c.Regular
  again : ∃ left r, Leaves cs left ∧ Attempts left next r

theorem Passes.eq_nil_iff (passes : Passes e ps r e') : ps = [] ↔ e.queue = [] := by
  cases passes with
  | empty none => exact iff_of_true rfl none
  | again queued _ _ _ => exact iff_of_false (List.cons_ne_nil _ _) queued
  | stuck queued _ _ => exact iff_of_false (List.cons_ne_nil _ _) queued
  | broken queued _ => exact iff_of_false (List.cons_ne_nil _ _) queued

theorem Passes.first (passes : Passes e ps r e') : ∀ cs ∈ ps.head?, ∃ r, Attempts e.queue cs r := by
  cases passes with
  | empty _ => exact fun cs member => nomatch member
  | again _ attempts _ _ => exact fun _ same => Option.some.inj same ▸ ⟨_, attempts⟩
  | stuck _ attempts _ => exact fun _ same => Option.some.inj same ▸ ⟨_, attempts⟩
  | broken _ attempts => exact fun _ same => Option.some.inj same ▸ ⟨_, attempts⟩

/-- What the last pass leaves is what the run leaves. -/
theorem Passes.last (passes : Passes e ps r e') (ended : r = .ok ()) :
    ∀ cs ∈ ps.getLast?, Leaves cs e'.queue := by
  induction passes with
  | empty _ => exact fun cs member => nomatch member
  | @again e e' cs ps r _ attempts _ rest ih =>
      cases ps with
      | nil =>
          have left := leaves_pass (attempts.works rfl)
          cases rest with
          | empty _ => exact fun _ same => Option.some.inj same ▸ left
      | cons next ps =>
          rw [List.getLast?_cons_cons]
          exact ih ended
  | stuck _ attempts _ =>
      exact fun _ same => Option.some.inj same ▸ leaves_pass (attempts.works rfl)
  | broken _ _ => cases ended

/-- What fails in a pass is attempted again in the next one. -/
theorem Passes.chain (passes : Passes e ps r e') : ps.IsChain Follows := by
  induction passes with
  | empty _ => exact .nil
  | again _ attempts _ rest ih =>
      refine List.isChain_cons.2 ⟨fun next member => ?_, ih⟩
      obtain ⟨r, later⟩ := rest.first next member
      exact ⟨attempts.regular rfl, _, r, leaves_pass (attempts.works rfl), later⟩
  | stuck _ _ _ => exact .singleton _
  | broken _ _ => exact .singleton _

/-! ## Giving up -/

/-- After calls that all failed, the failure under a number is that of the last of them. -/
theorem failureOf?_settleAll (failed : ∀ c ∈ cs, ∃ f, c.failure? = some f) {c : Call δ} {d : δ}
    (last : lastCall? cs d = some c) :
    (e.settleAll cs).failureOf? (Work.serial d) = c.failure? := by
  induction cs using List.reverseRecOn with
  | nil => cases last
  | append_singleton cs x ih =>
      obtain ⟨f, leaves⟩ := failed x (List.mem_append_right _ (List.mem_singleton_self x))
      rw [settleAll_snoc]
      by_cases same : Work.serial x.work = Work.serial d
      · rw [lastCall?_same cs same] at last
        cases last
        rw [leaves, ← same]
        exact failureOf?_settle_same _ leaves
      · rw [lastCall?_other cs same] at last
        rw [failureOf?_settle_other _ same]
        exact ih (fun c member => failed c (List.mem_append_left _ member)) last

/-- Where no work is called twice, every call is the last one of its work. -/
theorem lastCall?_of_distinct (distinct : (cs.map fun c => Work.serial c.work).Nodup) {c : Call δ}
    (member : c ∈ cs) : lastCall? cs c.work = some c := by
  obtain ⟨x, last⟩ := exists_lastCall (List.mem_map_of_mem (f := Call.work) member)
  obtain ⟨called, same⟩ := lastCall?_mem last
  rw [last, List.inj_on_of_nodup_map distinct called member same]

/-- The last pass of a run that gives up: the calls of all that is queued, in its order, none of
which succeeded.  The errors of the entry are their failures. -/
structure GaveUp (cs : List (Call δ)) (e : Entry δ) : Prop where
  left : e.queue ≠ []
  works : cs.map Call.work = e.queue
  failed : ∀ c ∈ cs, c.succeeded = false ∧ ∃ f, c.failure? = some f ∧ f.key.isSome
  /-- The errors are the failures of the last calls, one for each piece of work. -/
  errors : List.Forall₂ (fun d f => ∃ c, lastCall? cs d = some c ∧ c.failure? = some f)
    e.queue e.errors
  /-- Where no work is queued twice, they are the failures of the calls. -/
  distinct : (e.queue.map Work.serial).Nodup → e.errors = cs.filterMap Call.failure?

/-- A pass that leaves the queue as long as it was has failed altogether. -/
theorem gaveUp_pass {e : Entry δ} (queued : e.queue ≠ []) (attempts : Attempts e.queue cs (.ok ()))
    (same : (e.beginPass.settleAll cs).queue.length = e.queue.length) :
    GaveUp cs (e.beginPass.settleAll cs) := by
  have works := attempts.works rfl
  have kept : (e.beginPass.settleAll cs).queue = e.queue :=
    (queue_settleAll_sublist e.beginPass cs).eq_of_length same
  have none : cs.countP Call.succeeded = 0 := by
    have balance := length_pass works
    omega
  have failed : ∀ c ∈ cs, c.succeeded = false ∧ ∃ f, c.failure? = some f ∧ f.key.isSome := by
    intro c member
    have unsuccessful : c.succeeded = false := by simpa using List.countP_eq_zero.1 none c member
    exact ⟨unsuccessful, Call.exists_failure (attempts.regular rfl c member) unsuccessful⟩
  have leave : ∀ c ∈ cs, ∃ f, c.failure? = some f := by
    intro c member
    obtain ⟨-, f, leaves, -⟩ := failed c member
    exact ⟨f, leaves⟩
  refine ⟨kept ▸ queued, works.trans kept.symm, failed, errors_forall₂ fun d member => ?_, ?_⟩
  · rw [kept, ← works] at member
    obtain ⟨c, last⟩ := exists_lastCall member
    obtain ⟨f, leaves⟩ := leave c (lastCall?_mem last).1
    exact ⟨f, (failureOf?_settleAll leave last).trans leaves, c, last, leaves⟩
  · intro distinct
    rw [kept, ← works, List.map_map] at distinct
    rw [errors, kept, ← works, List.filterMap_map]
    exact List.filterMap_congr fun c member =>
      failureOf?_settleAll leave (lastCall?_of_distinct distinct member)

theorem Passes.gaveUp (passes : Passes e ps r e') (ended : r = .ok ()) (left : e'.queue ≠ []) :
    ∃ before cs, ps = before ++ [cs] ∧ GaveUp cs e' := by
  induction passes with
  | empty none => exact absurd none left
  | again _ _ _ _ ih =>
      obtain ⟨before, cs, rfl, gaveUp⟩ := ih ended left
      exact ⟨_ :: before, cs, rfl, gaveUp⟩
  | stuck queued attempts same => exact ⟨[], _, rfl, gaveUp_pass queued attempts same⟩
  | broken _ _ => cases ended

theorem GaveUp.concluded {e : Entry δ} (gaveUp : GaveUp cs e) (initial : Nat) :
    GaveUp cs (concluded initial e) :=
  ⟨gaveUp.left, gaveUp.works, gaveUp.failed, gaveUp.errors, gaveUp.distinct⟩

/-! ## The fixed point -/

/-- How a run over the queue goes, pass by pass, and where it ends. -/
structure Settled (process : Process τ δ) (e : Entry δ) (w : World τ) (ps : List (List (Call δ)))
    (outcome : Except Fault Bool × Entry δ × World τ) : Prop where
  /-- The run ends by itself: more fuel than the length of the queue changes nothing. -/
  ran : ∀ fuel, e.queue.length ≤ fuel → e.processAll process fuel w = outcome
  /-- It returns, unless a call raises a fault that is no failed injection. -/
  returns : ((∃ b, outcome.1 = .ok b) ∧ ∀ c ∈ ps.flatten, c.Regular) ∨
    ∃ f, outcome.1 = .error f ∧ Interrupted ps.flatten f
  calls : ∀ fuel, e.queue.length ≤ fuel → (events process fuel e w).calls = ps.flatten
  passes : outcome.2.1.passes = e.passes + ps.length
  succeeded : outcome.2.1.succeeded = e.succeeded + ps.flatten.countP Call.succeeded
  length_le_successes : ps.length ≤ ps.flatten.countP Call.succeeded + 1
  length_le_queue : ps.length ≤ e.queue.length
  empty : ps = [] ↔ e.queue = []
  /-- The first pass attempts the queue, up to a fault. -/
  first : ∀ cs ∈ ps.head?, ∃ r, Attempts e.queue cs r
  /-- Each other pass attempts what the one before it left, up to a fault. -/
  again : ps.IsChain Follows
  /-- A run that returns leaves what its last pass left. -/
  last : ∀ b, outcome.1 = .ok b → ∀ cs ∈ ps.getLast?, Leaves cs outcome.2.1.queue
  complete : outcome.1 = .ok true → outcome.2.1.queue = [] ∧ outcome.2.1.state = .complete
  stalled : outcome.1 = .ok false → outcome.2.1.state = .stalled ∧
    ∃ before cs, ps = before ++ [cs] ∧ GaveUp cs outcome.2.1

/-- What happens during a run over the queue happens in its loop. -/
theorem events_eq (process : Process τ δ) (fuel : Nat) (e : Entry δ) (w : World τ) :
    events process fuel e w =
      (passesWith (watched process) fuel { e with failures := [] } (w.beside [])).2.2.own.2 := by
  unfold events processAll
  dsimp only
  generalize passesWith (watched process) fuel { e with failures := [] } (w.beside []) = loop
  obtain ⟨result, mid, next⟩ := loop
  cases result with
  | error f => rfl
  | ok _ =>
      obtain ⟨-, j, noted⟩ := conclude_spec e.queue.length mid next
      exact congrArg (fun w => w.own.2) noted

/-- The loop that is watched is the loop. -/
theorem passesWith_plain {process : Process τ δ} {fuel : Nat} {e : Entry δ} {w : World τ}
    {loop : Except Fault Unit × Entry δ × World (τ × History δ)}
    (ran : passesWith (watched process) fuel e (w.beside []) = loop) :
    passesWith process fuel e w = image World.inner loop := by
  rw [← ran, ← World.inner_beside w ([] : History δ)]
  exact passesWith_image (watched_projects process) fuel _ _

/-- **A run over a queue whose work queues nothing reaches a fixed point.**  What the work does
otherwise is free and may depend on all that was done before.  The run ends, after no more passes
than there is work and at most one more than there are successes.  When it gives up, its last pass
has called all that is left, in vain, and the errors are from this pass. -/
theorem processAll_settled (process : Process τ δ) (e : Entry δ) (w : World τ)
    (quiet : ∀ d ∈ e.queue, ∀ w, (process d w).2.1 = []) :
    ∃ ps outcome, Settled process e w ps outcome := by
  obtain ⟨ps, loop, enough, passes, told⟩ :=
    passesWith_passes (e := { e with failures := [] }) quiet (w.beside [])
  have plain : ∀ fuel, e.queue.length ≤ fuel →
      passesWith process fuel { e with failures := [] } w = image World.inner loop :=
    fun fuel sufficient => passesWith_plain (enough fuel sufficient)
  obtain ⟨result, entry⟩ := processAll_eq process e.queue.length e w
  rw [plain _ (Nat.le_refl _)] at result entry
  have counts : (e.processAll process e.queue.length w).2.1.passes = loop.2.1.passes ∧
      (e.processAll process e.queue.length w).2.1.succeeded = loop.2.1.succeeded := by
    rw [entry]
    split <;> exact ⟨rfl, rfl⟩
  refine ⟨ps, e.processAll process e.queue.length w, ?_⟩
  exact {
    ran := fun fuel sufficient => by
      unfold processAll
      rw [plain fuel sufficient, plain _ (Nat.le_refl _)]
    returns := by
      rw [result]
      cases ended : loop.1 with
      | ok _ => exact .inl ⟨⟨_, rfl⟩, passes.regular ended⟩
      | error f => exact .inr ⟨f, rfl, passes.interrupted ended⟩
    calls := fun fuel sufficient => by
      rw [events_eq, enough fuel sufficient, told]
      exact History.calls_called _
    passes := counts.1.trans passes.passes_eq
    succeeded := counts.2.trans passes.succeeded_eq
    length_le_successes := passes.length_le_successes
    length_le_queue := passes.length_le_queue
    empty := passes.eq_nil_iff
    first := passes.first
    again := passes.chain
    last := fun b returned => by
      obtain ⟨ended, -, isConcluded⟩ := processAll_returned (plain _ (Nat.le_refl _)) returned
      rw [isConcluded]
      exact passes.last ended
    complete := fun returned => by
      obtain ⟨-, none, isConcluded⟩ := processAll_returned (plain _ (Nat.le_refl _)) returned
      rw [isConcluded]
      exact ⟨List.isEmpty_iff.1 none, if_pos none⟩
    stalled := fun returned => by
      obtain ⟨ended, some, isConcluded⟩ := processAll_returned (plain _ (Nat.le_refl _)) returned
      obtain ⟨before, cs, split, gaveUp⟩ := passes.gaveUp ended (by simpa using some)
      rw [isConcluded]
      exact ⟨if_neg (by simpa using some), before, cs, split, gaveUp.concluded _⟩ }

/-! ## A small run -/

namespace Sample

/-- A chore is done once as many others were done as its number says. -/
def stacked : Process Nat Chore := fun d w =>
  if d.number ≤ w.own then (.ok true, [], { w with own := w.own + 1 }) else (.ok false, [], w)

/-- An entry with four chores, the last of which is never done. -/
def pile : Entry Chore where
  marker := .derive .root 2 "Chore" (some "sample") (some (.kind .type))
  queue := [⟨2⟩, ⟨1⟩, ⟨0⟩, ⟨9⟩]

/-- Three chores are done in as many passes, and a fourth pass changes nothing: both bounds on the
number of passes are reached. -/
theorem pile_settled :
    (∀ d ∈ pile.queue, ∀ w, (stacked d w).2.1 = []) ∧
      ∃ ps outcome, Settled stacked pile { own := 0 } ps outcome ∧ outcome.1 = .ok false ∧
        ps.length = 4 ∧ outcome.2.1.succeeded = 3 := by
  have quiet : ∀ d ∈ pile.queue, ∀ w, (stacked d w).2.1 = [] := by
    intro d _ w
    unfold stacked
    split <;> rfl
  have run : (pile.processAll stacked 4 { own := 0 }).1 = .ok false ∧
      (pile.processAll stacked 4 { own := 0 }).2.1.passes = 4 ∧
      (pile.processAll stacked 4 { own := 0 }).2.1.succeeded = 3 := by
    decide +kernel
  obtain ⟨ps, outcome, settled⟩ := processAll_settled stacked pile { own := 0 } quiet
  rw [settled.ran 4 (Nat.le_refl 4)] at run
  obtain ⟨returned, passes, succeeded⟩ := run
  have counted : 4 = 0 + ps.length := passes.symm.trans settled.passes
  exact ⟨quiet, ps, outcome, settled, returned, by omega, succeeded⟩

end Sample

end Marking.Entry
