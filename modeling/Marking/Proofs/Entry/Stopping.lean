/-
# Marking.Proofs.Entry.Stopping -- when the retry loop makes another pass

The retry loop judges a pass by the length of the queue before and after it.  Success takes work
out of the queue, and processing may queue further work meanwhile, so the length tells the one
apart from the other only when nothing is queued.  What it tells in general is said by a balance
(`Tells`): what is left and what succeeded in a pass make up what was queued before and during it.

Hence the rule of the loop (`Lap.GoesOn`): after a pass there is another one if and only if work
is left and the number of successes is not the number of additions.  `Course` describes a run by
this rule, and `processAll_ruled` says that every run goes that way.  A pass that queues nothing is
followed by another one exactly when something in it succeeded and work is left
(`Lap.goesOn_of_quiet`); a success that queues one piece of work stops the loop, and failures
that queue some keep it going (`Sample.early_and_late`).

The work need not be distinct.  Whatever is attempted in a pass is still queued by then, counted
with repetitions, because every attempt removes one piece of work with its number at most.
-/
import Marking.Proofs.Entry.Lifetime

set_option autoImplicit false

namespace Marking.Entry

variable {τ δ : Type}

/-! ## The balance of a queue -/

def History.successes (h : History δ) : Nat := h.calls.countP Call.succeeded

namespace History

variable (h k : History δ)

theorem added_append : added (h ++ k) = h.added ++ k.added := List.flatMap_append

theorem calls_append : calls (h ++ k) = h.calls ++ k.calls := List.filterMap_append

/-- The history of calls that queue nothing. -/
theorem calls_called (cs : List (Call δ)) : calls (cs.map (.called · [])) = cs := by
  rw [calls, List.filterMap_map]
  exact List.filterMap_some

theorem successes_append : successes (h ++ k) = h.successes + k.successes := by
  rw [successes, calls_append, List.countP_append]
  rfl

/-- The number of successes is not zero when some call succeeded. -/
theorem successes_ne_zero_iff : h.successes ≠ 0 ↔ ∃ c ∈ h.calls, c.succeeded = true := by
  rw [← Nat.pos_iff_ne_zero, successes, List.countP_pos_iff]

end History

/-- From one entry and world to another the events happened, and the queue and the count of
successes are as they say. -/
structure Tells (h : History δ) (e : Entry δ) (w : World (τ × History δ)) (e' : Entry δ)
    (w' : World (τ × History δ)) : Prop where
  told : w'.own.2 = w.own.2 ++ h
  balance : e'.queue.length + h.successes = e.queue.length + h.added.length
  succeeded : e'.succeeded = e.succeeded + h.successes

theorem Tells.none (e : Entry δ) (w : World (τ × History δ)) : Tells [] e w e w :=
  ⟨(List.append_nil _).symm, rfl, rfl⟩

theorem Tells.trans {h k : History δ} {e mid e' : Entry δ} {w between w' : World (τ × History δ)}
    (first : Tells h e w mid between) (second : Tells k mid between e' w') :
    Tells (h ++ k) e w e' w' where
  told := by rw [second.told, first.told, List.append_assoc]
  balance := by
    rw [History.successes_append, History.added_append, List.length_append]
    have left := first.balance
    have right := second.balance
    omega
  succeeded := by
    rw [second.succeeded, first.succeeded, History.successes_append, Nat.add_assoc]

variable [Work δ]

theorem serials_removeFirst (s : Nat) (ds : List δ) :
    (removeFirst (fun x => Work.serial x == s) ds).map Work.serial =
      (ds.map Work.serial).erase s := by
  induction ds with
  | nil => rfl
  | cons d ds ih =>
      rw [removeFirst, List.map_cons, List.erase_cons]
      split
      · rfl
      · rw [List.map_cons, ih]

/-- Work whose number is queued leaves the queue one shorter. -/
theorem length_removeFirst {s : Nat} {ds : List δ} (queued : s ∈ ds.map Work.serial) :
    (removeFirst (fun x => Work.serial x == s) ds).length + 1 = ds.length := by
  have shorter := congrArg List.length (serials_removeFirst s ds)
  have once := List.length_pos_of_mem queued
  rw [List.length_erase_of_mem queued, List.length_map, List.length_map] at shorter
  rw [List.length_map] at once
  omega

omit [Work δ] in
theorem succeeded_addAll (e : Entry δ) (ds : List δ) : (e.addAll ds).succeeded = e.succeeded := by
  induction ds generalizing e with
  | nil => rfl
  | cons d ds ih => exact ih (e.add d)

variable {process : Process τ δ} {e e' : Entry δ} {w w' : World (τ × History δ)} {d : δ}
  {ds : List δ}

/-- An attempt of queued work tells its call.  Other work that was queued with it is still queued
afterwards; both are counted by number. -/
theorem attempt_tells (process : Process τ δ) (w : World (τ × History δ))
    (queued : ((d :: ds).map Work.serial).Subperm (e.queue.map Work.serial)) :
    ∃ h : History δ, h.calls.map Call.work = [d] ∧
      Tells h e w (e.attempt (watched process) d w).2.1 (e.attempt (watched process) d w).2.2 ∧
      (ds.map Work.serial).Subperm
        ((e.attempt (watched process) d w).2.1.queue.map Work.serial) := by
  obtain ⟨c, more, rfl, settled, told⟩ := attempt_watched process e d w
  rw [settled]
  have grown : ((c.work :: ds).map Work.serial).Subperm ((e.queue ++ more).map Work.serial) := by
    rw [List.map_append]
    exact queued.trans (List.sublist_append_left _ _).subperm
  have left : ((e.addAll more).settle c).queue = if c.succeeded then
      removeFirst (fun x => Work.serial x == Work.serial c.work) (e.queue ++ more)
      else e.queue ++ more := by
    rw [queue_settle, queue_addAll]
  have count : History.successes [.called c more] = if c.succeeded then 1 else 0 :=
    List.countP_singleton
  have added : History.added [.called c more] = more := List.flatMap_singleton _ _
  refine ⟨[.called c more], rfl, ⟨told, ?_, ?_⟩, ?_⟩
  · rw [left, count, added, ← List.length_append]
    split
    · exact length_removeFirst (grown.subset List.mem_cons_self)
    · rfl
  · rw [succeeded_settle, succeeded_addAll, count]
  · rw [left]
    split
    · have rest := grown.erase (Work.serial c.work)
      rw [List.map_cons, List.erase_cons_head] at rest
      rwa [serials_removeFirst]
    · exact (List.sublist_cons_self _ _).subperm.trans grown

/-- Attempts of queued work tell their calls. -/
theorem attemptAll_tells
    (queued : (ds.map Work.serial).Subperm (e.queue.map Work.serial))
    (ok : e.attemptAll (watched process) ds w = (.ok (), e', w')) :
    ∃ h : History δ, h.calls.map Call.work = ds ∧ Tells h e w e' w' := by
  induction ds generalizing e w with
  | nil =>
      cases ok
      exact ⟨[], rfl, .none _ _⟩
  | cons d ds ih =>
      obtain ⟨h, called, tells, still⟩ := attempt_tells process w queued
      rw [attemptAll] at ok
      generalize e.attempt (watched process) d w = outcome at ok tells still
      obtain ⟨result, mid, between⟩ := outcome
      cases result with
      | error f => cases ok
      | ok b =>
          obtain ⟨k, later, rest⟩ := ih still ok
          refine ⟨h ++ k, ?_, tells.trans rest⟩
          rw [History.calls_append, List.map_append, called, later, List.singleton_append]

/-! ## Passes -/

/-- A completed pass: the queue at its beginning, what happened, and the queue at its end. -/
structure Lap (δ : Type) where
  start : List δ
  events : History δ
  left : List δ

/-- The pass called the queue as it stood at its beginning, in its order.  What is left and what
succeeded make up what was queued before and during the pass. -/
structure Lap.Balanced (l : Lap δ) : Prop where
  calls : l.events.calls.map Call.work = l.start
  count : l.left.length + l.events.successes = l.start.length + l.events.added.length

/-- The rule by which the loop makes another pass. -/
def Lap.GoesOn (l : Lap δ) : Prop := l.left ≠ [] ∧ l.events.successes ≠ l.events.added.length

/-- The rule that asks for success only. -/
def Lap.Succeeds (l : Lap δ) : Prop := l.left ≠ [] ∧ ∃ c ∈ l.events.calls, c.succeeded = true

omit [Work δ] in
/-- The rules agree on a pass that queues nothing. -/
theorem Lap.goesOn_of_quiet {l : Lap δ} (quiet : l.events.added = []) : l.GoesOn ↔ l.Succeeds := by
  rw [GoesOn, Succeeds, quiet, List.length_nil, History.successes_ne_zero_iff]

omit [Work δ] in
/-- A pass after which the queue has another length goes on, or has emptied the queue. -/
theorem Lap.Balanced.length_ne_iff {l : Lap δ} (balanced : l.Balanced) :
    l.left.length ≠ l.start.length ↔ l.events.successes ≠ l.events.added.length := by
  have count := balanced.count
  omega

theorem pass_tells (ok : e.pass (watched process) w = (.ok (), e', w')) :
    ∃ h : History δ, h.calls.map Call.work = e.queue ∧ Tells h e w e' w' := by
  unfold pass at ok
  dsimp only at ok
  generalize ran : attemptAll (watched process)
    { e with state := .retrying, passes := e.passes + 1 } e.queue w = outcome at ok
  obtain ⟨result, mid, between⟩ := outcome
  cases result with
  | error f => cases ok
  | ok _ =>
      obtain ⟨h, called, tells⟩ := attemptAll_tells (List.Subperm.refl _) ran
      cases ok
      exact ⟨h, called, ⟨tells.told, tells.balance, tells.succeeded⟩⟩

/-! ## Runs -/

/-- How a run over the queue goes by the rule: its completed passes, each with what was told
during it, and its outcome.  Fuel bounds the passes; a run that would make another one without it
is endless. -/
inductive Course (process : Process τ δ) : (fuel : Nat) → Entry δ → World (τ × History δ) →
    List (Lap δ) → Except Fault Unit × Entry δ × World (τ × History δ) → Prop
  | empty {fuel : Nat} {e : Entry δ} {w : World (τ × History δ)} : e.queue = [] →
      Course process fuel e w [] (.ok (), e, w)
  | again {fuel : Nat} {e mid : Entry δ} {w between : World (τ × History δ)} {h : History δ}
      {ls : List (Lap δ)} {outcome : Except Fault Unit × Entry δ × World (τ × History δ)} :
      e.queue ≠ [] → e.pass (watched process) w = (.ok (), mid, between) →
      between.own.2 = w.own.2 ++ h → Lap.GoesOn ⟨e.queue, h, mid.queue⟩ →
      Course process fuel mid between ls outcome →
      Course process (fuel + 1) e w (⟨e.queue, h, mid.queue⟩ :: ls) outcome
  | last {fuel : Nat} {e e' : Entry δ} {w w' : World (τ × History δ)} {h : History δ} :
      e.queue ≠ [] → e.pass (watched process) w = (.ok (), e', w') →
      w'.own.2 = w.own.2 ++ h → ¬ Lap.GoesOn ⟨e.queue, h, e'.queue⟩ →
      Course process (fuel + 1) e w [⟨e.queue, h, e'.queue⟩] (.ok (), e', w')
  | broken {fuel : Nat} {e e' : Entry δ} {w w' : World (τ × History δ)} {f : Fault} :
      e.queue ≠ [] → e.pass (watched process) w = (.error f, e', w') →
      Course process (fuel + 1) e w [] (.error f, e', w')
  | spent {e : Entry δ} {w : World (τ × History δ)} : e.queue ≠ [] →
      Course process 0 e w [] (.error .endless, e, w)

theorem passesWith_empty {process : Process τ δ} {e : Entry δ} (none : e.queue = []) (fuel : Nat)
    (w : World τ) : passesWith process fuel e w = (.ok (), e, w) := by
  cases fuel <;> rw [passesWith, if_pos (List.isEmpty_iff.2 none)]

section Unrolling

variable {process : Process τ δ} {w w' : World τ} {f : Fault}

theorem passesWith_broken (queued : e.queue ≠ [])
    (ran : e.pass process w = (.error f, e', w')) (fuel : Nat) :
    passesWith process (fuel + 1) e w = (.error f, e', w') := by
  rw [passesWith, if_neg (by simpa using queued), ran]

theorem passesWith_stuck (queued : e.queue ≠ []) (ran : e.pass process w = (.ok (), e', w'))
    (same : e'.queue.length = e.queue.length) (fuel : Nat) :
    passesWith process (fuel + 1) e w = (.ok (), e', w') := by
  rw [passesWith, if_neg (by simpa using queued), ran]
  exact if_pos same

theorem passesWith_again (queued : e.queue ≠ []) (ran : e.pass process w = (.ok (), e', w'))
    (differ : e'.queue.length ≠ e.queue.length) (fuel : Nat) :
    passesWith process (fuel + 1) e w = passesWith process fuel e' w' := by
  rw [passesWith, if_neg (by simpa using queued), ran]
  exact if_neg differ

end Unrolling

/-- The loop is a run by the rule. -/
theorem passesWith_course (process : Process τ δ) (fuel : Nat) (e : Entry δ)
    (w : World (τ × History δ)) :
    ∃ ls : List (Lap δ), Course process fuel e w ls (passesWith (watched process) fuel e w) ∧
      ∀ l ∈ ls, l.Balanced := by
  induction fuel generalizing e w with
  | zero =>
      by_cases none : e.queue = []
      · rw [passesWith_empty none]
        exact ⟨[], .empty none, by simp⟩
      · rw [passesWith, if_neg (by simpa using none)]
        exact ⟨[], .spent none, by simp⟩
  | succ fuel ih =>
      by_cases none : e.queue = []
      · rw [passesWith_empty none]
        exact ⟨[], .empty none, by simp⟩
      · cases ran : e.pass (watched process) w with
        | mk result rest =>
            obtain ⟨mid, between⟩ := rest
            cases result with
            | error f =>
                rw [passesWith_broken none ran]
                exact ⟨[], .broken none ran, by simp⟩
            | ok _ =>
                obtain ⟨h, called, tells⟩ := pass_tells ran
                have balanced : Lap.Balanced ⟨e.queue, h, mid.queue⟩ := ⟨called, tells.balance⟩
                by_cases goesOn : Lap.GoesOn ⟨e.queue, h, mid.queue⟩
                · rw [passesWith_again none ran (balanced.length_ne_iff.2 goesOn.2)]
                  obtain ⟨ls, course, others⟩ := ih mid between
                  exact ⟨_, .again none ran tells.told goesOn course, by simpa using ⟨balanced, others⟩⟩
                · -- The loop ends here: by the length of the queue, or because it is empty.
                  have ends : passesWith (watched process) (fuel + 1) e w = (.ok (), mid, between) := by
                    by_cases same : mid.queue.length = e.queue.length
                    · exact passesWith_stuck none ran same fuel
                    · rw [passesWith_again none ran same]
                      refine passesWith_empty ?_ fuel between
                      by_contra some
                      exact goesOn ⟨some, balanced.length_ne_iff.1 same⟩
                  rw [ends]
                  exact ⟨_, .last none ran tells.told goesOn, by simpa using balanced⟩

/-- A run returns with work left right after a pass that does not go on. -/
theorem Course.gives_up_iff {fuel : Nat} {ls : List (Lap δ)}
    {outcome : Except Fault Unit × Entry δ × World (τ × History δ)}
    (course : Course process fuel e w ls outcome) :
    outcome.1 = .ok () ∧ outcome.2.1.queue ≠ [] ↔
      ∃ l, ls.getLast? = some l ∧ l.left ≠ [] ∧ l.events.successes = l.events.added.length := by
  induction course with
  | empty none => simp [none]
  | @again fuel e mid w between h ls outcome _ _ _ goesOn _ ih =>
      rw [ih]
      cases ls with
      | nil =>
          have differ : h.successes ≠ (History.added h).length := goesOn.2
          simp [differ]
      | cons l ls => rw [List.getLast?_cons_cons]
  | @last fuel e e' w w' h _ _ _ stops =>
      rw [Lap.GoesOn, not_and_not_right] at stops
      simp only [true_and, List.getLast?_singleton, Option.some.injEq, exists_eq_left']
      exact ⟨fun some => ⟨some, stops some⟩, And.left⟩
  | broken _ _ => simp
  | spent _ => simp

/-- What a run over the queue returns when its loop ends, and how it leaves the entry. -/
theorem processAll_eq (process : Process τ δ) (fuel : Nat) (e : Entry δ) (w : World τ) :
    let loop := passesWith process fuel { e with failures := [] } w
    (e.processAll process fuel w).1 = loop.1.map (fun _ => loop.2.1.queue.isEmpty) ∧
      (e.processAll process fuel w).2.1 =
        if loop.1 = .ok () then concluded e.queue.length loop.2.1 else loop.2.1 := by
  unfold processAll
  dsimp only
  generalize passesWith process fuel { e with failures := [] } w = loop
  obtain ⟨result, mid, next⟩ := loop
  cases result with
  | error f => exact ⟨rfl, (if_neg nofun).symm⟩
  | ok _ =>
      refine ⟨?_, (conclude_spec e.queue.length mid next).1⟩
      unfold conclude
      dsimp only
      split
      · next none => exact congrArg Except.ok none.symm
      · next some => exact congrArg Except.ok (Bool.eq_false_iff.2 some).symm

/-- A run that returns concludes what its loop left. -/
theorem processAll_returned {process : Process τ δ} {fuel : Nat} {e : Entry δ} {w : World τ}
    {loop : Except Fault Unit × Entry δ × World τ} {b : Bool}
    (ran : passesWith process fuel { e with failures := [] } w = loop)
    (returned : (e.processAll process fuel w).1 = .ok b) :
    loop.1 = .ok () ∧ loop.2.1.queue.isEmpty = b ∧
      (e.processAll process fuel w).2.1 = concluded e.queue.length loop.2.1 := by
  obtain ⟨result, entry⟩ := processAll_eq process fuel e w
  rw [ran] at result entry
  rw [returned] at result
  cases ended : loop.1 with
  | error f =>
      rw [ended] at result
      cases result
  | ok _ =>
      rw [ended] at result
      exact ⟨rfl, (Except.ok.inj result).symm, entry.trans (if_pos ended)⟩

/-- What the retry loop does in a run over the queue. -/
structure Ruled (process : Process τ δ) (fuel : Nat) (e : Entry δ) (w : World τ)
    (ls : List (Lap δ)) (outcome : Except Fault Unit × Entry δ × World (τ × History δ)) : Prop where
  /-- After each of its passes there is another one if and only if the rule says so. -/
  course : Course process fuel { e with failures := [] } (w.beside []) ls outcome
  balanced : ∀ l ∈ ls, l.Balanced
  /-- After a pass that queues nothing, there is another one if and only if something succeeded
  and work is left. -/
  quiet : ∀ l ∈ ls, l.events.added = [] → (l.GoesOn ↔ l.Succeeds)
  result : (e.processAll process fuel w).1 = outcome.1.map fun _ => outcome.2.1.queue.isEmpty
  /-- It gives up right after a pass with as many successes as additions that leaves work. -/
  gives_up : (e.processAll process fuel w).1 = .ok false ↔
    ∃ l, ls.getLast? = some l ∧ l.left ≠ [] ∧ l.events.successes = l.events.added.length
  stalled : (e.processAll process fuel w).1 = .ok false →
    (e.processAll process fuel w).2.1.state = .stalled

/-- **The stop rule of the retry loop.** -/
theorem processAll_ruled (process : Process τ δ) (fuel : Nat) (e : Entry δ) (w : World τ) :
    ∃ ls outcome, Ruled process fuel e w ls outcome := by
  obtain ⟨ls, course, balanced⟩ :=
    passesWith_course process fuel { e with failures := [] } (w.beside [])
  have same := passesWith_image (watched_projects process) fuel { e with failures := [] } (w.beside [])
  obtain ⟨result, entry⟩ := processAll_eq process fuel e w
  rw [← World.inner_beside w ([] : History δ), same, World.inner_beside] at result entry
  have gives_up := course.gives_up_iff
  generalize passesWith (watched process) fuel { e with failures := [] } (w.beside []) = outcome
    at course gives_up result entry
  dsimp only at result entry
  have fails : (e.processAll process fuel w).1 = .ok false ↔
      outcome.1 = .ok () ∧ outcome.2.1.queue ≠ [] := by
    rw [result]
    cases outcome.1 <;> simp [Except.map]
  refine ⟨ls, outcome, course, balanced, fun l _ => Lap.goesOn_of_quiet, result,
    fails.trans gives_up, fun returned => ?_⟩
  obtain ⟨ended, some⟩ := fails.1 returned
  rw [entry, if_pos ended, concluded, if_neg (by simpa using some)]

/-! ## Two small runs -/

namespace Sample

/-- The first errand queues the second one and is done.  The third is never done and queues the
second one when it is first tried.  Nothing else is ever done. -/
def errands : Process Nat Chore := fun d w =>
  match d.number with
  | 0 => (.ok true, [⟨1⟩], w)
  | 2 => (.ok false, if w.own = 0 then [⟨1⟩] else [], { w with own := w.own + 1 })
  | _ => (.ok false, [], w)

/-- An entry with one errand. -/
def errand (number : Nat) : Entry Chore where
  marker := .derive .root 2 "Errand" (some "sample") (some (.kind .type))
  queue := [⟨number⟩]

def runErrand (number : Nat) : Except Fault Bool × Entry Chore × World Nat :=
  processAll errands 5 (errand number) { own := 0 }

/-- A pass with a success is not followed by another one although work is left, and a pass without
one is. -/
theorem early_and_late :
    ((runErrand 0).1 = .ok false ∧ (runErrand 0).2.1.state = .stalled ∧
      (runErrand 0).2.1.passes = 1 ∧ (runErrand 0).2.1.succeeded = 1) ∧
    ((runErrand 2).1 = .ok false ∧ (runErrand 2).2.1.passes = 2 ∧
      (runErrand 2).2.1.succeeded = 0) := by
  decide +kernel

end Sample

end Marking.Entry
