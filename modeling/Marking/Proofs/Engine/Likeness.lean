/-
# Marking.Proofs.Engine.Likeness -- engines with like work do it alike

The stages that do the work of a run see the engine as a list of entries and a limit on rounds.
When two engines have like entries (`Entry.Alike`), and their plans schedule like units, what the
one does with one way of processing the other does with any way that agrees with it: results and
reports are equal, entries stay alike, and worlds stay related.

Again the relation of a world to itself says what a run keeps (`perform_keeps`), now of work of
a certain kind only.
-/
import Marking.Engine
import Marking.Proofs.DependencyGraph.Likeness
import Marking.Proofs.Entry.Likeness

set_option autoImplicit false

namespace Marking

variable {σ τ ρ υ : Type}

/-- The stages do what the plan says about like units, and report the same about it. -/
structure Plan.Alike (D : Delegate σ → Delegate τ → Prop) (p : Plan σ) (p' : Plan τ) : Prop where
  schedule : Schedule.Alike D p.schedule p'.schedule
  missing : p.missing = p'.missing
  structural : p.structural = p'.structural

namespace Engine

open Entry (Agrees)

/-- The engines have like entries, station by station, and the same limit. -/
structure Abreast (D : Delegate σ → Delegate τ → Prop) (e : Engine σ) (e' : Engine τ) : Prop where
  stations : List.Forall₂ (fun s s' => Entry.Alike D s.entry s'.entry) e.stations e'.stations
  settings : e.settings = e'.settings

variable {D : Delegate σ → Delegate τ → Prop} {R : World ρ → World υ → Prop}
  {process : Entry.Process ρ (Delegate σ)} {process' : Entry.Process υ (Delegate τ)}
  {e : Engine σ} {e' : Engine τ} {w : World ρ} {w' : World υ}

theorem Abreast.station (h : Abreast D e e') (i : Nat) :
    Option.Rel (fun s s' => Entry.Alike D s.entry s'.entry) e.stations[i]? e'.stations[i]? := by
  obtain ⟨stations, -⟩ := h
  generalize e.stations = ss at stations ⊢
  generalize e'.stations = ss' at stations ⊢
  induction stations generalizing i with
  | nil => exact .none
  | cons first _ ih =>
      cases i with
      | zero => exact .some first
      | succ i => exact ih i

theorem Abreast.set (h : Abreast D e e') (i : Nat) (s : Station σ) (s' : Station τ)
    (like : Entry.Alike D s.entry s'.entry) :
    Abreast D { e with stations := e.stations.set i s } { e' with stations := e'.stations.set i s' } := by
  refine ⟨?_, h.settings⟩
  obtain ⟨stations, -⟩ := h
  show List.Forall₂ _ (e.stations.set i s) (e'.stations.set i s')
  generalize e.stations = ss at stations ⊢
  generalize e'.stations = ss' at stations ⊢
  induction stations generalizing i with
  | nil => exact .nil
  | cons first rest ih =>
      cases i with
      | zero => exact .cons like rest
      | succ i => exact .cons first (ih i)

theorem attempt_alike (agrees : Agrees D R process process') (h : Abreast D e e')
    {d : Delegate σ} {d' : Delegate τ} (like : D d d') (home : d.entry = d'.entry) (worlds : R w w') :
    Matches (· = ·) (Abreast D) R (attempt process e d w) (attempt process' e' d' w') := by
  have here := h.station d'.entry
  rw [attempt, attempt, home]
  generalize found : e.stations[d'.entry]? = s? at here ⊢
  generalize found' : e'.stations[d'.entry]? = s?' at here ⊢
  cases here with
  | none => exact ⟨rfl, h, worlds⟩
  | @some s s' same =>
      obtain ⟨result, entry, next, _, entry', next', ran, ran', rfl, likeEntry, likeNext⟩ :=
        (Entry.attempt_alike agrees same like worlds).parts
      dsimp only
      rw [ran, ran']
      exact ⟨rfl, h.set _ _ _ likeEntry, likeNext⟩

theorem execute_alike (agrees : Agrees D R process process')
    (home : ∀ d d', D d d' → d.entry = d'.entry) (h : Abreast D e e') {ds : List (Delegate σ)}
    {ds' : List (Delegate τ)} (like : List.Forall₂ D ds ds') (worlds : R w w') :
    Matches (· = ·) (Abreast D) R (execute process ds e w) (execute process' ds' e' w') := by
  induction like generalizing e e' w w' with
  | nil => exact ⟨rfl, h, worlds⟩
  | @cons d d' ds ds' first _ ih =>
      obtain ⟨result, mid, next, _, mid', next', ran, ran', rfl, likeMid, likeNext⟩ :=
        (attempt_alike agrees h first (home d d' first) worlds).parts
      rw [execute, execute, ran, ran']
      cases result with
      | error _ => exact ⟨rfl, likeMid, likeNext⟩
      | ok _ => exact ih likeMid likeNext

theorem unfinished_alike (h : Abreast D e e') : e.unfinished = e'.unfinished := by
  rw [unfinished, unfinished, h.stations.length_eq]
  refine List.filter_congr fun i _ => ?_
  have here := h.station i
  generalize e.stations[i]? = s? at here ⊢
  generalize e'.stations[i]? = s?' at here ⊢
  cases here with
  | none => rfl
  | some same =>
      dsimp only
      rw [Entry.isComplete, Entry.isComplete, Entry.isEmpty_alike same.queue]

theorem retryAt_alike (agrees : Agrees D R process process') (is : List Nat) (h : Abreast D e e')
    (worlds : R w w') :
    Matches (· = ·) (Abreast D) R (retryAt process is e w) (retryAt process' is e' w') := by
  induction is generalizing e e' w w' with
  | nil => exact ⟨rfl, h, worlds⟩
  | cons i is ih =>
      have here := h.station i
      rw [retryAt, retryAt]
      generalize found : e.stations[i]? = s? at here ⊢
      generalize found' : e'.stations[i]? = s?' at here ⊢
      cases here with
      | none => exact ih h worlds
      | @some s s' same =>
          obtain ⟨result, entry, next, _, entry', next', ran, ran', rfl, likeEntry, likeNext⟩ :=
            (Entry.processAll_alike agrees s.entry.queue.length same worlds).parts
          dsimp only
          rw [← same.queue.length_eq, ran, ran']
          cases result with
          | error _ => exact ⟨rfl, h.set _ _ _ likeEntry, likeNext⟩
          | ok _ =>
              obtain ⟨more, last, final, _, last', final', rest, rest', rfl, likeLast, likeFinal⟩ :=
                (ih (h.set i { s with entry } { s' with entry := entry' } likeEntry) likeNext).parts
              dsimp only
              rw [rest, rest', likeEntry.removed]
              exact ⟨rfl, likeLast, likeFinal⟩

theorem retry_alike (agrees : Agrees D R process process') (limit rounds : Nat)
    (h : Abreast D e e') (worlds : R w w') :
    Matches (· = ·) (Abreast D) R (retry process limit rounds e w)
      (retry process' limit rounds e' w') := by
  induction limit generalizing rounds e e' w w' with
  | zero => exact ⟨rfl, h, worlds⟩
  | succ limit ih =>
      rw [retry, retry, unfinished_alike h]
      cases e'.unfinished with
      | nil => exact ⟨rfl, h, worlds⟩
      | cons i is =>
          obtain ⟨result, mid, next, _, mid', next', ran, ran', rfl, likeMid, likeNext⟩ :=
            (retryAt_alike agrees (i :: is) h worlds).parts
          dsimp only
          rw [ran, ran']
          cases result with
          | error _ => exact ⟨rfl, likeMid, likeNext⟩
          | ok progress =>
              dsimp only
              split
              · exact ih (rounds + 1) likeMid (agrees.note _ likeNext)
              · exact ⟨rfl, likeMid, agrees.note _ likeNext⟩

/-- The summary of an entry tells nothing of its work but the keys. -/
theorem summary_alike (agrees : Agrees D R process process') {x : Entry (Delegate σ)}
    {y : Entry (Delegate τ)} (same : Entry.Alike D x y) :
    EntrySummary.ofEntry x = EntrySummary.ofEntry y := by
  have pending : x.pendingKeys = y.pendingKeys := by
    rw [Entry.pendingKeys, Entry.pendingKeys]
    exact map_eq_of_forall₂ same.queue fun _ _ like => agrees.key like
  have errors : x.errors = y.errors := by
    rw [Entry.errors, Entry.errors]
    have queue := same.queue
    generalize x.queue = ds at queue ⊢
    generalize y.queue = ds' at queue ⊢
    induction queue with
    | nil => rfl
    | @cons d d' ds ds' first _ ih =>
        rw [List.filterMap_cons, List.filterMap_cons, ih, Entry.failureOf?, Entry.failureOf?,
          agrees.serial first, same.failures]
  rw [EntrySummary.ofEntry, EntrySummary.ofEntry, Entry.name, Entry.name, same.marker, same.state,
    same.passes, same.succeeded, pending, errors]

theorem reportOn_alike (agrees : Agrees D R process process') {plan : Plan σ} {plan' : Plan τ}
    (plans : Plan.Alike D plan plan') (h : Abreast D e e') (rounds : Nat) :
    reportOn plan e rounds = reportOn plan' e' rounds := by
  have entries : e.stations.map (fun s => EntrySummary.ofEntry s.entry) =
      e'.stations.map fun s => EntrySummary.ofEntry s.entry :=
    map_eq_of_forall₂ h.stations fun _ _ same => summary_alike agrees same
  have order : plan.schedule.keys = plan'.schedule.keys := keys_alike plans.schedule.order
  rw [reportOn, reportOn, order, plans.schedule.cycles, plans.schedule.forced, plans.missing,
    plans.structural, entries]

/-- **Engines with like work do it alike**, and report the same. -/
theorem perform_alike (agrees : Agrees D R process process')
    (home : ∀ d d', D d d' → d.entry = d'.entry) {plan : Plan σ} {plan' : Plan τ}
    (plans : Plan.Alike D plan plan') (h : Abreast D e e') (worlds : R w w') :
    Matches (· = ·) (Abreast D) R (perform process plan e w) (perform process' plan' e' w') := by
  obtain ⟨result, mid, next, _, mid', next', ran, ran', rfl, likeMid, likeNext⟩ :=
    (execute_alike agrees home h (items_alike plans.schedule.order) worlds).parts
  rw [perform, perform, ran, ran']
  cases result with
  | error _ => exact ⟨rfl, likeMid, likeNext⟩
  | ok _ =>
      obtain ⟨result, last, final, _, last', final', rest, rest', rfl, likeLast, likeFinal⟩ :=
        (retry_alike agrees mid.settings.maxRounds.toNat 0 likeMid likeNext).parts
      dsimp only
      rw [← likeMid.settings, rest, rest']
      cases result with
      | error _ => exact ⟨rfl, likeLast, likeFinal⟩
      | ok rounds =>
          exact ⟨congrArg Except.ok (reportOn_alike agrees plans likeLast rounds), likeLast, likeFinal⟩

/-- **Doing work of a kind keeps what processing such work keeps.** -/
theorem perform_keeps {G : Delegate σ → Prop} {P : World ρ → Prop}
    (keeps : Entry.Keeps G P process) {plan : Plan σ}
    (planned : ∀ u ∈ plan.schedule.order, ∀ d ∈ u.items, G d)
    (queued : ∀ s ∈ e.stations, ∀ d ∈ s.entry.queue, G d) (holds : P w) :
    P (perform process plan e w).2.2 := by
  have units : List.Forall₂ (WorkUnit.Alike (Entry.Both G)) plan.schedule.order plan.schedule.order :=
    List.forall₂_same.2 fun u member => ⟨rfl, Entry.forall₂_both (planned u member), rfl, rfl⟩
  have stations : Abreast (Entry.Both G) e e :=
    ⟨List.forall₂_same.2 fun s member => .both (queued s member), rfl⟩
  have same : Plan.Alike (Entry.Both G) plan plan := ⟨⟨units, rfl, rfl, rfl⟩, rfl, rfl⟩
  exact (perform_alike keeps.agrees (fun d d' both => congrArg Delegate.entry both.1) same stations
    ⟨rfl, holds⟩).world.2

end Engine

end Marking
