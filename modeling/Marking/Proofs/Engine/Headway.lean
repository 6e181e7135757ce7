/-
# Marking.Proofs.Engine.Headway -- what counts as progress in a round

A run over the queue of an entry notes by how much the queue became shorter, and a round of
retries counts as progress when some entry noted a positive number.  The number is not that of the
successes: work that was queued meanwhile is taken off it (`Entry.Counted`).  So it is the number
of successes exactly when nothing was queued; a round makes progress when at some entry more work
succeeded than was queued; and where processing queues nothing, as in the runs of an engine, it
makes progress exactly when something succeeded (`headway`).

The count of successes that an entry keeps over its life has no such gap (`Counted.succeeded`).
-/
import Marking.Proofs.Engine.Recording
import Marking.Proofs.Engine.Likeness
import Marking.Proofs.Engine.Stations
import Marking.Proofs.Entry.Stopping

set_option autoImplicit false

namespace Marking

namespace Entry

variable {τ δ : Type}

/-! ## One entry -/

/-- What a run over the queue made of an entry, by what happened meanwhile. -/
structure Counted (h : History δ) (e e' : Entry δ) : Prop where
  removed : e'.removed = (h.successes : Int) - h.added.length
  succeeded : e'.succeeded = e.succeeded + h.successes
  balance : e'.queue.length + h.successes = e.queue.length + h.added.length

/-- What was noted is the number of successes exactly when nothing was queued. -/
theorem Counted.removed_eq_iff {h : History δ} {e e' : Entry δ} (counted : Counted h e e') :
    e'.removed = h.successes ↔ h.added = [] := by
  rw [counted.removed, ← List.length_eq_zero_iff]
  omega

/-- A positive number is noted when more succeeded than was queued. -/
theorem Counted.removed_pos_iff {h : History δ} {e e' : Entry δ} (counted : Counted h e e') :
    0 < e'.removed ↔ h.added.length < h.successes := by
  rw [counted.removed]
  omega

variable [Work δ]

/-- A pass tells the events that were added to the history. -/
theorem pass_tells_added {process : Process τ δ} {e e' : Entry δ} {w w' : World (τ × History δ)}
    {h : History δ} (ran : e.pass (watched process) w = (.ok (), e', w'))
    (added : w'.own.2 = w.own.2 ++ h) : Tells h e w e' w' := by
  obtain ⟨k, -, tells⟩ := pass_tells ran
  have same : k = h := List.append_cancel_left (tells.told.symm.trans added)
  exact same ▸ tells

/-- A run that returns tells what its completed passes tell. -/
theorem Course.tells {process : Process τ δ} {fuel : Nat} {e : Entry δ} {w : World (τ × History δ)}
    {ls : List (Lap δ)} {outcome : Except Fault Unit × Entry δ × World (τ × History δ)}
    (course : Course process fuel e w ls outcome) (returned : outcome.1 = .ok ()) :
    Tells (ls.flatMap Lap.events) e w outcome.2.1 outcome.2.2 := by
  induction course with
  | empty _ => exact .none _ _
  | again _ ran told _ _ ih => exact (pass_tells_added ran told).trans (ih returned)
  | last _ ran told _ =>
      rw [List.flatMap_singleton]
      exact pass_tells_added ran told
  | broken _ _ => cases returned
  | spent _ => cases returned

theorem processAll_counted {process : Process τ δ} {fuel : Nat} {e e' : Entry δ}
    {w w' : World (τ × History δ)} {b : Bool}
    (ok : e.processAll (watched process) fuel w = (.ok b, e', w')) :
    ∃ h : History δ, w'.own.2 = w.own.2 ++ h ∧ Counted h e e' := by
  obtain ⟨ls, course, -⟩ := passesWith_course process fuel { e with failures := [] } w
  unfold processAll at ok
  dsimp only at ok
  generalize passesWith (watched process) fuel { e with failures := [] } w = loop at course ok
  obtain ⟨result, mid, next⟩ := loop
  cases result with
  | error f => cases ok
  | ok _ =>
      have tells := course.tells rfl
      obtain ⟨isConcluded, j, noted⟩ := conclude_spec e.queue.length mid next
      cases ok
      rw [isConcluded, noted]
      refine ⟨_, tells.told, ?_, tells.succeeded, tells.balance⟩
      have balance := tells.balance
      rw [removed_concluded]
      dsimp only at balance
      omega

/-- A run over the queue that returns, with all that happens during it. -/
theorem events_counted {process : Process τ δ} {fuel : Nat} {e e' : Entry δ} {w w' : World τ}
    {b : Bool} (ok : e.processAll process fuel w = (.ok b, e', w')) :
    Counted (events process fuel e w) e e' := by
  have same := processAll_image (watched_projects process) fuel e (w.beside [])
  rw [World.inner_beside, ok] at same
  obtain ⟨h, told, counted⟩ := processAll_counted (eq_of_image same)
  have told : events process fuel e w = h := told
  exact told ▸ counted

omit [Work δ] in
/-- Watching keeps no additions where processing queues nothing. -/
theorem watched_quiet {process : Process τ δ} (quiet : ∀ d w, (process d w).2.1 = []) :
    Keeps (fun _ => True) (fun w => w.own.2.added = []) (watched process) where
  note _ none := none
  world {d w} _ none := by
    show History.added (w.own.2 ++ [.called ⟨d, _⟩ (process d w.inner).2.1]) = []
    rw [History.added_snoc, none, quiet]
    rfl
  queued _ _ _ _ := trivial

end Entry

namespace Engine

open Entry (Counted History watched)

variable {σ τ : Type} {process : Entry.Process τ (Delegate σ)} {e e' : Engine σ} {is : List Nat}

/-! ## A round -/

/-- What a round made of the entry of a station, by what happened there. -/
def Visited (e e' : Engine σ) (i : Nat) (h : History (Delegate σ)) : Prop :=
  ∃ s s', e.stations[i]? = some s ∧ e'.stations[i]? = some s' ∧ Counted h s.entry s'.entry

def roundEvents (process : Entry.Process τ (Delegate σ)) (e : Engine σ) (w : World τ) :
    History (Delegate σ) :=
  (retryAt (watched process) e.unfinished e (w.beside [])).2.2.own.2

theorem retryAt_elsewhere {b : Bool} {w w' : World τ} (ok : retryAt process is e w = (.ok b, e', w'))
    {i : Nat} (notHere : i ∉ is) : e'.stations[i]? = e.stations[i]? := by
  induction is generalizing e w b with
  | nil =>
      cases ok
      rfl
  | cons j is ih =>
      have later : i ∉ is := fun member => notHere (List.mem_cons_of_mem j member)
      cases there : e.stations[j]? with
      | none =>
          rw [retryAt, there] at ok
          exact ih ok later
      | some s =>
          obtain ⟨_, entry, next, more, -, rest, -⟩ := retryAt_cons_ok there ok
          have differ : j ≠ i := fun same => notHere (same ▸ List.mem_cons_self)
          rw [ih rest later, List.getElem?_set_ne differ]

/-- A round at distinct stations tells what happened at each of them.  The induction is on the
stations that are still to be visited, which are as they were at the start of the round. -/
theorem retryAt_counted {start : Engine σ} {b : Bool} {w w' : World (τ × History (Delegate σ))}
    (ok : retryAt (watched process) is e w = (.ok b, e', w')) (nodup : is.Nodup)
    (still : ∀ i ∈ is, ∃ s, start.stations[i]? = some s ∧ e.stations[i]? = some s) :
    ∃ hs : List (History (Delegate σ)), w'.own.2 = w.own.2 ++ hs.flatten ∧
      List.Forall₂ (Visited start e') is hs ∧
      (b = true ↔ ∃ h ∈ hs, h.added.length < h.successes) := by
  induction is generalizing e w b with
  | nil =>
      cases ok
      exact ⟨[], (List.append_nil _).symm, .nil, by simp⟩
  | cons i is ih =>
      obtain ⟨once, nodupRest⟩ := List.nodup_cons.1 nodup
      obtain ⟨s, atStart, there⟩ := still i List.mem_cons_self
      obtain ⟨done, entry, next, more, ran, rest, rfl⟩ := retryAt_cons_ok there ok
      obtain ⟨h, told, counted⟩ := Entry.processAll_counted ran
      obtain ⟨hs, later, visited, progress⟩ := ih rest nodupRest fun j member => by
        obtain ⟨t, before, now⟩ := still j (List.mem_cons_of_mem i member)
        have differ : i ≠ j := fun same => once (same ▸ member)
        exact ⟨t, before, by rw [List.getElem?_set_ne differ, now]⟩
      have final : e'.stations[i]? = some { s with entry } := by
        obtain ⟨inside, -⟩ := List.getElem?_eq_some_iff.1 there
        rw [retryAt_elsewhere rest once, List.getElem?_set_self inside]
      refine ⟨h :: hs, ?_, .cons ⟨s, _, atStart, final, counted⟩ visited, ?_⟩
      · rw [later, told, List.flatten_cons, List.append_assoc]
      · rw [Bool.or_eq_true, decide_eq_true_iff, counted.removed_pos_iff, progress,
          List.exists_mem_cons_iff]

/-- Nothing is added in a round where processing queues nothing. -/
theorem roundEvents_quiet (quiet : ∀ d w, (process d w).2.1 = []) (e : Engine σ) (w : World τ) :
    (roundEvents process e w).added = [] := by
  have abreast : Abreast (Entry.Both fun _ => True) e e :=
    ⟨List.forall₂_same.2 fun _ _ => .both fun _ _ => trivial, rfl⟩
  exact (retryAt_alike (Entry.watched_quiet quiet).agrees e.unfinished abreast ⟨rfl, rfl⟩).world.2

/-- Where nothing was added, more succeeded than was added when some call succeeded. -/
theorem ahead_iff_of_quiet {hs : List (History (Delegate σ))}
    (quiet : History.added hs.flatten = []) :
    (∃ h ∈ hs, h.added.length < h.successes) ↔
      ∃ c ∈ History.calls hs.flatten, c.succeeded = true := by
  have calls : ∀ c, c ∈ History.calls hs.flatten ↔ ∃ h ∈ hs, c ∈ History.calls h := by
    intro c
    rw [History.calls, List.filterMap_flatten, ← List.flatMap_def, List.mem_flatMap]
    rfl
  have ahead : ∀ h ∈ hs, h.added.length < h.successes ↔ ∃ c ∈ h.calls, c.succeeded = true := by
    intro h member
    have none : h.added = [] := by
      rw [History.added, List.flatMap_eq_nil_iff] at quiet ⊢
      exact fun v inside => quiet v (List.mem_flatten_of_mem member inside)
    rw [none, ← History.successes_ne_zero_iff]
    exact Nat.pos_iff_ne_zero
  constructor
  · rintro ⟨h, member, more⟩
    obtain ⟨c, called, succeeded⟩ := (ahead h member).1 more
    exact ⟨c, (calls c).2 ⟨h, member, called⟩, succeeded⟩
  · rintro ⟨c, called, succeeded⟩
    obtain ⟨h, member, inside⟩ := (calls c).1 called
    exact ⟨h, member, (ahead h member).2 ⟨c, inside, succeeded⟩⟩

/-- What counts as progress in a round over the entries with work left. -/
structure Headway (process : Entry.Process τ (Delegate σ)) (e : Engine σ) (w : World τ) (b : Bool)
    (e' : Engine σ) (hs : List (History (Delegate σ))) : Prop where
  /-- What happened is what happened at one entry after the other. -/
  told : roundEvents process e w = hs.flatten
  visited : List.Forall₂ (Visited e e') e.unfinished hs
  progress : b = true ↔ ∃ h ∈ hs, h.added.length < h.successes
  /-- Where processing queues nothing, progress is that something succeeded. -/
  quiet : (∀ d w, (process d w).2.1 = []) →
    (b = true ↔ ∃ c ∈ (roundEvents process e w).calls, c.succeeded = true)

/-- A round that returns has made progress when, at some entry, more succeeded than was queued. -/
theorem retryAt_headway {b : Bool} {w w' : World τ}
    (ok : retryAt process e.unfinished e w = (.ok b, e', w')) :
    ∃ hs, Headway process e w b e' hs := by
  have same := retryAt_image (Entry.watched_projects process) e.unfinished e (w.beside [])
  rw [World.inner_beside, ok] at same
  have ran := Entry.eq_of_image same
  have still : ∀ i ∈ e.unfinished, ∃ s, e.stations[i]? = some s ∧ e.stations[i]? = some s := by
    intro i member
    have inside : i < e.stations.length := List.mem_range.1 (List.mem_of_mem_filter member)
    exact ⟨_, List.getElem?_eq_getElem inside, List.getElem?_eq_getElem inside⟩
  obtain ⟨hs, told, visited, progress⟩ := retryAt_counted ran e.unfinished_nodup still
  have told : roundEvents process e w = hs.flatten := told
  refine ⟨hs, told, visited, progress, fun quiet => ?_⟩
  rw [told, progress]
  exact ahead_iff_of_quiet (told ▸ roundEvents_quiet quiet e w)

end Engine

/-- **What counts as progress.**  A run over the queue of an entry that returns notes the successes
less the additions, and a round of retries that returns counts as progress when at some entry there
were more successes than additions. -/
theorem headway {σ τ ρ δ : Type} [Work δ] (process : Entry.Process τ δ)
    (work : Entry.Process ρ (Delegate σ)) :
    (∀ (fuel : Nat) (e e' : Entry δ) (w w' : World τ) (b : Bool),
      e.processAll process fuel w = (.ok b, e', w') →
        Entry.Counted (Entry.events process fuel e w) e e' ∧
          (e'.removed = (Entry.events process fuel e w).successes ↔
            (Entry.events process fuel e w).added = [])) ∧
    ∀ (e e' : Engine σ) (w w' : World ρ) (b : Bool),
      Engine.retryAt work e.unfinished e w = (.ok b, e', w') →
        ∃ hs, Engine.Headway work e w b e' hs := by
  refine ⟨fun fuel e e' w w' b ok => ?_, fun _ _ _ _ _ ok => Engine.retryAt_headway ok⟩
  have counted := Entry.events_counted ok
  exact ⟨counted, counted.removed_eq_iff⟩

namespace Sample

/-- The small run with `base` and another type, up to its execution. -/
def planned : Engine Bool :=
  ((run false).engine.plan (run false).scanner (run false).context (run false).world).2.1

/-- The first delegate is done, and queued again with a number of its own.  Nothing else is ever
done. -/
def renewing : Entry.Process Bool (Delegate Bool) := fun d w =>
  (.ok (d.serial == 0), if d.serial = 0 then [{ d with serial := 2 }] else [], w)

/-- Something succeeded and work was queued: the entry notes nothing, and the round counts as one
without progress. -/
theorem success_unnoticed :
    ((Entry.Sample.runErrand 0).1 = .ok false ∧ (Entry.Sample.runErrand 0).2.1.succeeded = 1 ∧
      (Entry.Sample.runErrand 0).2.1.removed = 0) ∧
    (Engine.retryAt renewing planned.unfinished planned { own := false }).1 = .ok false ∧
      (Engine.retryAt renewing planned.unfinished planned { own := false }).2.1.stations.map
        (fun s => s.entry.succeeded) = [1] := by
  decide +kernel

/-- A run over one entry, and a round of the engine in its own way of processing. -/
theorem headway_told :
    Entry.Counted (Entry.events Entry.Sample.errands 5 (Entry.Sample.errand 0) { own := 0 })
        (Entry.Sample.errand 0) (Entry.Sample.runErrand 0).2.1 ∧
      ∃ e' hs, Engine.Headway (Engine.work {}) planned { own := false } true e' hs := by
  have returned : (Entry.Sample.runErrand 0).1 = .ok false := by decide +kernel
  have progressed : (Engine.retryAt (Engine.work {}) planned.unfinished planned
      { own := false }).1 = .ok true := by decide +kernel
  obtain ⟨counts, rounds⟩ := headway Entry.Sample.errands (Engine.work {})
  obtain ⟨hs, told⟩ := rounds planned _ { own := false } _ true (Prod.ext progressed rfl)
  exact ⟨(counts 5 (Entry.Sample.errand 0) _ { own := 0 } _ false (Prod.ext returned rfl)).1, _, hs,
    told⟩

end Sample

end Marking
