/-
# Marking.Proofs.Engine.Interruption -- a planned run returns unless a call ends it

The loops that do the work of a run have fuel or a limit, and a delegate is processed through
the registry of types before its handler is called.  None of this can fail once the run is
planned: a fault that ends the run was given by a call of a handler, and the report is returned
in every other case (`Run.Starts.returns_or_interrupted`).
-/
import Marking.Proofs.Engine.Running
import Marking.Proofs.Entry.Progress

set_option autoImplicit false

namespace Marking

variable {σ : Type}

namespace Engine

open Entry (Interrupted Observed Retries)

/-! ## What is queued -/

def Holds (e : Engine σ) (d : Delegate σ) : Prop := ∃ s ∈ e.stations, d ∈ s.entry.queue

variable {e e' : Engine σ} {cs : List (Call σ)} {b : Bool} {d : Delegate σ}

theorem holds_of_mapEntry {i : Nat} {f : Entry (Delegate σ) → Entry (Delegate σ)}
    (sub : ∀ s, e.stations[i]? = some s → (f s.entry).queue.Sublist s.entry.queue)
    (holds : (e.mapEntry i f).Holds d) : e.Holds d := by
  obtain ⟨t, member, queued⟩ := holds
  obtain ⟨j, found⟩ := List.mem_iff_getElem?.1 member
  rw [station_mapEntry] at found
  obtain ⟨s, there, rfl⟩ := Option.map_eq_some_iff.1 found
  refine ⟨s, List.mem_of_getElem? there, ?_⟩
  by_cases same : i = j
  · rw [if_pos same] at queued
    exact (sub s (same ▸ there)).subset queued
  · rwa [if_neg same] at queued

theorem holds_of_settleAll (holds : (e.settleAll cs).Holds d) : e.Holds d := by
  induction cs generalizing e with
  | nil => exact holds
  | cons c cs ih =>
      exact holds_of_mapEntry (fun s _ => Entry.queue_settle_sublist s.entry c) (ih holds)

theorem holds_of_concluded {i : Nat} {s : Station σ} {mid : Entry (Delegate σ)}
    (there : e.stations[i]? = some s) (retries : Retries { s.entry with failures := [] } cs mid)
    (initial : Nat) (holds : (e.mapEntry i fun _ => Entry.concluded initial mid).Holds d) :
    e.Holds d := by
  refine holds_of_mapEntry (fun t found => ?_) holds
  rw [there] at found
  cases found
  exact retries.queue_sublist

theorem Round.holds {is : List Nat} (round : Round is e cs e' b) (holds : e'.Holds d) :
    e.Holds d := by
  induction round with
  | done => exact holds
  | absent _ _ ih => exact ih holds
  | station there retries _ ih => exact holds_of_concluded there retries _ (ih holds)

/-! ## Stages that fail -/

variable {τ : Type} {process : Entry.Process τ (Delegate σ)} {log : Entry.Log τ (Delegate σ)}
  {w w' : World τ} {f : Fault}

theorem attempt_error (observed : Observed process log d)
    (ends : attempt process e d w = (.error f, e', w')) : Interrupted (log.calls w') f := by
  unfold attempt at ends
  cases there : e.stations[d.entry]? with
  | none =>
      rw [there] at ends
      cases ends
  | some s =>
      rw [there] at ends
      cases tried : s.entry.attempt process d w with
      | mk result rest =>
          simp only [tried] at ends
          cases result with
          | ok b => cases ends
          | error g =>
              cases ends
              exact Entry.attempt_error observed tried

theorem execute_error {ds : List (Delegate σ)} (observed : ∀ d ∈ ds, Observed process log d)
    (ends : execute process ds e w = (.error f, e', w')) : Interrupted (log.calls w') f := by
  induction ds generalizing e w with
  | nil => cases ends
  | cons d ds ih =>
      rw [execute] at ends
      cases first : attempt process e d w with
      | mk result rest =>
          obtain ⟨mid, next⟩ := rest
          rw [first] at ends
          cases result with
          | error g =>
              cases ends
              exact attempt_error (observed d List.mem_cons_self) first
          | ok _ => exact ih (fun x member => observed x (List.mem_cons_of_mem d member)) ends

theorem retryAt_error (h : Entry.Logs process log) {is : List Nat}
    (observed : ∀ d, e.Holds d → Observed process log d)
    (ends : retryAt process is e w = (.error f, e', w')) : Interrupted (log.calls w') f := by
  induction is generalizing e w e' w' with
  | nil => cases ends
  | cons i is ih =>
      rw [retryAt] at ends
      cases there : e.stations[i]? with
      | none =>
          rw [there] at ends
          exact ih observed ends
      | some s =>
          rw [there] at ends
          have here : ∀ d ∈ s.entry.queue, Observed process log d := fun d queued =>
            observed d ⟨s, List.mem_of_getElem? there, queued⟩
          cases ran : s.entry.processAll process s.entry.queue.length w with
          | mk result rest =>
              obtain ⟨entry, next⟩ := rest
              simp only [ran] at ends
              cases result with
              | error g =>
                  cases ends
                  exact Entry.processAll_error h here ran
              | ok done =>
                  obtain ⟨cs, mid, -, retries, rfl⟩ := Entry.processAll_spec h ran
                  rw [set_eq_mapEntry there fun _ => Entry.concluded s.entry.queue.length mid]
                    at ends
                  cases others : retryAt process is
                      (e.mapEntry i fun _ => Entry.concluded s.entry.queue.length mid) next with
                  | mk result rest =>
                      simp only [others] at ends
                      cases result with
                      | ok more => cases ends
                      | error g =>
                          cases ends
                          refine ih (fun d holds => observed d ?_) others
                          exact holds_of_concluded there retries _ holds

theorem retry_error (h : Entry.Logs process log) {limit rounds : Nat}
    (observed : ∀ d, e.Holds d → Observed process log d)
    (ends : retry process limit rounds e w = (.error f, e', w')) :
    Interrupted (log.calls w') f := by
  induction limit generalizing rounds e w with
  | zero => cases ends
  | succ limit ih =>
      rw [retry] at ends
      cases left : e.unfinished with
      | nil =>
          rw [left] at ends
          cases ends
      | cons i is =>
          rw [left] at ends
          cases ran : retryAt process (i :: is) e w with
          | mk result rest =>
              obtain ⟨mid, next⟩ := rest
              simp only [ran] at ends
              cases result with
              | error g =>
                  cases ends
                  exact retryAt_error h observed ran
              | ok progress =>
                  obtain ⟨cs, -, round⟩ := retryAt_spec h ran
                  cases progress with
                  | false => cases ends
                  | true => exact ih (fun d holds => observed d (round.holds holds)) ends

/-- **The planned work fails by one of its calls.** -/
theorem perform_error (h : Entry.Logs process log) {plan : Plan σ}
    (home : ∀ d ∈ plan.schedule.order.flatMap WorkUnit.items, d.entry < e.stations.length)
    (planned : ∀ d ∈ plan.schedule.order.flatMap WorkUnit.items, Observed process log d)
    (queued : ∀ d, e.Holds d → Observed process log d)
    (ends : perform process plan e w = (.error f, e', w')) : Interrupted (log.calls w') f := by
  unfold perform at ends
  cases executed : execute process (plan.schedule.order.flatMap WorkUnit.items) e w with
  | mk result rest =>
      obtain ⟨mid, next⟩ := rest
      simp only [executed] at ends
      cases result with
      | error g =>
          cases ends
          exact execute_error planned executed
      | ok _ =>
          obtain ⟨first, -, -, rfl⟩ := execute_spec h home executed
          dsimp only at ends
          cases retried : retry process (e.settleAll first).settings.maxRounds.toNat 0
              (e.settleAll first) next with
          | mk result rest =>
              simp only [retried] at ends
              cases result with
              | ok total => cases ends
              | error g =>
                  cases ends
                  exact retry_error h (fun d holds => queued d (holds_of_settleAll holds)) retried

end Engine

/-! ## Runs -/

/-- Every call of a delegate with a known owner is recorded. -/
theorem recordedWork_observes (ctx : Context) {d : Delegate σ} (owned : d.Owned) :
    Entry.Observed (Engine.recordedWork ctx) Engine.callLog d := by
  intro w
  obtain ⟨k, known⟩ := owned.known
  obtain ⟨v, record⟩ := d.process_recorded_of_known ctx w known
  exact ⟨_, record, rfl⟩

theorem Planned.holds_iff {r : Run σ} {plan : Plan σ} {e : Engine σ} (h : Planned r plan e)
    {d : Delegate σ} : e.Holds d ↔ d ∈ r.discovered := by
  rw [Run.discovered, ← h.queues, List.mem_flatten]
  constructor
  · rintro ⟨s, member, queued⟩
    exact ⟨_, List.mem_map_of_mem member, queued⟩
  · rintro ⟨q, inQueues, queued⟩
    obtain ⟨s, member, rfl⟩ := List.mem_map.1 inQueues
    exact ⟨s, member, queued⟩

namespace Run

/-- The run is let in and gets to work. -/
structure Starts (r : Run σ) : Prop where
  free : r.engine.running = false
  plans : ∃ plan, r.planned.1 = .ok plan

def Fails (r : Run σ) (f : Fault) : Prop :=
  (r.engine.process r.scanner r.context r.world).1 = .error f

theorem Returns.starts {r : Run σ} {report : Report} (returns : r.Returns report) : r.Starts where
  free := by
    by_contra running
    rw [Bool.not_eq_false] at running
    rw [Returns, Engine.process, Engine.exclusively, running] at returns
    cases returns
  plans := by
    obtain ⟨plan, e, w, e', w', planned, -⟩ := returns.recorded
    exact ⟨plan, by rw [planned]⟩

/-- A run that is let in has the result of its recorded double. -/
theorem result_eq_recorded (r : Run σ) (free : r.engine.running = false) :
    (r.engine.process r.scanner r.context r.world).1 = r.recorded.1 := by
  have letIn : Engine.guard r.engine.running .process = .ok () := by
    rw [free]
    rfl
  have staged : (({ r.engine.cleared with running := true } : Engine σ).processStages r.scanner
      r.context r.world).1 = r.recorded.1 := by
    rw [Engine.processStages, ← Run.planned, Run.recorded]
    cases r.planned with
    | mk result rest =>
        obtain ⟨e, w⟩ := rest
        cases result with
        | error f => rfl
        | ok plan =>
            have image := Engine.perform_image (recordedWork_projects r.context) plan e
              (w.recording [])
            rw [World.plain_recording] at image
            exact congrArg Prod.fst image
  rw [← staged, Engine.process, Engine.exclusively, letIn]
  dsimp only
  cases ({ r.engine.cleared with running := true } : Engine σ).processStages r.scanner r.context
      r.world with
  | mk result rest => cases result <;> rfl

/-- **A run that gets to work returns a report, unless a call of a handler ends it.** -/
theorem Starts.returns_or_interrupted {r : Run σ} (starts : r.Starts) :
    (∃ report, r.Returns report) ∨
      ∃ f, r.Fails f ∧ ∃ c ∈ r.calls, c.result = .error f ∧ ∀ g, f ≠ .injection g := by
  have same := r.result_eq_recorded starts.free
  obtain ⟨plan, plans⟩ := starts.plans
  cases ends : r.recorded with
  | mk result rest =>
      obtain ⟨e', w'⟩ := rest
      rw [ends] at same
      cases result with
      | ok report => exact Or.inl ⟨report, same⟩
      | error f =>
          refine Or.inr ⟨f, same, ?_⟩
          have calls : r.calls = w'.own.2 := congrArg (fun t => t.2.2.own.2) ends
          rw [Run.recorded] at ends
          cases planned : r.planned with
          | mk result rest =>
              obtain ⟨e, w⟩ := rest
              rw [planned] at ends plans
              cases plans
              have spec := Run.planned_spec planned
              have observed : ∀ d ∈ r.discovered,
                  Entry.Observed (Engine.recordedWork r.context) Engine.callLog d := fun d member =>
                recordedWork_observes r.context (spec.owned d member)
              have found : ∀ d ∈ plan.schedule.order.flatMap WorkUnit.items, d ∈ r.discovered :=
                fun d member => spec.works_perm.mem_iff.1 member
              obtain ⟨c, member, raised, irregular⟩ := Engine.perform_error
                (recordedWork_logs r.context) (fun d member => spec.home (found d member))
                (fun d member => observed d (found d member))
                (fun d holds => observed d (spec.holds_iff.1 holds)) ends
              obtain ⟨call, inCalls, rfl⟩ := List.mem_map.1 member
              refine ⟨call, calls ▸ inCalls, raised, fun g same => irregular fun f' ends' => ?_⟩
              rw [raised] at ends'
              cases ends'
              exact ⟨g, same⟩

end Run

end Marking
