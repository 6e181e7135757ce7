/-
# Marking.Proofs.Engine.Frame -- what the stages of a run leave alone

The stages work on the units, the graph and the stations of an engine.  Its settings and its flag
they leave as they are, however they end, and so they do with the registry, which at most comes
to remember its ordering when a run is prepared (`processStages_frame`).
-/
import Marking.Engine

set_option autoImplicit false

namespace Marking.Engine

variable {σ τ : Type}

/-- From the one engine to the other only units, graph and stations have changed. -/
structure Frame (e e' : Engine σ) : Prop where
  registry : e'.registry = e.registry
  settings : e'.settings = e.settings
  running : e'.running = e.running

theorem Frame.refl (e : Engine σ) : Frame e e := ⟨rfl, rfl, rfl⟩

theorem Frame.trans {e mid e' : Engine σ} (first : Frame e mid) (second : Frame mid e') : Frame e e' :=
  ⟨second.registry.trans first.registry, second.settings.trans first.settings,
    second.running.trans first.running⟩

theorem Frame.station (e : Engine σ) (i : Nat) (s : Station σ) :
    Frame e { e with stations := e.stations.set i s } := ⟨rfl, rfl, rfl⟩

/-! ## Planning -/

/-- The engine whose registry has listed its registrations. -/
def listed (e : Engine σ) : Engine σ := { e with registry := e.registry.registrations.2.1 }

theorem prepare_frame (e : Engine σ) (w : World σ) : Frame e.listed (e.prepare w).2.1 := by
  rw [prepare, listed]
  obtain ⟨result, registry, notes⟩ := e.registry.registrations
  cases result <;> exact ⟨rfl, rfl, rfl⟩

theorem discoverFrom_frame (e : Engine σ) (q : Discovery) (position : Nat) (ss : List (Station σ))
    (w : World σ) : Frame e (discoverFrom e q position ss w).2.2.1 := by
  induction ss generalizing e q position w with
  | nil => exact .refl e
  | cons s ss ih =>
      rw [discoverFrom]
      obtain ⟨units, p, t, next⟩ := q.discover position s w
      cases units with
      | error f => exact .station e position t
      | ok us =>
          have rest := ih
            { e with stations := e.stations.set position t, units := (e.units.addAll us).1 } p
            (position + 1) (next.note (e.units.addAll us).2)
          exact ⟨rest.registry, rest.settings, rest.running⟩

theorem planStages_frame (e : Engine σ) (scanner : Scanner) (ctx : Context) (w : World σ) :
    Frame e.listed (e.planStages scanner ctx w).2.1 := by
  have prepared := e.prepare_frame w
  rw [planStages]
  generalize e.prepare w = outcome at prepared ⊢
  obtain ⟨result, mid, next⟩ := outcome
  cases result with
  | error f => exact prepared
  | ok _ =>
      have found := discoverFrom_frame mid { scanner, context := ctx } 0 mid.stations next
      dsimp only
      generalize discoverFrom mid { scanner, context := ctx } 0 mid.stations next = outcome at found ⊢
      obtain ⟨result, d, last, final⟩ := outcome
      have both := prepared.trans found
      cases result with
      | error f => exact both
      | ok _ => exact ⟨both.registry, both.settings, both.running⟩

/-! ## Work -/

variable (process : Entry.Process τ (Delegate σ))

theorem attempt_frame (e : Engine σ) (d : Delegate σ) (w : World τ) :
    Frame e (attempt process e d w).2.1 := by
  rw [attempt]
  cases e.stations[d.entry]? with
  | none => exact .refl e
  | some s => exact .station e _ _

theorem execute_frame (ds : List (Delegate σ)) (e : Engine σ) (w : World τ) :
    Frame e (execute process ds e w).2.1 := by
  induction ds generalizing e w with
  | nil => exact .refl e
  | cons d ds ih =>
      have here := attempt_frame process e d w
      rw [execute]
      generalize attempt process e d w = outcome at here ⊢
      obtain ⟨result, mid, next⟩ := outcome
      cases result with
      | error f => exact here
      | ok _ => exact here.trans (ih mid next)

theorem retryAt_frame (is : List Nat) (e : Engine σ) (w : World τ) :
    Frame e (retryAt process is e w).2.1 := by
  induction is generalizing e w with
  | nil => exact .refl e
  | cons i is ih =>
      rw [retryAt]
      cases e.stations[i]? with
      | none => exact ih e w
      | some s =>
          dsimp only
          obtain ⟨result, entry, next⟩ := s.entry.processAll process s.entry.queue.length w
          have here := Frame.station e i { s with entry }
          cases result with
          | error f => exact here
          | ok _ => exact here.trans (ih _ next)

theorem retry_frame (limit rounds : Nat) (e : Engine σ) (w : World τ) :
    Frame e (retry process limit rounds e w).2.1 := by
  induction limit generalizing rounds e w with
  | zero => exact .refl e
  | succ limit ih =>
      rw [retry]
      cases e.unfinished with
      | nil => exact .refl e
      | cons i is =>
          have here := retryAt_frame process (i :: is) e w
          dsimp only
          generalize retryAt process (i :: is) e w = outcome at here ⊢
          obtain ⟨result, mid, next⟩ := outcome
          cases result with
          | error f => exact here
          | ok progress =>
              cases progress with
              | true => exact here.trans (ih _ mid _)
              | false => exact here

theorem perform_frame (plan : Plan σ) (e : Engine σ) (w : World τ) :
    Frame e (perform process plan e w).2.1 := by
  have executed := execute_frame process (plan.schedule.order.flatMap WorkUnit.items) e w
  rw [perform]
  generalize execute process (plan.schedule.order.flatMap WorkUnit.items) e w = outcome at executed ⊢
  obtain ⟨result, mid, next⟩ := outcome
  cases result with
  | error f => exact executed
  | ok _ =>
      have retried := retry_frame process mid.settings.maxRounds.toNat 0 mid next
      dsimp only
      generalize retry process mid.settings.maxRounds.toNat 0 mid next = outcome at retried ⊢
      obtain ⟨result, last, final⟩ := outcome
      cases result <;> exact executed.trans retried

/-- **The stages leave registry, settings and flag alone**, but for the ordering that the registry
comes to remember. -/
theorem processStages_frame (e : Engine σ) (scanner : Scanner) (ctx : Context) (w : World σ) :
    Frame e.listed (e.processStages scanner ctx w).2.1 := by
  have planned := e.planStages_frame scanner ctx w
  rw [processStages]
  generalize e.planStages scanner ctx w = outcome at planned ⊢
  obtain ⟨result, mid, next⟩ := outcome
  cases result with
  | error f => exact planned
  | ok plan => exact planned.trans (perform_frame (work ctx) plan mid next)

end Marking.Engine
