/-
# Marking.Proofs.Engine.Projection -- a world with more in it runs the same

The functions that do the work of a run never look at the state of the handlers; they pass the
world on and note things in its journal.  So when one way of processing does in its world what
another one does in a smaller world (`Projects`), whole runs agree: results, entries and
engines are the same, and the larger world projects to the smaller one at the end.

This is what lets a run be watched: the calls of handlers are recorded in a world of its own,
and the recorded run is the run.
-/
import Marking.Engine

set_option autoImplicit false

namespace Marking

/-- The first way of processing does in its world what the second does in the image of it. -/
structure Projects {τ ρ δ : Type} (f : World τ → World ρ) (process : Entry.Process τ δ)
    (plain : Entry.Process ρ δ) : Prop where
  note : ∀ w j, f (w.note j) = (f w).note j
  process : ∀ d w, plain d (f w) = ((process d w).1, (process d w).2.1, f (process d w).2.2)

namespace Entry

variable {τ ρ δ : Type} [Work δ] {f : World τ → World ρ} {process : Process τ δ}
  {plain : Process ρ δ}

/-- The image of an outcome whose world is projected. -/
abbrev image {τ ρ α β : Type} (f : World τ → World ρ) (x : α × β × World τ) : α × β × World ρ :=
  (x.1, x.2.1, f x.2.2)

omit [Work δ] in
/-- An outcome of which the image is known, but for the part that the image forgets. -/
theorem eq_of_image {α β : Type} {x : α × β × World τ} {a : α} {b : β} {w : World ρ}
    (same : (a, b, w) = image f x) : x = (a, b, x.2.2) := by
  obtain ⟨_, _, _⟩ := x
  cases same
  rfl

theorem attempt_image (h : Projects f process plain) (e : Entry δ) (d : δ) (w : World τ) :
    e.attempt plain d (f w) = image f (e.attempt process d w) := by
  unfold attempt
  rw [h.process]
  obtain ⟨result, queued, next⟩ := process d w
  cases result with
  | ok done => cases done <;> rfl
  | error fault =>
      cases fault with
      | injection g => simp only [image, h.note]
      | _ => rfl

theorem attemptAll_image (h : Projects f process plain) (ds : List δ) (e : Entry δ) (w : World τ) :
    e.attemptAll plain ds (f w) = image f (e.attemptAll process ds w) := by
  induction ds generalizing e w with
  | nil => rfl
  | cons d ds ih =>
      rw [attemptAll, attemptAll, attempt_image h]
      obtain ⟨result, mid, next⟩ := e.attempt process d w
      cases result with
      | ok _ => exact ih mid next
      | error _ => rfl

theorem pass_image (h : Projects f process plain) (e : Entry δ) (w : World τ) :
    e.pass plain (f w) = image f (e.pass process w) := by
  unfold pass
  simp only [attemptAll_image h]
  obtain ⟨result, mid, next⟩ :=
    attemptAll process { e with state := .retrying, passes := e.passes + 1 } e.queue w
  cases result with
  | ok _ => simp only [image, h.note]
  | error _ => rfl

theorem passesWith_image (h : Projects f process plain) (fuel : Nat) (e : Entry δ) (w : World τ) :
    passesWith plain fuel e (f w) = image f (passesWith process fuel e w) := by
  induction fuel generalizing e w with
  | zero =>
      rw [passesWith, passesWith]
      split <;> rfl
  | succ fuel ih =>
      rw [passesWith, passesWith, pass_image h]
      split
      · rfl
      · obtain ⟨result, mid, next⟩ := e.pass process w
        cases result with
        | ok _ =>
            simp only [image, ih]
            split <;> rfl
        | error _ => rfl

omit [Work δ] in
theorem conclude_image (note : ∀ w j, f (w.note j) = (f w).note j) (initial : Nat) (e : Entry δ)
    (w : World τ) : conclude initial e (f w) = image f (conclude initial e w) := by
  unfold conclude
  dsimp only
  split
  · rfl
  · simp only [image, note]

theorem processAll_image (h : Projects f process plain) (fuel : Nat) (e : Entry δ) (w : World τ) :
    e.processAll plain fuel (f w) = image f (e.processAll process fuel w) := by
  unfold processAll
  simp only [passesWith_image h]
  obtain ⟨result, mid, next⟩ := passesWith process fuel { e with failures := [] } w
  cases result with
  | ok _ => simp only [image, conclude_image h.note]
  | error _ => rfl

end Entry

namespace Engine

open Entry (image)

variable {σ τ ρ : Type} {f : World τ → World ρ} {process : Entry.Process τ (Delegate σ)}
  {plain : Entry.Process ρ (Delegate σ)}

theorem attempt_image (h : Projects f process plain) (e : Engine σ) (d : Delegate σ) (w : World τ) :
    attempt plain e d (f w) = image f (attempt process e d w) := by
  unfold attempt
  cases e.stations[d.entry]? with
  | none => rfl
  | some s => simp only [Entry.attempt_image h]

theorem execute_image (h : Projects f process plain) (ds : List (Delegate σ)) (e : Engine σ)
    (w : World τ) : execute plain ds e (f w) = image f (execute process ds e w) := by
  induction ds generalizing e w with
  | nil => rfl
  | cons d ds ih =>
      rw [execute, execute, attempt_image h]
      obtain ⟨result, mid, next⟩ := attempt process e d w
      cases result with
      | ok _ => exact ih mid next
      | error _ => rfl

theorem retryAt_image (h : Projects f process plain) (is : List Nat) (e : Engine σ) (w : World τ) :
    retryAt plain is e (f w) = image f (retryAt process is e w) := by
  induction is generalizing e w with
  | nil => rfl
  | cons i is ih =>
      rw [retryAt, retryAt]
      cases e.stations[i]? with
      | none => exact ih e w
      | some s =>
          simp only [Entry.processAll_image h]
          obtain ⟨result, entry, next⟩ := s.entry.processAll process s.entry.queue.length w
          cases result with
          | ok _ => simp only [image, ih]
          | error _ => rfl

theorem retry_image (h : Projects f process plain) (limit rounds : Nat) (e : Engine σ)
    (w : World τ) : retry plain limit rounds e (f w) = image f (retry process limit rounds e w) := by
  induction limit generalizing rounds e w with
  | zero => rfl
  | succ limit ih =>
      rw [retry, retry]
      cases e.unfinished with
      | nil => rfl
      | cons i is =>
          simp only [retryAt_image h]
          obtain ⟨result, mid, next⟩ := retryAt process (i :: is) e w
          cases result with
          | ok progress =>
              simp only [image, ← h.note, ih]
              split <;> rfl
          | error _ => rfl

/-- **Worlds that are projected do the planned work alike.** -/
theorem perform_image (h : Projects f process plain) (plan : Plan σ) (e : Engine σ) (w : World τ) :
    perform plain plan e (f w) = image f (perform process plan e w) := by
  unfold perform
  rw [execute_image h]
  obtain ⟨result, mid, next⟩ :=
    execute process (plan.schedule.order.flatMap WorkUnit.items) e w
  cases result with
  | error _ => rfl
  | ok _ =>
      simp only [image, retry_image h]
      obtain ⟨result, last, final⟩ := retry process mid.settings.maxRounds.toNat 0 mid next
      cases result <;> rfl

end Engine

end Marking
