/-
# Marking.Proofs.Engine.Reentry -- handlers that turn to the engine which calls them

A handler may hold on to the engine that it is registered with and call it while it is being
called.  Such a handler is a `Caller`: what it does is a `Talk`, in which it makes petitions and
goes on with the answers.  An engine answers a petition with what it does otherwise, on the engine
as the handler finds it (`Engine.answer`, `Talk.on`); while a run is going on it refuses.

Handlers see the engine by its flag, which stands beside their world during the stages of a run
(`Engine.processShown`).  `now` gives the engine that a handler finds; nothing is assumed of it
but that its flag is the one that shows (`Shows`).  So in a run a caller does what it does when
all its petitions are refused (`Caller.live_alike`).
-/
import Marking.Proofs.Engine.Parallel
import Marking.Proofs.World.Beside

set_option autoImplicit false

namespace Marking

variable {σ : Type}

/-- The state of handlers with the flag of the engine beside it. -/
abbrev Flagged (σ : Type) := σ × Bool

namespace Engine

/-! ## Calls of an engine -/

/-- A call of an engine.  Contexts come with the types that are known in them. -/
inductive Petition where
  | process (scanner : Scanner) (ctx : Context) (types : TypeRegistry)
  | plan (scanner : Scanner) (ctx : Context) (types : TypeRegistry)
  | reset

def Petition.refusal : Petition → Fault
  | process .. | plan .. => .reentered
  | reset => .resetWhileRunning

theorem Petition.refusal_runtime (p : Petition) : p.refusal.errorClass = .runtime := by
  cases p <;> rfl

inductive Answer (σ : Type) where
  | report (r : Report)
  | plan (p : Plan σ)
  | done

/-- Stages in which handlers find the flag of the engine beside their world. -/
def showing {α : Type} (stages : Engine (Flagged σ) → World (Flagged σ) → Step (Flagged σ) α)
    (e : Engine (Flagged σ)) (w : World (Flagged σ)) : Step (Flagged σ) α :=
  stages e (w.inner.beside e.running)

/-- A run in which handlers find the flag of the engine. -/
def processShown (e : Engine (Flagged σ)) (scanner : Scanner) (ctx : Context) (w : World σ) :
    StepIn σ (Flagged σ) Report :=
  match exclusively .process e (w.beside e.running)
      (showing fun e w => e.processStages scanner ctx w) with
  | (.error f, e, w) => (.error f, e, w.inner)
  | (.ok r, e, w) => (.ok r, e, (w.note (leftovers r)).inner)

def planShown (e : Engine (Flagged σ)) (scanner : Scanner) (ctx : Context) (w : World σ) :
    StepIn σ (Flagged σ) (Plan (Flagged σ)) :=
  let (result, e, w) := exclusively .plan e (w.beside e.running)
    (showing fun e w => e.planStages scanner ctx w)
  (result, e, w.inner)

/-- **A run in which the flag shows is a run** of the engine, in a world where the flag is up. -/
theorem processShown_eq (e : Engine (Flagged σ)) (scanner : Scanner) (ctx : Context) (w : World σ) :
    e.processShown scanner ctx w =
      ((e.process scanner ctx (w.beside true)).1, (e.process scanner ctx (w.beside true)).2.1,
        (e.process scanner ctx (w.beside true)).2.2.inner) := by
  rw [processShown, process, exclusively, exclusively]
  cases guard e.running .process with
  | error f => rfl
  | ok _ =>
      rw [showing, World.inner_beside]
      dsimp only
      generalize processStages { e.cleared with running := true } scanner ctx (w.beside true) = outcome
      obtain ⟨result, last, next⟩ := outcome
      cases result <;> rfl

def answer (e : Engine (Flagged σ)) (p : Petition) (w : World σ) :
    StepIn σ (Flagged σ) (Answer (Flagged σ)) :=
  match p with
  | .process scanner ctx types =>
    let (result, e, next) := e.processShown scanner ctx { w with types }
    (result.map .report, e, { next with types := w.types })
  | .plan scanner ctx types =>
    let (result, e, next) := e.planShown scanner ctx { w with types }
    (result.map .plan, e, { next with types := w.types })
  | .reset =>
    let (result, e) := e.reset
    (result.map fun () => .done, e, w)

/-- **While a run is going on every petition is refused**, and changes nothing. -/
theorem answer_running {e : Engine (Flagged σ)} (busy : e.running = true) (p : Petition)
    (w : World σ) : e.answer p w = (.error p.refusal, e, w) := by
  cases p with
  | process scanner ctx types =>
      rw [answer, processShown, exclusively, busy]
      rfl
  | plan scanner ctx types =>
      rw [answer, planShown, exclusively, busy]
      rfl
  | reset =>
      rw [answer, reset, busy]
      rfl

end Engine

open Engine (Petition Answer)

/-! ## Talks -/

/-- What a handler does that may turn to the engine. -/
inductive Talk (σ α : Type) where
  /-- The end, with a result. -/
  | done (a : α) (w : World σ)
  /-- A petition, and how to go on with the answer. -/
  | ask (p : Petition) (w : World σ) (go : Except Fault (Answer (Flagged σ)) → World σ → Talk σ α)

namespace Talk

variable {α : Type}

def on : Talk σ α → Engine (Flagged σ) → α × Engine (Flagged σ) × World σ
  | done a w, e => (a, e, w)
  | ask p w go, e =>
    let (answer, e, w) := e.answer p w
    (go answer w).on e

/-- The talk when all petitions are refused. -/
def refused : Talk σ α → α × World σ
  | done a w => (a, w)
  | ask p w go => (go (.error p.refusal) w).refused

/-- **A talk with a running engine** is one of refusals, and leaves the engine as it is. -/
theorem on_running {e : Engine (Flagged σ)} (busy : e.running = true) (t : Talk σ α) :
    t.on e = (t.refused.1, e, t.refused.2) := by
  induction t with
  | done a w => rfl
  | ask p w go ih =>
      rw [on, Engine.answer_running busy, refused]
      exact ih _ _

/-- Whatever refusals the talk gets, it ends with the same result in the same world. -/
inductive Swallows (a : α) (last : World σ) : Talk σ α → Prop
  | done : Swallows a last (.done a last)
  | ask {p : Petition} {w : World σ}
      {go : Except Fault (Answer (Flagged σ)) → World σ → Talk σ α} :
      (∀ f : Fault, f.errorClass = .runtime → Swallows a last (go (.error f) w)) →
        Swallows a last (.ask p w go)

theorem Swallows.refused {a : α} {last : World σ} {t : Talk σ α} (swallows : t.Swallows a last) :
    t.refused = (a, last) := by
  induction swallows with
  | done => rfl
  | @ask p w go _ ih => exact ih p.refusal p.refusal_runtime

end Talk

/-! ## Callers -/

/-- A handler that may turn to the engine. -/
structure Caller (σ : Type) where
  name : String
  typeName : String
  expression : String
  check : Context → View → Control → World σ → Talk σ (Except Fault Value × Control)
  handle : Context → View → World σ → Talk σ (Except Fault Bool)

/-- The engine that handlers find has the flag that shows. -/
def Shows (now : World (Flagged σ) → Engine (Flagged σ)) : Prop :=
  ∀ w, (now w).running = w.own.2

namespace Caller

/-- The caller as a handler that turns to the engine which it finds. -/
def live (now : World (Flagged σ) → Engine (Flagged σ)) (c : Caller σ) : Handler (Flagged σ) where
  name := c.name
  typeName := c.typeName
  expression := c.expression
  check ctx v k w :=
    let ((answer, k), e, next) := (c.check ctx v k w.inner).on (now w)
    (answer, k, next.beside e.running)
  handle ctx v w :=
    let (result, e, next) := (c.handle ctx v w.inner).on (now w)
    (result, next.beside e.running)

/-- The caller as a handler whose petitions are all refused. -/
def refused (c : Caller σ) : Handler σ where
  name := c.name
  typeName := c.typeName
  expression := c.expression
  check ctx v k w :=
    let ((answer, k), next) := (c.check ctx v k w).refused
    (answer, k, next)
  handle ctx v w := (c.handle ctx v w).refused

/-- The caller does what the handler does, whatever refusals it gets in between. -/
structure Swallows (c : Caller σ) (h : Handler σ) : Prop where
  check : ∀ ctx v k w, (c.check ctx v k w).Swallows
    ((h.check ctx v k w).1, (h.check ctx v k w).2.1) (h.check ctx v k w).2.2
  handle : ∀ ctx v w, (c.handle ctx v w).Swallows (h.handle ctx v w).1 (h.handle ctx v w).2

variable {now : World (Flagged σ) → Engine (Flagged σ)} {c : Caller σ}

theorem live_check (shows : Shows now) (ctx : Context) (v : View) (k : Control)
    {w : World (Flagged σ)} (up : w.own.2 = true) :
    (c.live now).check ctx v k w = ((c.refused.check ctx v k w.inner).1,
      (c.refused.check ctx v k w.inner).2.1, (c.refused.check ctx v k w.inner).2.2.beside true) := by
  have busy : (now w).running = true := (shows w).trans up
  rw [live, refused]
  dsimp only
  rw [Talk.on_running busy, busy]

theorem live_handle (shows : Shows now) (ctx : Context) (v : View) {w : World (Flagged σ)}
    (up : w.own.2 = true) :
    (c.live now).handle ctx v w = ((c.refused.handle ctx v w.inner).1,
      (c.refused.handle ctx v w.inner).2.beside true) := by
  have busy : (now w).running = true := (shows w).trans up
  rw [live, refused]
  dsimp only
  rw [Talk.on_running busy, busy]

def Up (w : World (Flagged σ)) (w' : World σ) : Prop := w = w'.beside true

/-- **In a run a caller does what it does when all its petitions are refused.** -/
theorem live_alike (shows : Shows now) (c : Caller σ) :
    Handler.Alike Up (c.live now) c.refused where
  check ctx v k := by
    rintro _ w rfl
    rw [live_check shows ctx v k rfl]
    exact ⟨rfl, rfl, rfl⟩
  handle ctx v := by
    rintro _ w rfl
    rw [live_handle shows ctx v rfl]
    exact ⟨rfl, rfl⟩

/-- A caller that swallows all refusals does in a run what the handler does. -/
theorem Swallows.alike {h : Handler σ} (swallows : c.Swallows h) (shows : Shows now) :
    Handler.Alike Up (c.live now) h where
  check ctx v k := by
    intro _ w up
    have same : c.refused.check ctx v k w = h.check ctx v k w := by
      rw [Caller.refused]
      dsimp only
      rw [(swallows.check ctx v k w).refused]
    rw [← same]
    exact (c.live_alike shows).check ctx v k up
  handle ctx v := by
    intro _ w up
    have same : c.refused.handle ctx v w = h.handle ctx v w := (swallows.handle ctx v w).refused
    rw [← same]
    exact (c.live_alike shows).handle ctx v up

end Caller

end Marking
