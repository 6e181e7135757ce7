/-
# Marking.Proofs.Engine.Tracing -- the trace of all handler calls

A run is traced from its first stage on: every registered handler is replaced by one that does
the same and writes its call down, a check with its answer, the work with its result and with the
types that were known.  Tracing changes nothing (`Run.outcome_traced`, `Run.planned_traced`), so
`Run.trace` tells which handler methods the run itself calls, and when.
-/
import Marking.Proofs.Engine.Parallel
import Marking.Proofs.Engine.Recording
import Marking.Proofs.Registry.Replay
import Marking.Proofs.World.Beside

set_option autoImplicit false

namespace Marking

variable {σ : Type}

/-! ## Calls -/

structure Check where
  /-- The marker type under which the handler is registered. -/
  marker : MarkerType
  view : View
  answer : Except Fault Value

/-- The check ends in the fault, or its answer does not name units. -/
def Check.Fails (c : Check) (f : Fault) : Prop := c.answer.bind Value.dependencies = .error f

structure Handling where
  marker : MarkerType
  view : View
  /-- The types and injectors that the handler found. -/
  types : TypeRegistry
  result : Except Fault Bool

inductive Contact where
  | check (c : Check)
  | handling (h : Handling)

def Contact.check? : Contact → Option Check
  | check c => some c
  | handling _ => none

def Contact.handling? : Contact → Option Handling
  | check _ => none
  | handling h => some h

abbrev Traced (σ : Type) := σ × List Contact

def World.trace (w : World σ) (before : List Contact) (c : Contact) : World (Traced σ) :=
  w.beside (before ++ [c])

def Handler.traced (t : MarkerType) (h : Handler σ) : Handler (Traced σ) where
  name := h.name
  typeName := h.typeName
  expression := h.expression
  check ctx v c w :=
    let (answer, c, next) := h.check ctx v c w.inner
    (answer, c, next.trace w.own.2 (.check ⟨t, v, answer⟩))
  handle ctx v w :=
    let (result, next) := h.handle ctx v w.inner
    (result, next.trace w.own.2 (.handling ⟨t, v, w.types, result⟩))

/-! ## Traced registries -/

namespace Registry

def Registration.traced (x : Registration σ) : Registration (Traced σ) :=
  ⟨x.marker, x.handler.traced x.marker, x.rules⟩

def traced (r : Registry σ) : Registry (Traced σ) where
  handlers := r.handlers.map fun x => (x.1, x.2.traced x.1)
  rules := r.rules
  ordering := r.ordering

variable {regs : List (Registration σ)} {r : Registry σ}

theorem Coherent.traced (h : Coherent regs r) : Coherent (regs.map Registration.traced) r.traced where
  handlers := by
    rw [Registry.traced, h.handlers, handlersOf, handlersOf, List.map_map, List.map_map]
    rfl
  rules := by
    rw [Registry.traced, h.rules, rulesOf, rulesOf, List.map_map]
    rfl
  distinct := by
    have same : markersOf (regs.map Registration.traced) = markersOf regs := by
      rw [markersOf, markersOf, List.map_map]
      rfl
    rw [same]
    exact h.distinct
  remembered o kept := by
    have same : fromScratch (regs.map Registration.traced) = fromScratch regs := by
      rw [fromScratch, fromScratch, markersOf, markersOf, rulesOf, rulesOf, List.map_map, List.map_map]
      rfl
    rw [same]
    exact h.remembered o kept

end Registry

/-! ## Tracing changes nothing -/

/-- The second world is the first one without the trace. -/
abbrev Untraced (w : World (Traced σ)) (w' : World σ) : Prop := w.inner = w'

theorem untraced_likeness : World.Likeness (Untraced (σ := σ)) where
  types same := congrArg World.types same
  learn types same := congrArg (fun w : World σ => { w with types }) same
  note j same := congrArg (World.note · j) same

theorem Handler.traced_alike (t : MarkerType) (h : Handler σ) :
    Handler.Alike Untraced (h.traced t) h where
  check ctx v c := by
    rintro w _ rfl
    exact ⟨rfl, rfl, rfl⟩
  handle ctx v := by
    rintro w _ rfl
    exact ⟨rfl, rfl⟩

theorem Registry.traced_alike (r : Registry σ) : Registry.Alike Untraced r.traced r := by
  have likewise : Registry.Likewise Untraced r.traced r :=
    ⟨List.forall₂_map_left_iff.2 (List.forall₂_same.2 fun x _ => ⟨rfl, x.2.traced_alike x.1⟩), rfl⟩
  obtain ⟨same, notes⟩ := likewise.order rfl
  refine likewise.alike same ?_
  rintro w _ rfl
  rw [notes]
  rfl

def Engine.traced (e : Engine σ) : Engine (Traced σ) where
  registry := e.registry.traced
  settings := e.settings
  running := e.running

theorem Engine.traced_twins (e : Engine σ) : Engine.Twins Untraced e.traced e :=
  ⟨e.registry.traced_alike, rfl, rfl⟩

namespace Run

variable (r : Run σ)

def outcome : Except Fault Report := (r.engine.process r.scanner r.context r.world).1

def after : World σ := (r.engine.process r.scanner r.context r.world).2.2

def traced : Run (Traced σ) where
  engine := r.engine.traced
  scanner := r.scanner
  context := r.context
  world := r.world.beside []

/-- The calls of handlers, the earliest first. -/
def trace : List Contact :=
  (r.traced.engine.process r.traced.scanner r.traced.context r.traced.world).2.2.own.2

def checks : List Check := r.trace.filterMap Contact.check?

def handlings : List Handling := r.trace.filterMap Contact.handling?

/-- **Tracing changes nothing**: the traced run ends as the run does. -/
theorem outcome_traced : r.traced.outcome = r.outcome :=
  (Engine.process_alike untraced_likeness r.scanner r.context r.engine.traced_twins rfl).1

/-- The traced run leaves what the run leaves, beside the trace. -/
theorem after_traced : r.traced.after.inner = r.after :=
  (Engine.process_alike untraced_likeness r.scanner r.context r.engine.traced_twins rfl).2

/-- The traced run plans what the run plans. -/
theorem planned_traced : Matches (Gives (Plan.Alike (Delegate.Alike Untraced)))
    (Engine.Alike Untraced) Untraced r.traced.planned r.planned :=
  Engine.planStages_alike untraced_likeness r.scanner r.context r.engine.traced_twins.cleared
    (Engine.units_cleared r.engine.traced_twins) .nil rfl

end Run

end Marking
