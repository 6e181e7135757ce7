/-
# Marking.Proofs.Engine.Recording -- the handler calls of a run

A run is given by an engine, a scanner, a context and a world.  To know which handlers it calls
and when, it is run once more with every handler recording each of its calls: the delegate,
the view that it was given and what it answered.  Recording changes nothing
(`recordedWork_projects`), so `Run.calls` are the calls of the run itself, and a run that
returns is read off its recorded double (`Run.Returns.recorded`).
-/
import Marking.Proofs.Engine.Projection
import Marking.Proofs.Entry.Calls
import Marking.Proofs.Value.Writing

set_option autoImplicit false

namespace Marking

variable {σ : Type}

/-! ## Recording -/

structure HandlerCall (σ : Type) where
  delegate : Delegate σ
  view : View
  result : Except Fault Bool

namespace HandlerCall

def succeeded (c : HandlerCall σ) : Bool :=
  match c.result with
  | .ok b => b
  | .error _ => false

def toCall (c : HandlerCall σ) : Entry.Call (Delegate σ) := ⟨c.delegate, c.result⟩

end HandlerCall

abbrev Recorded (σ : Type) := σ × List (HandlerCall σ)

/-- The world without the record. -/
def World.plain (w : World (Recorded σ)) : World σ := ⟨w.journal, w.types, w.own.1⟩

def World.recording (w : World σ) (calls : List (HandlerCall σ)) : World (Recorded σ) :=
  ⟨w.journal, w.types, (w.own, calls)⟩

theorem World.plain_recording (w : World σ) (calls : List (HandlerCall σ)) :
    (w.recording calls).plain = w := rfl

def Delegate.recordingHandler (d : Delegate σ) : Handler (Recorded σ) where
  name := d.handler.name
  typeName := d.handler.typeName
  expression := d.handler.expression
  check ctx v c w :=
    let (answer, c, next) := d.handler.check ctx v c w.plain
    (answer, c, next.recording w.own.2)
  handle ctx v w :=
    let (result, next) := d.handler.handle ctx v w.plain
    (result, next.recording (w.own.2 ++ [⟨d, v, result⟩]))

/-- The delegate with a handler that records its calls. -/
def Delegate.recording (d : Delegate σ) : Delegate (Recorded σ) :=
  { serial := d.serial, entry := d.entry, markerName := d.markerName
    handler := d.recordingHandler, declaration := d.declaration, marker := d.marker, key := d.key
    control := d.control, needs := d.needs }

/-- How a recorded run processes a piece of work. -/
def Engine.recordedWork (ctx : Context) : Entry.Process (Recorded σ) (Delegate σ) := fun d w =>
  let (result, w) := d.recording.process ctx w
  (result, [], w)

theorem World.addType_plain (w : World (Recorded σ)) (v : Value) :
    w.plain.addType v = ((w.addType v).1, (w.addType v).2.plain) := by
  have same : w.plain.types = w.types := rfl
  unfold World.addType
  rw [same]
  cases w.types.addType v <;> rfl

theorem World.getInjector_plain (w : World (Recorded σ)) (v : Value) :
    w.plain.getInjector v = ((w.getInjector v).1, (w.getInjector v).2.plain) := by
  have same : w.plain.types = w.types := rfl
  unfold World.getInjector
  rw [same]
  cases w.types.getInjector v <;> rfl

theorem Delegate.process_recording (ctx : Context) (d : Delegate σ) (w : World (Recorded σ)) :
    d.process ctx w.plain = ((d.recording.process ctx w).1, (d.recording.process ctx w).2.plain) := by
  have same : d.recording.declaration = d.declaration := rfl
  unfold Delegate.process
  rw [World.addType_plain, same]
  cases w.addType d.declaration.owner with
  | mk added known =>
      cases added with
      | error _ => rfl
      | ok _ =>
          simp only [World.getInjector_plain]
          cases known.getInjector d.declaration.owner with
          | mk found ready => cases found <;> rfl

/-- **Recording changes nothing.** -/
theorem recordedWork_projects (ctx : Context) :
    Projects World.plain (Engine.recordedWork (σ := σ) ctx) (Engine.work ctx) where
  note _ _ := rfl
  process d w := by
    unfold Engine.work Engine.recordedWork
    rw [d.process_recording]

/-! ## The record -/

def Engine.callLog : Entry.Log (Recorded σ) (Delegate σ) where
  Line := HandlerCall σ
  lines w := w.own.2
  call := HandlerCall.toCall

theorem UnitKey.ofValue_error {v : Value} {f : Fault} (failed : ofValue v = .error f) :
    ∀ g, f ≠ .injection g := by
  rintro g rfl
  rcases ofValue_fault failed with isType | ofWriting
  · cases isType
  · cases ofWriting

theorem World.addType_known (w : World (Recorded σ)) {v : Value} {k : UnitKey}
    (known : UnitKey.ofValue v = .ok k) : ∃ w', w.addType v = (.ok (), w') ∧ w'.own = w.own := by
  unfold World.addType TypeRegistry.addType
  rw [known]
  exact ⟨_, rfl, rfl⟩

theorem World.getInjector_known (w : World (Recorded σ)) {v : Value} {k : UnitKey}
    (known : UnitKey.ofValue v = .ok k) :
    ∃ i w', w.getInjector v = (.ok i, w') ∧ w'.own = w.own := by
  unfold World.getInjector TypeRegistry.getInjector
  rw [known]
  exact ⟨_, _, rfl, rfl⟩

/-- An owner that has a key is no obstacle: the handler is called once. -/
theorem Delegate.process_recorded_of_known (ctx : Context) (d : Delegate σ) (w : World (Recorded σ))
    {k : UnitKey} (known : UnitKey.ofValue d.declaration.owner = .ok k) :
    ∃ v, (d.recording.process ctx w).2.own.2 =
      w.own.2 ++ [⟨d, v, (d.recording.process ctx w).1⟩] := by
  obtain ⟨learned, added, sameOwn⟩ := w.addType_known known
  obtain ⟨injector, ready, found, sameOwn'⟩ := learned.getInjector_known known
  have same : d.recording.declaration = d.declaration := rfl
  have record : ready.own.2 = w.own.2 := by
    rw [sameOwn', sameOwn]
  refine ⟨d.view.commit injector, ?_⟩
  unfold Delegate.process
  rw [same, added]
  simp only [found]
  rw [← record]
  rfl

/-- An owner that has no key ends the run before the handler is called. -/
theorem Delegate.process_unknown (ctx : Context) (d : Delegate σ) (w : World σ) {f : Fault}
    (unknown : UnitKey.ofValue d.declaration.owner = .error f) : (d.process ctx w).1 = .error f := by
  unfold Delegate.process World.addType TypeRegistry.addType
  rw [unknown]
  rfl

/-- Processing that does not end the run calls the handler once. -/
theorem Delegate.process_recorded (ctx : Context) (d : Delegate σ) (w : World (Recorded σ))
    (regular : ∀ f, (d.recording.process ctx w).1 = .error f → ∃ g, f = .injection g) :
    ∃ v, (d.recording.process ctx w).2.own.2 =
      w.own.2 ++ [⟨d, v, (d.recording.process ctx w).1⟩] := by
  cases known : UnitKey.ofValue d.declaration.owner with
  | ok k => exact d.process_recorded_of_known ctx w known
  | error f =>
      obtain ⟨g, is⟩ := regular f (d.recording.process_unknown ctx w known)
      exact absurd is (UnitKey.ofValue_error known g)

/-- A recorded run logs every call that does not end it. -/
theorem recordedWork_logs (ctx : Context) :
    Entry.Logs (Engine.recordedWork (σ := σ) ctx) Engine.callLog where
  note _ _ := rfl
  quiet _ _ := rfl
  logged d w regular := by
    obtain ⟨v, record⟩ := d.process_recorded ctx w regular
    exact ⟨_, record, rfl⟩

/-- What was logged between two worlds is what was recorded. -/
theorem Engine.recorded_of_logged {w w' : World (Recorded σ)} {cs : List (Entry.Call (Delegate σ))}
    (logged : Entry.Logged Engine.callLog w cs w') :
    ∃ later : List (HandlerCall σ), w'.own.2 = w.own.2 ++ later ∧ cs = later.map HandlerCall.toCall := by
  obtain ⟨later, record, same⟩ := logged.lines
  exact ⟨later, record, same.symm⟩

/-! ## Runs -/

structure Run (σ : Type) where
  engine : Engine σ
  scanner : Scanner
  context : Context
  world : World σ

namespace Run

/-- The stages before any work is done, on the engine that counts as running. -/
def planned (r : Run σ) : Engine.Step σ (Plan σ) :=
  ({ r.engine.cleared with running := true } : Engine σ).planStages r.scanner r.context r.world

/-- The stages of the run, with the handlers recording their calls. -/
def recorded (r : Run σ) : Engine.StepIn (Recorded σ) σ Report :=
  match r.planned with
  | (.error f, e, w) => (.error f, e, w.recording [])
  | (.ok plan, e, w) => Engine.perform (Engine.recordedWork r.context) plan e (w.recording [])

/-- The run up to the end of its ordered pass, with the handlers recording their calls. -/
def ordered (r : Run σ) : Engine.StepIn (Recorded σ) σ Unit :=
  match r.planned with
  | (.error f, e, w) => (.error f, e, w.recording [])
  | (.ok plan, e, w) =>
    Engine.execute (Engine.recordedWork r.context) (plan.schedule.order.flatMap WorkUnit.items) e
      (w.recording [])

/-- The calls of handlers, the earliest first. -/
def calls (r : Run σ) : List (HandlerCall σ) := r.recorded.2.2.own.2

/-- The delegates that the run discovers, station by station. -/
def queues (r : Run σ) : List (List (Delegate σ)) :=
  r.planned.2.1.stations.map fun s => s.entry.queue

/-- The delegates that the run discovers, in the order of their discovery. -/
def discovered (r : Run σ) : List (Delegate σ) := r.queues.flatten

def finished (r : Run σ) : Engine σ := (r.engine.process r.scanner r.context r.world).2.1

def Returns (r : Run σ) (report : Report) : Prop :=
  (r.engine.process r.scanner r.context r.world).1 = .ok report

/-- A run that returns went through all of its stages. -/
theorem Returns.stages {r : Run σ} {report : Report} (returns : r.Returns report) :
    ∃ e w, ({ r.engine.cleared with running := true } : Engine σ).processStages r.scanner r.context
      r.world = (.ok report, e, w) ∧ r.finished = { e with running := false } := by
  have free : Engine.guard r.engine.running .process = .ok () := by
    cases guarded : Engine.guard r.engine.running .process with
    | ok _ => rfl
    | error f =>
        rw [Returns, Engine.process, Engine.exclusively, guarded] at returns
        cases returns
  rw [Returns, Engine.process, Engine.exclusively, free] at returns
  rw [finished, Engine.process, Engine.exclusively, free]
  cases staged : ({ r.engine.cleared with running := true } : Engine σ).processStages r.scanner
      r.context r.world with
  | mk result rest =>
      obtain ⟨e, w⟩ := rest
      simp only [staged] at returns ⊢
      cases result with
      | error f => cases returns
      | ok report' =>
          cases returns
          exact ⟨e, w, rfl, rfl⟩

/-- **A run that returns is its recorded double**: it plans, and doing the planned work with the
handlers recording gives the report, the calls and the engine of the run. -/
theorem Returns.recorded {r : Run σ} {report : Report} (returns : r.Returns report) :
    ∃ plan e w e' w', r.planned = (.ok plan, e, w) ∧
      Engine.perform (Engine.recordedWork r.context) plan e (w.recording []) =
        (.ok report, e', w') ∧
      r.calls = w'.own.2 ∧ r.finished = { e' with running := false } := by
  obtain ⟨last, own, staged, finished⟩ := returns.stages
  rw [Engine.processStages, ← Run.planned] at staged
  rw [calls, Run.recorded]
  cases planned : r.planned with
  | mk result rest =>
      obtain ⟨e, w⟩ := rest
      rw [planned] at staged
      cases result with
      | error f => cases staged
      | ok plan =>
          have image := Engine.perform_image (recordedWork_projects r.context) plan e (w.recording [])
          rw [World.plain_recording] at image
          simp only [image] at staged
          cases performed : Engine.perform (Engine.recordedWork r.context) plan e (w.recording []) with
          | mk result rest =>
              obtain ⟨e', w'⟩ := rest
              have record := congrArg (fun t => t.2.2.own.2) performed
              rw [performed] at staged
              cases staged
              exact ⟨plan, e, w, e', w', rfl, performed, record, finished⟩

def passes (r : Run σ) (test : Report → Bool) : Bool :=
  match (r.engine.process r.scanner r.context r.world).1 with
  | .ok report => test report
  | .error _ => false

theorem returns_of_passes {r : Run σ} {test : Report → Bool} (passes : r.passes test = true) :
    ∃ report, r.Returns report ∧ test report = true := by
  rw [Run.passes] at passes
  split at passes
  · exact ⟨_, ‹_›, passes⟩
  · cases passes

end Run

/-! ## A small run -/

namespace Sample

def made : MarkerType := .derive .root 2 "Made" (some "sample") (some (.kind .type))

def declaration (name : String) : Declaration :=
  { kind := .type, owner := .str name, markers := [.mk made []] }

/-- Makes `base` at once and everything else only after it.  A handler that asks names `base`
as required. -/
def handler (asks : Bool) : Handler Bool where
  name := "make"
  typeName := "function"
  expression := "make"
  check _ v c w :=
    match v.declaration.owner with
    | .str "base" => (.ok .null, c, w)
    | _ => (.ok (if asks then .str "base" else .null), c, w)
  handle _ v w :=
    match v.declaration.owner with
    | .str "base" => (.ok true, { w with own := true })
    | _ => (.ok w.own, w)

/-- A run over two types, the second of which is `base`. -/
def run (asks : Bool) : Run Bool where
  engine :=
    { registry := { handlers := [(made, handler asks)], rules := [(made, [])] } }
  scanner := .fixed [declaration "top", declaration "base"]
  context := {}
  world := { own := false }

/-- A type of markers for types whose handler answers every call alike. -/
def steadied (serial : Nat) (name : String) : MarkerType :=
  .derive .root serial name (some "sample") (some (.kind .type))

def steady (answer : Except Fault Bool) : Handler Bool where
  name := "keep"
  typeName := "function"
  expression := "keep"
  check _ _ c w := (.ok .null, c, w)
  handle _ _ w := (answer, w)

/-- A run over four entries.  The types of the first one are made, `top` in a further round only;
those of two others wait in vain, for a handler that refuses its type and for one that fails on
its own; nothing carries a marker of the last one. -/
def waiting : Run Bool :=
  let refused := steadied 3 "Refused"
  let failing := steadied 4 "Failing"
  let spare := steadied 5 "Spare"
  { engine :=
      { registry :=
          { handlers :=
              [(made, handler false), (refused, steady (.ok false)),
                (failing, steady (.error (.injection { message := "closed" }))),
                (spare, steady (.ok true))]
            rules := [(made, []), (refused, []), (failing, []), (spare, [])] } }
    scanner := .fixed
      [declaration "top", { declaration "gate" with markers := [.mk failing []] },
        declaration "base", { declaration "wall" with markers := [.mk refused []] }]
    context := {}
    world := { own := false } }

end Sample

end Marking
