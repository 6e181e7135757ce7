/-
# Marking.Proofs.Engine.Isolation -- runs of one engine do not see each other

An engine that has been called any number of times, however each call ended, is as good as new:
the flag is down, settings and registrations are those of before, and all that has come to be
remembered is the ordering of the registry, which is the one from scratch (`Ready`).  What the
calls left of units, graph and stations is dropped when a run begins.  So the engine runs as a new
one does (`Run.as_new`), if handlers look at nothing but their arguments.

Calls of the engine that handlers make during a run are part of that.  They are refused and change
nothing, and so a handler that swallows the refusals does not tell in the report.
-/
import Marking.Proofs.Engine.Frame
import Marking.Proofs.Engine.Reentry
import Marking.Proofs.Engine.Tracing

set_option autoImplicit false

namespace Marking

open Engine (Petition)
open Registry (Coherent Registration handlersOf)

variable {σ : Type}

/-! ## As new -/

/-- The worlds are related but for their traces, and those are the same. -/
def SameTrace (R : World σ → World σ → Prop) (v v' : World (Traced σ)) : Prop :=
  R v.inner v'.inner ∧ v.own.2 = v'.own.2

theorem sameTrace_likeness {R : World σ → World σ → Prop} (likeness : World.Likeness R) :
    World.Likeness (SameTrace R) where
  types same := likeness.types same.1
  learn types same := ⟨likeness.learn types same.1, same.2⟩
  note j same := ⟨likeness.note j same.1, same.2⟩

/-- Like handlers are traced alike. -/
theorem Handler.Alike.traced {R : World σ → World σ → Prop} (likeness : World.Likeness R)
    {h h' : Handler σ} (like : Handler.Alike R h h') (t : MarkerType) :
    Handler.Alike (SameTrace R) (h.traced t) (h'.traced t) where
  check ctx v k := by
    intro a b same
    have asked := like.check ctx v k same.1
    refine ⟨asked.result, asked.state, asked.world, ?_⟩
    show a.own.2 ++ [.check ⟨t, v, _⟩] = b.own.2 ++ [.check ⟨t, v, _⟩]
    rw [same.2, asked.result]
  handle ctx v := by
    intro a b same
    obtain ⟨result, related⟩ := like.handle ctx v same.1
    have types : a.types = b.types := likeness.types same.1
    refine ⟨result, related, ?_⟩
    show a.own.2 ++ [.handling ⟨t, v, a.types, _⟩] = b.own.2 ++ [.handling ⟨t, v, b.types, _⟩]
    rw [same.2, types, result]

/-- **Engines with the same registrations and settings run the same**: the same report or fault
comes of it, and the same calls of handlers are made, when the handlers do not tell apart the
worlds in which the runs begin. -/
theorem Run.as_new {R : World σ → World σ → Prop} (likeness : World.Likeness R)
    (blind : ∀ {w w'} (j j' : Journal), R w w' → R (w.note j) (w'.note j'))
    {regs : List (Registration σ)} (handlers : ∀ x ∈ regs, Handler.Alike R x.handler x.handler)
    (r r' : Run σ) (registered : Coherent regs r.engine.registry)
    (registered' : Coherent regs r'.engine.registry)
    (settings : r.engine.settings = r'.engine.settings)
    (running : r.engine.running = r'.engine.running) (scanner : r.scanner = r'.scanner)
    (context : r.context = r'.context) (worlds : R r.world r'.world) :
    r.outcome = r'.outcome ∧ r.trace = r'.trace := by
  have traced : ∀ x ∈ regs.map Registration.traced,
      Handler.Alike (SameTrace R) x.handler x.handler := by
    intro x member
    obtain ⟨y, inRegs, rfl⟩ := List.mem_map.1 member
    exact (handlers y inRegs).traced likeness y.marker
  have registries : Registry.Alike (SameTrace R) r.engine.registry.traced r'.engine.registry.traced :=
    registered.traced.alike registered'.traced (fun j j' same => ⟨blind j j' same.1, same.2⟩) traced
  have start : SameTrace R r.traced.world r'.traced.world := ⟨worlds, rfl⟩
  have twins : Engine.Twins (SameTrace R) r.traced.engine r'.traced.engine :=
    ⟨registries, settings, running⟩
  have both := Engine.process_alike (sameTrace_likeness likeness) r.scanner r.context twins start
  obtain ⟨e, _, _, w⟩ := r
  obtain ⟨e', _, _, w'⟩ := r'
  cases scanner
  cases context
  exact ⟨(Run.outcome_traced _).symm.trans (both.1.trans (Run.outcome_traced _)), both.2.2⟩

/-! ## After any calls -/

namespace Engine

/-- The engine is idle, with these registrations and settings. -/
structure Ready (regs : List (Registration σ)) (settings : Settings) (e : Engine σ) : Prop where
  registered : Coherent regs e.registry
  settings : e.settings = settings
  idle : e.running = false

variable {regs : List (Registration σ)} {settings : Settings}

theorem Ready.cleared {e : Engine σ} (ready : Ready regs settings e) : Ready regs settings e.cleared :=
  ⟨ready.registered, ready.settings, ready.idle⟩

/-- Whatever comes of stages that leave the rest alone, the engine is ready again. -/
theorem Ready.exclusively {α : Type} {e : Engine σ} (ready : Ready regs settings e)
    (stages : Engine σ → World σ → Step σ α)
    (frame : ∀ e w, Frame (listed e) (stages e w).2.1) (request : Request) (w : World σ) :
    Ready regs settings (exclusively request e w stages).2.1 := by
  rw [Engine.exclusively, ready.idle]
  have left := frame { e.cleared with running := true } w
  have registry := left.registry.trans (congrArg Prod.fst e.registry.registrations_of_order.2)
  refine { registered := ?_, settings := left.settings.trans ready.settings, idle := rfl }
  show Coherent regs (stages { e.cleared with running := true } w).2.1.registry
  rw [registry]
  exact ready.registered.order.2

variable {regs : List (Registration (Flagged σ))} {e : Engine (Flagged σ)}

/-- **An engine that has been called is ready again**, however the call ended. -/
theorem Ready.answer (ready : Ready regs settings e) (p : Petition) (w : World σ) :
    Ready regs settings (e.answer p w).2.1 := by
  cases p with
  | process scanner ctx types =>
      have left := ready.exclusively (showing fun e w => e.processStages scanner ctx w)
        (fun e w => e.processStages_frame scanner ctx _) .process
        ({ w with types }.beside e.running)
      rw [Engine.answer, processShown]
      generalize Engine.exclusively .process e _ _ = outcome at left ⊢
      obtain ⟨result, last, next⟩ := outcome
      cases result <;> exact left
  | plan scanner ctx types =>
      exact ready.exclusively (showing fun e w => e.planStages scanner ctx w)
        (fun e w => e.planStages_frame scanner ctx _) .plan ({ w with types }.beside e.running)
  | reset =>
      rw [Engine.answer, reset, ready.idle]
      exact ready.cleared

def answerAll : List Petition → Engine (Flagged σ) → World σ → Engine (Flagged σ) × World σ
  | [], e, w => (e, w)
  | p :: ps, e, w =>
    let (_, e, w) := e.answer p w
    answerAll ps e w

theorem Ready.answerAll (ready : Ready regs settings e) (ps : List Petition) (w : World σ) :
    Ready regs settings (answerAll ps e w).1 := by
  induction ps generalizing e w with
  | nil => exact ready
  | cons p ps ih => exact ih (ready.answer p w) _

end Engine

/-! ## Clients -/

/-- A caller that is registered under a marker type. -/
structure Client (σ : Type) where
  marker : MarkerType
  caller : Caller σ
  rules : List Rule

namespace Client

/-- The registration of the caller as a handler that turns to the engine which it finds. -/
def live (now : World (Flagged σ) → Engine (Flagged σ)) (c : Client σ) : Registration (Flagged σ) :=
  ⟨c.marker, c.caller.live now, c.rules⟩

/-- The registration of the caller as a handler whose petitions are all refused. -/
def refused (c : Client σ) : Registration σ := ⟨c.marker, c.caller.refused, c.rules⟩

/-- The client does what the handler does, whatever refusals it gets in between. -/
def Swallows (c : Client σ) (x : Registration σ) : Prop :=
  c.marker = x.marker ∧ c.caller.Swallows x.handler

end Client

def SameTypes (w w' : World σ) : Prop := w.types = w'.types

/-- What the caller does in a run, and what becomes of the known types, is a function of its
arguments and of these types. -/
def Caller.OfArguments (c : Caller σ) : Prop := Handler.Alike SameTypes c.refused c.refused

/-- The flags are up, and the same types are known. -/
def BothUp (w w' : World (Flagged σ)) : Prop :=
  w.types = w'.types ∧ w.own.2 = true ∧ w'.own.2 = true

theorem bothUp_likeness : World.Likeness (BothUp (σ := σ)) where
  types same := same.1
  learn _ same := ⟨rfl, same.2⟩
  note _ same := same

theorem up_likeness : World.Likeness (Caller.Up (σ := σ)) where
  types := by
    rintro _ w rfl
    rfl
  learn := by
    rintro _ w types rfl
    rfl
  note := by
    rintro _ w j rfl
    rfl

variable {now : World (Flagged σ) → Engine (Flagged σ)}

/-- A caller that is a function of its arguments stays one in a run. -/
theorem Caller.OfArguments.live {c : Caller σ} (pure' : c.OfArguments) (shows : Shows now) :
    Handler.Alike BothUp (c.live now) (c.live now) where
  check ctx v k := by
    rintro w w' ⟨types, up, up'⟩
    have types : SameTypes w.inner w'.inner := types
    have asked := Handler.Alike.check pure' ctx v k types
    rw [Caller.live_check shows ctx v k up, Caller.live_check shows ctx v k up']
    exact ⟨asked.result, asked.state, asked.world, rfl, rfl⟩
  handle ctx v := by
    rintro w w' ⟨types, up, up'⟩
    have types : SameTypes w.inner w'.inner := types
    have done := Handler.Alike.handle pure' ctx v types
    rw [Caller.live_handle shows ctx v up, Caller.live_handle shows ctx v up']
    exact ⟨done.1, done.2, rfl, rfl⟩

namespace Engine

def playedBy (e : Engine (Flagged σ)) (plain : List (Registration σ)) : Engine σ where
  registry :=
    { handlers := handlersOf plain, rules := e.registry.rules, ordering := e.registry.ordering }
  settings := e.settings
  running := e.running

variable {clients : List (Client σ)} {e : Engine (Flagged σ)} {plain : List (Registration σ)}

/-- In a run the client does what the handler does. -/
def PlayedBy (now : World (Flagged σ) → Engine (Flagged σ)) (c : Client σ) (x : Registration σ) :
    Prop :=
  c.marker = x.marker ∧ Handler.Alike Caller.Up (c.caller.live now) x.handler

theorem refused_plays (shows : Shows now) (clients : List (Client σ)) :
    List.Forall₂ (PlayedBy now) clients (clients.map Client.refused) :=
  List.forall₂_map_right_iff.2 (List.forall₂_same.2 fun c _ => ⟨rfl, c.caller.live_alike shows⟩)

/-- Handlers that do in a run what the clients do take their places unnoticed. -/
theorem playedBy_twins (registered : Coherent (clients.map (Client.live now)) e.registry)
    (like : List.Forall₂ (PlayedBy now) clients plain) : Twins Caller.Up e (e.playedBy plain) := by
  have likewise : Registry.Likewise Caller.Up e.registry (e.playedBy plain).registry := by
    refine ⟨?_, rfl⟩
    rw [registered.handlers, handlersOf, List.map_map]
    exact List.forall₂_map_left_iff.2 (List.forall₂_map_right_iff.2 like)
  obtain ⟨same, notes⟩ := likewise.order rfl
  refine ⟨likewise.alike same fun up => ?_, rfl, rfl⟩
  rw [notes]
  exact up_likeness.note _ up

/-- A run of clients is one of the handlers that take their places. -/
theorem processShown_playedBy (registered : Coherent (clients.map (Client.live now)) e.registry)
    (like : List.Forall₂ (PlayedBy now) clients plain) (scanner : Scanner) (ctx : Context)
    (w : World σ) :
    (e.processShown scanner ctx w).1 = ((e.playedBy plain).process scanner ctx w).1 ∧
      (e.processShown scanner ctx w).2.2 = ((e.playedBy plain).process scanner ctx w).2.2 := by
  have ran := process_alike up_likeness scanner ctx (playedBy_twins registered like)
    (rfl : Caller.Up (w.beside true) w)
  rw [processShown_eq]
  exact ⟨ran.1, congrArg World.inner ran.2⟩

def shownStages (e : Engine (Flagged σ)) (scanner : Scanner) (ctx : Context) (w : World σ) :
    Step (Flagged σ) Report :=
  processStages { e.cleared with running := true } scanner ctx (w.beside true)

def shownRun (e : Engine (Flagged σ)) (scanner : Scanner) (ctx : Context) (w : World σ) :
    Run (Flagged σ) := ⟨e, scanner, ctx, w.beside true⟩

/-- Calls of the engine `e` have led to `after`, and neither do they show in later runs nor do
calls that handlers make during a run show in that. -/
structure Isolated (clients : List (Client σ)) (now : World (Flagged σ) → Engine (Flagged σ))
    (e after : Engine (Flagged σ)) : Prop where
  /-- The engine is idle, with the registrations and the settings that it had. -/
  ready : Ready (clients.map (Client.live now)) e.settings after
  /-- While a run is going on every petition is refused, and changes nothing. -/
  refused : ∀ (busy : Engine (Flagged σ)) (p : Petition) (w : World σ), busy.running = true →
    ∃ f : Fault, f.errorClass = .runtime ∧ busy.answer p w = (.error f, busy, w)
  /-- No stage takes the flag down, neither the engine's own nor the one that handlers find. -/
  flag : ∀ (scanner : Scanner) (ctx : Context) (w : World σ),
    (after.shownStages scanner ctx w).2.1.running = true ∧
      (after.shownStages scanner ctx w).2.2.own.2 = true
  /-- A run of clients is one of handlers whose petitions are all refused. -/
  allRefused : ∀ (scanner : Scanner) (ctx : Context) (w : World σ),
    (after.processShown scanner ctx w).1 =
        ((after.playedBy (clients.map Client.refused)).process scanner ctx w).1 ∧
      (after.processShown scanner ctx w).2.2 =
        ((after.playedBy (clients.map Client.refused)).process scanner ctx w).2.2
  /-- A run of clients that swallow the refusals is one of handlers that make no petitions. -/
  swallowed : ∀ plain : List (Registration σ), List.Forall₂ Client.Swallows clients plain →
    ∀ (scanner : Scanner) (ctx : Context) (w : World σ),
      (after.processShown scanner ctx w).1 = ((after.playedBy plain).process scanner ctx w).1 ∧
        (after.processShown scanner ctx w).2.2 = ((after.playedBy plain).process scanner ctx w).2.2
  /-- Clients that are functions of their arguments are called as on a new engine, and the report
  is the same. -/
  asNew : (∀ c ∈ clients, c.caller.OfArguments) → ∀ new : Engine (Flagged σ),
    Ready (clients.map (Client.live now)) e.settings new →
      ∀ (scanner : Scanner) (ctx : Context) (w w' : World σ), w.types = w'.types →
        (after.processShown scanner ctx w).1 = (new.processShown scanner ctx w').1 ∧
          (after.shownRun scanner ctx w).trace = (new.shownRun scanner ctx w').trace

/-- No stage takes the flag down. -/
theorem shownStages_flag (shows : Shows now)
    (registered : Coherent (clients.map (Client.live now)) e.registry) (scanner : Scanner)
    (ctx : Context) (w : World σ) :
    (e.shownStages scanner ctx w).2.1.running = true ∧
      (e.shownStages scanner ctx w).2.2.own.2 = true := by
  have frame := processStages_frame { e.cleared with running := true } scanner ctx (w.beside true)
  have twins := playedBy_twins registered (refused_plays shows clients)
  have staged := processStages_alike up_likeness scanner ctx twins.cleared (units_cleared twins) .nil
    (rfl : Caller.Up (w.beside true) w)
  exact ⟨frame.running, congrArg (fun w : World (Flagged σ) => w.own.2) staged.2⟩

/-- **Runs of one engine do not see each other**, nor what their handlers ask of the engine. -/
theorem isolated (shows : Shows now)
    (registered : Coherent (clients.map (Client.live now)) e.registry) (idle : e.running = false)
    (calls : List Petition) (w : World σ) :
    Isolated clients now e (answerAll calls e w).1 := by
  have ready : Ready (clients.map (Client.live now)) e.settings (answerAll calls e w).1 :=
    Ready.answerAll ⟨registered, rfl, idle⟩ calls w
  refine
    { ready
      refused := fun busy p w up => ⟨p.refusal, p.refusal_runtime, answer_running up p w⟩
      flag := shownStages_flag shows ready.registered
      allRefused := processShown_playedBy ready.registered (refused_plays shows clients)
      swallowed := fun plain swallows => processShown_playedBy ready.registered
        (swallows.imp fun c x both => ⟨both.1, both.2.alike shows⟩)
      asNew := fun pure' new new' scanner ctx w w' types => ?_ }
  have handlers : ∀ x ∈ clients.map (Client.live now), Handler.Alike BothUp x.handler x.handler := by
    intro x member
    obtain ⟨c, isClient, rfl⟩ := List.mem_map.1 member
    exact (pure' c isClient).live shows
  rw [processShown_eq, processShown_eq]
  exact Run.as_new bothUp_likeness (fun _ _ same => same) handlers (shownRun _ scanner ctx w)
    (shownRun new scanner ctx w') ready.registered new'.registered
    (ready.settings.trans new'.settings.symm) (ready.idle.trans new'.idle.symm) rfl rfl
    ⟨types, rfl, rfl⟩

end Engine

namespace Sample

/-- Everything but `base` comes after `base`. -/
def orderly : Handler Unit where
  name := "orderly"
  typeName := "function"
  expression := "orderly"
  check _ v c w :=
    match v.declaration.owner with
    | .str "base" => (.ok .null, c, w)
    | _ => (.ok (.str "base"), c, w)
  handle _ _ w := (.ok true, w)

/-- Turns to the engine first, and then is orderly whatever the engine says. -/
def meddler : Caller Unit where
  name := "meddler"
  typeName := "function"
  expression := "meddler"
  check ctx v k w := .ask .reset w fun _ w =>
    .done ((orderly.check ctx v k w).1, (orderly.check ctx v k w).2.1) (orderly.check ctx v k w).2.2
  handle ctx v w := .ask (.process (.fixed []) ctx {}) w fun _ w =>
    .done (orderly.handle ctx v w).1 (orderly.handle ctx v w).2

def meddling : List (Client Unit) := [⟨made, meddler, []⟩]

def found (w : World (Flagged Unit)) : Engine (Flagged Unit) := { running := w.own.2 }

def meddled : Engine (Flagged Unit) where
  registry := { handlers := [(made, meddler.live found)], rules := [(made, [])] }

/-- Calls of which the first comes to its end and the second does not, since an owner has no
key. -/
def calls : List Petition :=
  [.process (.fixed [declaration "top", declaration "base"]) {} {},
    .process (.fixed [declaration "base", { declaration "top" with owner := .null }]) {} {},
    .plan (.fixed [declaration "top"]) {} {}]

theorem meddled_coherent : Coherent (meddling.map (Client.live found)) meddled.registry where
  handlers := rfl
  rules := rfl
  distinct := by decide
  remembered _ absurd' := nomatch absurd'

theorem meddler_swallows : meddler.Swallows orderly where
  check _ _ _ _ := .ask fun _ _ => .done
  handle _ _ _ := .ask fun _ _ => .done

theorem meddler_ofArguments : meddler.OfArguments := by
  have check : ∀ ctx v k (w : World Unit), meddler.refused.check ctx v k w =
      ((orderly.check ctx v k w).1, k, w) := by
    intro ctx v k w
    show (_, (orderly.check ctx v k w).2.1, (orderly.check ctx v k w).2.2) = _
    rw [orderly]
    dsimp only
    split <;> rfl
  have answer : ∀ ctx v k (w w' : World Unit),
      (orderly.check ctx v k w).1 = (orderly.check ctx v k w').1 := by
    intro ctx v k w w'
    rw [orderly]
    dsimp only
    split <;> rfl
  refine ⟨fun ctx v k w w' same => ?_, fun _ _ _ _ same => ⟨rfl, same⟩⟩
  rw [check, check]
  exact ⟨answer ctx v k w w', rfl, same⟩

theorem meddling_isolated : Shows found ∧
    Coherent (meddling.map (Client.live found)) meddled.registry ∧ meddled.running = false ∧
      meddled.Isolated meddling found (Engine.answerAll calls meddled { own := () }).1 ∧
        List.Forall₂ Client.Swallows meddling [⟨made, orderly, []⟩] ∧
          (∀ c ∈ meddling, c.caller.OfArguments) ∧
            ((Engine.answerAll calls meddled { own := () }).1.shownRun
              (.fixed [declaration "top", declaration "base"]) {} { own := () }).passes
                (fun report => report.order.map UnitKey.name == ["base", "top"]) = true :=
  ⟨fun _ => rfl, meddled_coherent, rfl,
    Engine.isolated (fun _ => rfl) meddled_coherent rfl calls { own := () },
    .cons ⟨rfl, meddler_swallows⟩ .nil, List.forall_mem_singleton.2 meddler_ofArguments,
    by decide +kernel⟩

end Sample

end Marking
