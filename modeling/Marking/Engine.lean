/-
# Marking.Engine -- discover, merge, order, execute, retry

A run goes through five stages.  Every station, in the order of the rules, discovers
its declarations; the units that were found are merged by key; the graph of the
merged units is ordered; every piece of work is attempted once in that order; and
the stations with work left retry it, round after round, while some round makes
progress.

An engine keeps the units, the graph and the stations of its latest run.  A run
begins by dropping them and is refused while another run is going on.
-/
import Marking.Report

set_option autoImplicit false

namespace Marking

/-- A registry with settings, and what the latest run left. -/
structure Engine (σ : Type) where
  registry : Registry σ := {}
  settings : Settings := {}
  /-- A run is going on. -/
  running : Bool := false
  units : UnitTable (Delegate σ) := {}
  graph : Option (DependencyGraph (Delegate σ)) := none
  stations : List (Station σ) := []

/-- What is known before any work is done. -/
structure Plan (σ : Type) where
  schedule : Schedule (Delegate σ)
  stations : List (Station σ)
  missing : List (UnitKey × List UnitKey)
  structural : List StructuralFault

namespace Engine

variable {σ : Type}

def source : String := "core.processor"

/-- An action of an engine in a world, whose state may be of another type than that of
the handlers. -/
abbrev StepIn (τ σ α : Type) := Except Fault α × Engine σ × World τ

abbrev Step (σ α : Type) := StepIn σ σ α

/-- What a run may ask of an engine while a run is going on. -/
inductive Request where
  | process
  | plan
  | reset
  deriving DecidableEq, Repr

def Request.name : Request → String
  | process => "process"
  | plan => "plan"
  | reset => "reset"

/-- Refuses a request while a run is going on. -/
def guard (running : Bool) (r : Request) : Except Fault Unit :=
  if running then
    match r with
    | .process | .plan => .error .reentered
    | .reset => .error .resetWhileRunning
  else .ok ()

def cleared (e : Engine σ) : Engine σ :=
  { e with units := { policy := e.settings.mergePolicy }, graph := none, stations := [] }

def ofSettings (s : Settings) : Engine σ := cleared { settings := s }

def reset (e : Engine σ) : Except Fault Unit × Engine σ :=
  match guard e.running .reset with
  | .error f => (.error f, e)
  | .ok () => (.ok (), e.cleared)

def register (e : Engine σ) (marker : Value) (offer : Offer σ) (rules : RuleOffer) (w : World σ) :
    Step σ Unit :=
  let (result, registry, notes) := e.registry.register marker offer rules
  (result, { e with registry }, w.note notes)

def deregister (e : Engine σ) (marker : Value) (w : World σ) : Step σ Unit :=
  let (result, registry, notes) := e.registry.deregister marker
  (result, { e with registry }, w.note notes)

/-- Sets up an empty station for every registration. -/
def prepare (e : Engine σ) (w : World σ) : Step σ Unit :=
  let (result, registry, notes) := e.registry.registrations
  let e := { e with registry }
  let w := w.note notes
  match result with
  | .error f => (.error f, e, w)
  | .ok rs => (.ok (), { e with stations := rs.map Station.ofRegistration }, w)

/-- Lets the stations from `position` on discover, and merges their units. -/
def discoverFrom (e : Engine σ) (d : Discovery) : (position : Nat) → List (Station σ) →
    World σ → Except Fault Unit × Discovery × Engine σ × World σ
  | _, [], w => (.ok (), d, e, w)
  | position, s :: rest, w =>
    let (units, d, s, w) := d.discover position s w
    let e := { e with stations := e.stations.set position s }
    match units with
    | .error f => (.error f, d, e, w)
    | .ok us =>
      let (units, notes) := e.units.addAll us
      discoverFrom { e with units } d (position + 1) rest (w.note notes)

def arrange (e : Engine σ) (structural : List StructuralFault) (w : World σ) :
    Plan σ × Engine σ × World σ :=
  let graph := DependencyGraph.ofUnits e.units.units
  let (schedule, notes) := Schedule.ofGraph e.settings.strictOrder graph
  let note := Record.debug source ("Scheduled " ++ toString schedule.order.length ++
    " unit(s) from " ++ toString e.stations.length ++ " marker(s): " ++
    ", ".intercalate (schedule.keys.map UnitKey.name))
  (⟨schedule, e.stations, graph.missing, structural⟩, { e with graph := some graph },
    w.note (notes ++ [note]))

def planStages (e : Engine σ) (scanner : Scanner) (ctx : Context) (w : World σ) :
    Step σ (Plan σ) :=
  match e.prepare w with
  | (.error f, e, w) => (.error f, e, w)
  | (.ok (), e, w) =>
    match discoverFrom e { scanner, context := ctx } 0 e.stations w with
    | (.error f, _, e, w) => (.error f, e, w)
    | (.ok (), d, e, w) =>
      let (plan, e, w) := e.arrange d.structural w
      (.ok plan, e, w)

/-- How a run processes a piece of work; nothing is queued meanwhile. -/
def work (ctx : Context) : Entry.Process σ (Delegate σ) := fun d w =>
  let (result, w) := d.process ctx w
  (result, [], w)

section Execution

variable {τ : Type} (process : Entry.Process τ (Delegate σ))

def attempt (e : Engine σ) (d : Delegate σ) (w : World τ) : StepIn τ σ Unit :=
  match e.stations[d.entry]? with
  | none => (.ok (), e, w)
  | some s =>
    let (result, entry, w) := s.entry.attempt process d w
    (result.map fun _ => (), { e with stations := e.stations.set d.entry { s with entry } }, w)

/-- Attempts pieces of work in turn, up to the first fault. -/
def execute : List (Delegate σ) → Engine σ → World τ → StepIn τ σ Unit
  | [], e, w => (.ok (), e, w)
  | d :: ds, e, w =>
    match attempt process e d w with
    | (.error f, e, w) => (.error f, e, w)
    | (.ok (), e, w) => execute ds e w

/-- The positions of the stations with work left. -/
def unfinished (e : Engine σ) : List Nat :=
  (List.range e.stations.length).filter fun i =>
    match e.stations[i]? with
    | some s => !s.entry.isComplete
    | none => false

/-- Retries at the given stations; true says that one of them made progress. -/
def retryAt : List Nat → Engine σ → World τ → StepIn τ σ Bool
  | [], e, w => (.ok false, e, w)
  | i :: rest, e, w =>
    match e.stations[i]? with
    | none => retryAt rest e w
    | some s =>
      let (result, entry, w) := s.entry.processAll process s.entry.queue.length w
      let e := { e with stations := e.stations.set i { s with entry } }
      match result with
      | .error f => (.error f, e, w)
      | .ok _ =>
        let (more, e, w) := retryAt rest e w
        (more.map fun b => decide (0 < entry.removed) || b, e, w)

/-- Rounds of retries, `limit` at most: the number of rounds. -/
def retry : (limit : Nat) → (rounds : Nat) → Engine σ → World τ → StepIn τ σ Nat
  | 0, rounds, e, w => (.ok rounds, e, w)
  | limit + 1, rounds, e, w =>
    match e.unfinished with
    | [] => (.ok rounds, e, w)
    | is =>
      match retryAt process is e w with
      | (.error f, e, w) => (.error f, e, w)
      | (.ok progress, e, w) =>
        let rounds := rounds + 1
        let w := w.note [.debug source ("Retry round " ++ toString rounds ++ ": progress=" ++
          boolText progress)]
        if progress then retry limit rounds e w else (.ok rounds, e, w)

end Execution

def reportOn (plan : Plan σ) (e : Engine σ) (rounds : Nat) : Report where
  order := plan.schedule.keys
  cycles := plan.schedule.cycles
  forced := plan.schedule.forced
  missing := plan.missing
  structural := plan.structural
  entries := e.stations.map fun s => EntrySummary.ofEntry s.entry
  rounds := rounds

/-- Does the planned work: attempts all of it in order and retries what is left. -/
def perform {τ : Type} (process : Entry.Process τ (Delegate σ)) (plan : Plan σ) (e : Engine σ)
    (w : World τ) : StepIn τ σ Report :=
  match execute process (plan.schedule.order.flatMap WorkUnit.items) e w with
  | (.error f, e, w) => (.error f, e, w)
  | (.ok (), e, w) =>
    match retry process e.settings.maxRounds.toNat 0 e w with
    | (.error f, e, w) => (.error f, e, w)
    | (.ok rounds, e, w) => (.ok (reportOn plan e rounds), e, w)

def processStages (e : Engine σ) (scanner : Scanner) (ctx : Context) (w : World σ) :
    Step σ Report :=
  match e.planStages scanner ctx w with
  | (.error f, e, w) => (.error f, e, w)
  | (.ok plan, e, w) => perform (work ctx) plan e w

/-- Runs stages on a cleared engine that counts as running meanwhile. -/
def exclusively {α : Type} (request : Request) (e : Engine σ) (w : World σ)
    (stages : Engine σ → World σ → Step σ α) : Step σ α :=
  match guard e.running request with
  | .error f => (.error f, e, w)
  | .ok () =>
    let (result, e, w) := stages { e.cleared with running := true } w
    (result, { e with running := false }, w)

/-- Discovers and orders without doing any work. -/
def plan (e : Engine σ) (scanner : Scanner) (ctx : Context) (w : World σ) : Step σ (Plan σ) :=
  exclusively .plan e w fun e w => e.planStages scanner ctx w

def leftovers (r : Report) : Journal :=
  r.pending.map fun (marker, keys) =>
    .warning source ("@" ++ marker ++ ": " ++ toString keys.length ++
      " declaration(s) could not be processed: " ++ ", ".intercalate (keys.map UnitKey.name))

def process (e : Engine σ) (scanner : Scanner) (ctx : Context) (w : World σ) : Step σ Report :=
  match exclusively .process e w fun e w => e.processStages scanner ctx w with
  | (.error f, e, w) => (.error f, e, w)
  | (.ok r, e, w) => (.ok r, e, w.note (leftovers r))

def registerAll (e : Engine σ) : List (MarkerType × Handler σ × RuleOffer) → World σ →
    Step σ Unit
  | [], w => (.ok (), e, w)
  | (t, h, rules) :: rest, w =>
    match e.register (.markerType t) (.handler h) rules w with
    | (.error f, e, w) => (.error f, e, w)
    | (.ok (), e, w) => e.registerAll rest w

/-- Handlers by marker type: a repeated one keeps its place and takes the last
handler. -/
def gatherHandlers (hs : List (MarkerType × Handler σ × RuleOffer)) :
    List (MarkerType × Handler σ × RuleOffer) :=
  hs.foldl
    (fun kept h =>
      if kept.any (fun k => k.1 == h.1) then kept.map fun k => if k.1 == h.1 then h else k
      else kept ++ [h])
    []

/-- One run of handlers over packages, on an engine of its own. -/
def runOnce (environment : Option String) (base : Settings) (packages : List String)
    (testMode : Option Bool) (handlers : List (MarkerType × Handler σ × RuleOffer))
    (scanner : Scanner) (w : World σ) : Except Fault Report × World σ :=
  match base.withOverrides { packages := some packages, testMode } with
  | .error f => (.error f, w)
  | .ok settings =>
    match (ofSettings settings).registerAll handlers w with
    | (.error f, _, w) => (.error f, w)
    | (.ok (), e, w) =>
      let (result, _, w) := e.process scanner (.ofSettings environment settings) w
      (result, w)

end Engine

end Marking
